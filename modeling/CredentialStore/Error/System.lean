import CredentialStore.Text.Basic

namespace CredentialStore

/-- The numbered causes that a file-system call can report. -/
inductive Errno
  | notPermitted
  | notFound
  | interrupted
  | inputOutput
  | badDescriptor
  | accessDenied
  | alreadyExists
  | crossDevice
  | notDirectory
  | isDirectory
  | invalidArgument
  | tooManyOpen
  | noSpace
  | readOnly
  | nameTooLong
  | notEmpty
  | notSupported
  | quotaExceeded
  deriving DecidableEq, Repr

/-- The customary description of a numbered cause. -/
def Errno.description : Errno → Text
  | notPermitted => text "Operation not permitted"
  | notFound => text "No such file or directory"
  | interrupted => text "Interrupted system call"
  | inputOutput => text "Input/output error"
  | badDescriptor => text "Bad file descriptor"
  | accessDenied => text "Permission denied"
  | alreadyExists => text "File exists"
  | crossDevice => text "Invalid cross-device link"
  | notDirectory => text "Not a directory"
  | isDirectory => text "Is a directory"
  | invalidArgument => text "Invalid argument"
  | tooManyOpen => text "Too many open files"
  | noSpace => text "No space left on device"
  | readOnly => text "Read-only file system"
  | nameTooLong => text "File name too long"
  | notEmpty => text "Directory not empty"
  | notSupported => text "Operation not supported"
  | quotaExceeded => text "Disk quota exceeded"

/-- All numbered causes and their customary numbers. -/
def Errno.numbers : List (Nat × Errno) :=
  [(1, notPermitted), (2, notFound), (4, interrupted), (5, inputOutput), (9, badDescriptor),
    (13, accessDenied), (17, alreadyExists), (18, crossDevice), (20, notDirectory), (21, isDirectory),
    (22, invalidArgument), (24, tooManyOpen), (28, noSpace), (30, readOnly), (36, nameTooLong),
    (39, notEmpty), (95, notSupported), (122, quotaExceeded)]

def Errno.ofNumber? (n : Nat) : Option Errno := numbers.lookup n

inductive SystemError
  | numbered (errno : Errno)
  | unnumbered (description : Text)
  deriving DecidableEq, Repr

namespace SystemError

def description : SystemError → Text
  | numbered errno => errno.description
  | unnumbered description => description

end SystemError

end CredentialStore
