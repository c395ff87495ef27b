import CredentialStore.CommandLine.Word
import CredentialStore.Transaction.Basic

namespace CredentialStore.CommandLine

structure Request where
  operation : Operation := .change
  user : Option Text := none
  group : Option Text := none
  serverRoot : Option Text := none
  deriving DecidableEq, Repr

/-- Why reading a command line stops without a request. -/
inductive Interruption
  /-- Help is asked for. -/
  | help
  | misuse (m : Misuse)
  deriving DecidableEq, Repr

namespace Request

/-- The flag that asks for an operation. A change is what is done where no flag asks for anything else. -/
def flagFor? : Operation → Option Flag
  | .add => some .add
  | .delete => some .delete
  | .change => none

/-- The place of the plain word that names the user. -/
inductive Place
  /-- Nothing stands there yet. -/
  | free
  /-- A separator stands there and the name may follow it. -/
  | opened
  /-- The name stands there, and a separator may follow it. -/
  | filled
  | closed
  deriving DecidableEq, Repr

structure Draft where
  request : Request := {}
  place : Place := .free
  /-- Flags of the last word, of which the last one waits for its value. -/
  waiting : Option FlagGroup := none
  /-- Words for which there is no use, in order. -/
  leftOver : List Text := []
  deriving DecidableEq, Repr

namespace Draft

/-- Chooses the operation, unless another flag has chosen a different one. -/
def choose (d : Draft) (flag : Flag) (operation : Operation) : Except Interruption Draft :=
  match flagFor? d.request.operation with
  | some earlier => if earlier = flag then pure d else throw (.misuse (.conflict flag earlier))
  | none => pure { d with request := { d.request with operation } }

/-- The effect of a flag, with its value if it takes one. A separator is no value. -/
def obey (d : Draft) (flag : Flag) (value : Option Text) : Except Interruption Draft :=
  let value := value.filter (· ≠ Word.separatorText)
  match flag with
  | .help => throw .help
  | .add => d.choose .add .add
  | .delete => d.choose .delete .delete
  | .group => pure { d with request := { d.request with group := value } }
  | .serverRoot => pure { d with request := { d.request with serverRoot := value } }

/-- The effect of the flags of one word. -/
def obeyAll (d : Draft) (g : FlagGroup) : Except Interruption Draft := do
  let d ← g.before.foldlM (fun d flag => d.obey flag none) d
  d.obey g.last g.value

/-- Nothing may follow a name at its place any more. -/
def leave (d : Draft) : Draft :=
  { d with place := match d.place with
    | .filled => .closed
    | place => place }

/-- Keeps a word for which there is no use. -/
def keep (d : Draft) (t : Text) : Draft := { d.leave with leftOver := d.leftOver ++ [t] }

def plain (d : Draft) (t : Text) : Draft :=
  match d.place with
  | .free => { d with request := { d.request with user := some t }, place := .filled }
  | .opened => { d with request := { d.request with user := some t }, place := .closed }
  | .filled | .closed => d.keep t

def separator (d : Draft) : Draft :=
  match d.place with
  | .free => { d with place := .opened }
  | .filled => { d with place := .closed }
  | .opened | .closed => d.keep Word.separatorText

/-- Reads a word that is not the value of a flag before it. -/
def readWord (d : Draft) : Word → Except Interruption Draft
  | .plain t => pure (d.plain t)
  | .separator => pure d.separator
  | .unknown t => pure (d.keep t)
  | .flag f isShort attached =>
    match FlagGroup.ofFlag f isShort attached with
    | .error m => throw (.misuse m)
    | .ok group =>
      if group.awaitsValue then pure { d.leave with waiting := some group }
      else d.leave.obeyAll group

/-- Reads a word: the value that a flag waits for, or a word of its own. -/
def read (d : Draft) (word : Word) : Except Interruption Draft :=
  match d.waiting, word with
  | none, word => d.readWord word
  | some group, .plain value => { d with waiting := none }.obeyAll { group with value := some value }
  | some group, _ => throw (.misuse (.valueMissing group.last))

/-- The request, once all words are read. -/
def finish (d : Draft) : Except Interruption Request :=
  match d.waiting, d.leftOver with
  | some group, _ => throw (.misuse (.valueMissing group.last))
  | none, [] => pure d.request
  | none, words => throw (.misuse (.unrecognized words))

end Draft

/-- The request of a command line. Words that no flag fits alone are complained of first. -/
def ofTexts (words : List Text) : Except Interruption Request :=
  match Word.ofTexts words with
  | .error m => throw (.misuse m)
  | .ok words => words.foldlM Draft.read {} >>= Draft.finish

end Request

end CredentialStore.CommandLine
