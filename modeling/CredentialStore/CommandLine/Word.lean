import CredentialStore.CommandLine.Misuse

namespace CredentialStore.CommandLine

/-- One or more flags in one word. All but the last take no value. -/
structure FlagGroup where
  before : List Flag := []
  last : Flag
  /-- The value that the word itself gives to the last flag. -/
  value : Option Text := none
  deriving DecidableEq, Repr

namespace FlagGroup

/-- Whether the value of the last flag is still to come. -/
def awaitsValue (g : FlagGroup) : Bool := g.last.takesValue && g.value.isNone

def after (first : Flag) (g : FlagGroup) : FlagGroup := { g with before := first :: g.before }

/-- Reads what follows the letter of a flag in one word: its value if it takes one, and else the
    letters of more flags. -/
def ofLetters (f : Flag) : Text → Except Misuse FlagGroup
  | [] => pure { last := f }
  | c :: rest =>
    if f.takesValue then pure { last := f, value := some (c :: rest) }
    else match Flag.ofLetter? c with
      | none => throw (.valueRefused f (c :: rest))
      | some next => (ofLetters next rest).map (after f)

/-- Reads a flag and the text that is attached to it, if any. Only letters that follow a short name
    can be more flags. -/
def ofFlag (f : Flag) (isShort : Bool) : Option Text → Except Misuse FlagGroup
  | none => pure { last := f }
  | some attached =>
    if f.takesValue then pure { last := f, value := some attached }
    else if isShort && !attached.isEmpty then ofLetters f attached
    else throw (.valueRefused f attached)

end FlagGroup

inductive Word
  | plain (t : Text)
  /-- The separator, after which all words are plain. -/
  | separator
  /-- A flag by its short or long name, and the text attached to it. -/
  | flag (f : Flag) (isShort : Bool) (attached : Option Text)
  /-- A word that looks like a flag and is none. -/
  | unknown (t : Text)
  deriving DecidableEq, Repr

namespace Word

/-- The word that separates flags from plain words. -/
def separatorText : Text := text "--"

/-- What stands before and after the first equals sign, if there is one. -/
def splitAtEquals (t : Text) : Option (Text × Text) :=
  let name := t.takeWhile (· ≠ CodePoint.ofChar '=')
  match t.drop name.length with
  | [] => none
  | _ :: value => some (name, value)

/-- The flag of a whole name; the truth value tells whether the name is a short one. -/
def named? (name : Text) : Option (Flag × Bool) :=
  match Flag.ofShortName? name with
  | some f => some (f, true)
  | none => (Flag.ofLongName? name).map fun f => (f, false)

/-- Reads a word by what its beginning names: the long names that begin as it does up to an equals
    sign, or one letter and what follows it. -/
def abbreviated? (t : Text) : Except Misuse (Option Word) :=
  if separatorText.isPrefixOf t then
    let (name, attached) := match splitAtEquals t with
      | some (name, value) => (name, some value)
      | none => (t, none)
    match Flag.startingWith name with
    | [] => pure none
    | [f] => pure (some (.flag f false attached))
    | candidates => throw (.ambiguous t candidates)
  else
    pure ((Flag.ofShortName? (t.take 2)).map fun f => .flag f true (some (t.drop 2)))

/-- Whether a text is a negative number: a minus sign and decimal digits of any script, with a point
    somewhere before the last of them if anywhere. A line feed may follow. -/
def isNegativeNumber : Text → Bool
  | [] => false
  | sign :: rest =>
    let body := if rest.getLast? = some (CodePoint.ofChar '\n') then rest.dropLast else rest
    let isDigit (c : CodePoint) : Bool := c.digit?.isSome
    let fraction := body.dropWhile isDigit
    sign = CodePoint.ofChar '-' &&
      match fraction with
      | [] => !body.isEmpty
      | point :: digits => point = CodePoint.ofChar '.' && !digits.isEmpty && digits.all isDigit

/-- What a word is before the separator. -/
def ofText (t : Text) : Except Misuse Word :=
  if t.head? ≠ some (CodePoint.ofChar '-') then pure (.plain t)
  else match named? t with
    | some (f, isShort) => pure (.flag f isShort none)
    | none =>
      if t.length = 1 then pure (.plain t)
      else match (splitAtEquals t).bind fun (name, value) => (named? name).map (·, value) with
        | some ((f, isShort), value) => pure (.flag f isShort (some value))
        | none => do
          match ← abbreviated? t with
          | some word => pure word
          | none =>
            if isNegativeNumber t || t.contains (CodePoint.ofChar ' ') then pure (.plain t)
            else pure (.unknown t)

def ofTexts : List Text → Except Misuse (List Word)
  | [] => pure []
  | t :: rest =>
    if t = separatorText then pure (.separator :: rest.map .plain)
    else do
      let word ← ofText t
      let words ← ofTexts rest
      pure (word :: words)

end Word

end CredentialStore.CommandLine
