import CredentialStore.Log.Json
import CredentialStore.Text.Numeral

namespace CredentialStore.Log.Json

/-- A mark between values, or a value that is neither a list nor an object. -/
inductive Symbol
  | listOpen
  | listClose
  | objectOpen
  | objectClose
  | comma
  | colon
  | scalar (v : Value)
  deriving DecidableEq

/-- What is open around a value: a list with the items before it, or an object with the members before it and
    its name. -/
inductive Frame
  | items (before : List Value)
  | member (before : Fields) (name : Text)

/-- What is to come, inside of the frames that are open, the innermost first. -/
inductive Reading
  | item (around : List Frame)
  /-- The first item of a list, or its end. -/
  | itemOrEnd (around : List Frame)
  | name (before : Fields) (around : List Frame)
  /-- The first name of an object, or its end. -/
  | nameOrEnd (around : List Frame)
  | colon (before : Fields) (name : Text) (around : List Frame)
  /-- Nothing but what ends the value or parts it from the next one. -/
  | done (v : Value) (around : List Frame)

namespace Reading

/-- A symbol begins a value. -/
def enter (around : List Frame) : Symbol → Option Reading
  | .scalar v => some (done v around)
  | .listOpen => some (itemOrEnd around)
  | .objectOpen => some (nameOrEnd around)
  | _ => none

def next : Reading → Symbol → Option Reading
  | item around, symbol => enter around symbol
  | itemOrEnd around, .listClose => some (done (.list []) around)
  | itemOrEnd around, symbol => enter (.items [] :: around) symbol
  | name before around, .scalar (.string t) => some (colon before t around)
  | nameOrEnd around, .scalar (.string t) => some (colon [] t around)
  | nameOrEnd around, .objectClose => some (done (.object []) around)
  | colon before t around, .colon => some (item (.member before t :: around))
  | done v (.items before :: around), .comma => some (item (.items (before ++ [v]) :: around))
  | done v (.items before :: around), .listClose => some (done (.list (before ++ [v])) around)
  | done v (.member before t :: around), .comma => some (name (before ++ [(t, v)]) around)
  | done v (.member before t :: around), .objectClose => some (done (.object (before ++ [(t, v)])) around)
  | _, _ => none

end Reading

/-- Where a reader is in an escape. -/
inductive Escape
  | outside
  /-- After the backslash. -/
  | begun
  /-- In the four digits of a unit: how many follow the next one, and the value of those that were read. -/
  | digits (left value : Nat)

/-- The inside of a string as far as it was read. -/
structure Quoted where
  read : Text := []
  /-- A unit at its end that is half of a code point if the other half is escaped next. -/
  high : Option Nat := none
  escape : Escape := .outside

namespace Quoted

/-- What was read, where no other half follows. -/
def settled (q : Quoted) : Text := q.read ++ (q.high.map (Fin.ofNat 0x110000)).toList

def add (q : Quoted) (c : CodePoint) : Quoted := { read := q.settled ++ [c] }

/-- Adds an escaped unit. -/
def addUnit (q : Quoted) (u : Nat) : Quoted :=
  if 0xD800 ≤ u ∧ u ≤ 0xDBFF then { read := q.settled, high := some u }
  else if 0xDC00 ≤ u ∧ u ≤ 0xDFFF then
    match q.high with
    | some h => { read := q.read ++ [Fin.ofNat 0x110000 (0x10000 + (h - 0xD800) * 0x400 + (u - 0xDC00))] }
    | none => q.add (Fin.ofNat 0x110000 u)
  else q.add (Fin.ofNat 0x110000 u)

/-- What the letter of an escape stands for. -/
def letters : List (CodePoint × CodePoint) :=
  [(CodePoint.ofChar '"', CodePoint.ofChar '"'), (CodePoint.ofChar '\\', CodePoint.ofChar '\\'),
    (CodePoint.ofChar '/', CodePoint.ofChar '/'), (CodePoint.ofChar 'n', CodePoint.ofChar '\n'),
    (CodePoint.ofChar 'r', CodePoint.ofChar '\r'), (CodePoint.ofChar 't', CodePoint.ofChar '\t'),
    (CodePoint.ofChar 'b', 0x08), (CodePoint.ofChar 'f', 0x0C)]

/-- Reads on inside of a string; the left side is the string at its closing quote. -/
def next (q : Quoted) (c : CodePoint) : Option (Text ⊕ Quoted) :=
  match q.escape with
  | .outside =>
    if c = CodePoint.ofChar '"' then some (.inl q.settled)
    else if c = CodePoint.ofChar '\\' then some (.inr { q with escape := .begun })
    else if c.val < 0x20 then none
    else some (.inr (q.add c))
  | .begun =>
    if c = CodePoint.ofChar 'u' then some (.inr { q with escape := .digits 3 0 })
    else (letters.lookup c).map fun d => .inr (q.add d)
  | .digits left value => (Numeral.digitValue? c).map fun d =>
    match left with
    | 0 => .inr (q.addUnit (16 * value + d))
    | left + 1 => .inr { q with escape := .digits left (16 * value + d) }

end Quoted

/-- A number with one more decimal digit at its end. -/
def extended? (n : Nat) (c : CodePoint) : Option Nat :=
  if 0x30 ≤ c.val ∧ c.val ≤ 0x39 then some (10 * n + (c.val - 0x30)) else none

/-- A number in decimal digits without a zero in front. -/
def natural? : Text → Option Nat
  | [] => none
  | c :: rest =>
    if c = CodePoint.ofChar '0' ∧ rest ≠ [] then none else (c :: rest).foldlM extended? 0

/-- The value of a word. -/
def word? (w : Text) : Option Value :=
  if w = text "null" then some .null
  else if w = text "true" then some (.boolean true)
  else if w = text "false" then some (.boolean false)
  else match w with
    | [] => none
    | c :: rest =>
      if c = CodePoint.ofChar '-' then (natural? rest).map fun n : Nat => .integer (-n)
      else (natural? (c :: rest)).map fun n : Nat => .integer n

def isBlank (c : CodePoint) : Bool := c ∈ text " \t\n\r"

def marks : List (CodePoint × Symbol) :=
  [(CodePoint.ofChar '[', .listOpen), (CodePoint.ofChar ']', .listClose),
    (CodePoint.ofChar '\x7b', .objectOpen), (CodePoint.ofChar '\x7d', .objectClose),
    (CodePoint.ofChar ',', .comma), (CodePoint.ofChar ':', .colon)]

/-- Whether a code point belongs to a word. -/
def isPlain (c : CodePoint) : Bool :=
  !isBlank c && (marks.lookup c).isNone && c ≠ CodePoint.ofChar '"'

inductive Lexing
  /-- In a word, which has no code point yet where the reader is between words. -/
  | word (w : Text)
  | quoted (q : Quoted)

structure Reader where
  lexing : Lexing := .word []
  reading : Reading := .item []

/-- The reader between words. -/
def Reading.reader (reading : Reading) : Reader := { reading }

/-- A code point that belongs to no word begins a string, or is a mark or white space. -/
def Reading.part (reading : Reading) (c : CodePoint) : Option Reader :=
  if isBlank c then some reading.reader
  else if c = CodePoint.ofChar '"' then some { lexing := .quoted {}, reading }
  else (marks.lookup c).bind fun symbol => (reading.next symbol).map Reading.reader

namespace Reader

/-- What is to come after the word that the reader is in; none inside of a string. -/
def settled? (r : Reader) : Option Reading :=
  match r.lexing with
  | .word [] => some r.reading
  | .word w => (word? w).bind fun v => r.reading.next (.scalar v)
  | .quoted _ => none

def next (r : Reader) (c : CodePoint) : Option Reader :=
  match r.lexing with
  | .word w =>
    if isPlain c then some { r with lexing := .word (w ++ [c]) }
    else r.settled?.bind (·.part c)
  | .quoted q => (q.next c).bind fun read =>
    match read with
    | .inl t => (r.reading.next (.scalar (.string t))).map Reading.reader
    | .inr q => some { r with lexing := .quoted q }

/-- The value that a reader makes of the rest of a text. -/
def after (r : Reader) : Text → Option Value
  | [] =>
    match r.settled? with
    | some (.done v []) => some v
    | _ => none
  | c :: rest => (r.next c).bind fun r => after r rest

end Reader

/-- The value that a text writes. -/
def read? (t : Text) : Option Value := Reader.after {} t

end CredentialStore.Log.Json
