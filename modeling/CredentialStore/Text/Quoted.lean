import CredentialStore.Text.Hexadecimal
import CredentialStore.Text.Properties

namespace CredentialStore.Text

/-- The quote around a shown text: an apostrophe, or a double quote when the text holds an apostrophe
    and no double quote. -/
def quoteFor (t : Text) : CodePoint :=
  if CodePoint.ofChar '\'' ∈ t ∧ CodePoint.ofChar '"' ∉ t then CodePoint.ofChar '"'
  else CodePoint.ofChar '\''

/-- The escape of a code point without a printed form, by the length of its number. -/
def hexEscape (c : CodePoint) : Text :=
  if c.val < 0x100 then text "\\x" ++ hex 2 c.val
  else if c.val < 0x10000 then text "\\u" ++ hex 4 c.val
  else text "\\U" ++ hex 8 c.val

/-- One code point as it is shown between two `quote`s. -/
def shownWithin (quote c : CodePoint) : Text :=
  if c = quote ∨ c = CodePoint.ofChar '\\' then [CodePoint.ofChar '\\', c]
  else if c = CodePoint.ofChar '\t' then text "\\t"
  else if c = CodePoint.ofChar '\n' then text "\\n"
  else if c = CodePoint.ofChar '\r' then text "\\r"
  else if c.isPrintable then [c]
  else hexEscape c

def quoted (t : Text) : Text :=
  let quote := quoteFor t
  [quote] ++ t.flatMap (shownWithin quote) ++ [quote]

end CredentialStore.Text
