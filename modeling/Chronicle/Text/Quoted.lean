import Chronicle.Text.Printable

/-!
# Quoted text

Text is quoted with single quotes, or with double quotes when it holds a single quote and no double
one. The quote in use and the backslash are escaped, line feed, carriage return and tab have short
escapes, and every other character that is not printable is written by its code point.

## Main definitions

* `Text.escape` — the written form of one character.
* `Text.quoted` — the written form of a text.
-/

namespace Chronicle.Text

/-- The last `width` hexadecimal digits of a number, in lower case. -/
def hexadecimal (width n : Nat) : String :=
  let digits := Nat.toDigits 16 n
  String.ofList (List.replicate (width - digits.length) '0' ++ digits)

/-- The written form of a character between the quotes `quote`. -/
def escape (quote c : Char) : String :=
  if c = quote ∨ c = '\\' then "\\" ++ c.toString
  else if c = '\n' then "\\n"
  else if c = '\r' then "\\r"
  else if c = '\t' then "\\t"
  else if isPrintable c then c.toString
  else if c.toNat < 0x100 then "\\x" ++ hexadecimal 2 c.toNat
  else if c.toNat < 0x10000 then "\\u" ++ hexadecimal 4 c.toNat
  else "\\U" ++ hexadecimal 8 c.toNat

/-- The quote for a text: double if the text holds a single quote and no double one. -/
def quoteFor (s : String) : Char :=
  if s.contains '\'' ∧ ¬ s.contains '"' then '"' else '\''

/-- A text between quotes. -/
def quoted (s : String) : String :=
  let quote := quoteFor s
  quote.toString ++ String.join (s.toList.map (escape quote)) ++ quote.toString

end Chronicle.Text
