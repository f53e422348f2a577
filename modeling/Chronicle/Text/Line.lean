import Chronicle.Text.Blank

/-!
# Lines

A line of a text ends at a line end: a line feed, a carriage return, both in this order, a vertical
tab, a form feed, a separator of files, groups or records, the next-line control, or the Unicode
separator of lines or of paragraphs. The last line needs no end.

## Main definitions

* `Text.lines` — the lines of a text, without their ends.
* `Text.maskWord` — a line with its leading word replaced.
-/

namespace Chronicle.Text

def isLineEnd (c : Char) : Bool :=
  let n := c.toNat
  (10 ≤ n && n ≤ 13) || (0x1c ≤ n && n ≤ 0x1e) || n = 0x85 || n = 0x2028 || n = 0x2029

/-- The lines of a text after the beginning of a line, which is kept in reverse. -/
def linesFrom (line : List Char) : List Char → List String
  | [] => if line.isEmpty then [] else [String.ofList line.reverse]
  | '\r' :: '\n' :: rest => String.ofList line.reverse :: linesFrom [] rest
  | c :: rest =>
    if isLineEnd c then String.ofList line.reverse :: linesFrom [] rest
    else linesFrom (c :: line) rest

def lines (s : String) : List String := linesFrom [] s.toList

/-- Replaces what a line starts with up to the first blank; a line that starts with a blank or is
empty stays. -/
def maskWord (mask line : String) : String :=
  let rest := line.toList.dropWhile fun c => !isSpace c
  if rest.length = line.length then line else mask ++ String.ofList rest

end Chronicle.Text
