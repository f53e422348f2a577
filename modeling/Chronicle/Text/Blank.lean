/-!
# Blanks

## Main definitions

* `Text.isBlank` — the characters of the Unicode property White_Space.
* `Text.isSpace` — the same with the separators of ASCII.
* `Text.trim` — a text without the characters of a class at both ends.
-/

namespace Chronicle.Text

/-- The characters of the Unicode property White_Space. -/
def isBlank (c : Char) : Bool :=
  let n := c.toNat
  (9 ≤ n && n ≤ 13) || n = 0x20 || n = 0x85 || n = 0xa0 || n = 0x1680 || (0x2000 ≤ n && n ≤ 0x200a)
    || n = 0x2028 || n = 0x2029 || n = 0x202f || n = 0x205f || n = 0x3000

/-- Blanks and the four separators of ASCII. -/
def isSpace (c : Char) : Bool := isBlank c || (0x1c ≤ c.toNat && c.toNat ≤ 0x1f)

def trimEnd (drops : Char → Bool) (cs : List Char) : List Char :=
  (cs.reverse.dropWhile drops).reverse

def trim (drops : Char → Bool) (cs : List Char) : List Char := trimEnd drops (cs.dropWhile drops)

theorem isSpace_of_isBlank {c : Char} (h : isBlank c = true) : isSpace c = true := by
  simp [isSpace, h]

theorem trim_nil (drops : Char → Bool) : trim drops [] = [] := rfl

end Chronicle.Text
