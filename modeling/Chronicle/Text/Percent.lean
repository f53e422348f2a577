/-!
# Percent encoding

In percent encoding a character is replaced by the bytes of its UTF-8 form, each written as a
percent sign and two hexadecimal digits. Decoding takes every text: a percent sign that no two
hexadecimal digits follow stands for itself, and bytes that are not well-formed UTF-8 become
replacement characters, one for each longest beginning of a well-formed sequence.

## Main definitions

* `Text.decodeBytes` — the characters of a list of bytes.
* `Text.percentDecode`, `Text.percentEncode` — the two directions.
-/

namespace Chronicle.Text

/-! ## Bytes -/

/-- What a leading byte announces: how many bytes follow, and the range of the first of them. -/
def announced? (lead : Nat) : Option (Nat × Nat × Nat) :=
  if 0xc2 ≤ lead ∧ lead ≤ 0xdf then some (1, 0x80, 0xbf)
  else if lead = 0xe0 then some (2, 0xa0, 0xbf)
  else if lead = 0xed then some (2, 0x80, 0x9f)
  else if 0xe1 ≤ lead ∧ lead ≤ 0xef then some (2, 0x80, 0xbf)
  else if lead = 0xf0 then some (3, 0x90, 0xbf)
  else if 0xf1 ≤ lead ∧ lead ≤ 0xf3 then some (3, 0x80, 0xbf)
  else if lead = 0xf4 then some (3, 0x80, 0x8f)
  else none

/-- The bytes that may follow, at most a number of them, the first in a range. -/
def followers (low high : Nat) : Nat → List Nat → List Nat
  | count + 1, b :: rest =>
    if low ≤ b ∧ b ≤ high then b :: followers 0x80 0xbf count rest else []
  | _, _ => []

theorem length_followers_le (low high count : Nat) (bytes : List Nat) :
    (followers low high count bytes).length ≤ bytes.length := by
  induction bytes generalizing low high count with
  | nil => cases count <;> simp [followers]
  | cons b rest ih =>
    cases count with
    | zero => simp [followers]
    | succ count =>
      unfold followers
      split
      · simpa using ih 0x80 0xbf count
      · simp

/-- The character for bytes that are not well-formed. -/
def replacement : Char := '\ufffd'

/-- The code point of a leading byte without its mark and the bytes that follow it. -/
def codePoint (high : Nat) (rest : List Nat) : Nat :=
  rest.foldl (fun n b => 64 * n + (b - 0x80)) high

def decodeBytes : List Nat → List Char
  | [] => []
  | b :: rest =>
    if b < 0x80 then Char.ofNat b :: decodeBytes rest
    else match announced? b with
      | none => replacement :: decodeBytes rest
      | some (count, low, high) =>
        let taken := followers low high count rest
        let mark := if count = 1 then 0xc0 else if count = 2 then 0xe0 else 0xf0
        let c := if taken.length = count then Char.ofNat (codePoint (b - mark) taken)
          else replacement
        c :: decodeBytes (rest.drop taken.length)
termination_by bytes => bytes.length
decreasing_by all_goals simp only [List.length_drop, List.length_cons]; omega

/-! ## Decoding -/

/-- The value of a hexadecimal digit. -/
def hexValue? (c : Char) : Option Nat :=
  let n := c.toNat
  if 48 ≤ n ∧ n ≤ 57 then some (n - 48)
  else if 65 ≤ n ∧ n ≤ 70 then some (n - 55)
  else if 97 ≤ n ∧ n ≤ 102 then some (n - 87)
  else none

/-- The byte of two hexadecimal digits. -/
def byte? (high low : Char) : Option Nat := do return 16 * (← hexValue? high) + (← hexValue? low)

/-- Decodes a text after the bytes of a run of ASCII, which are kept in reverse. -/
def percentDecodeFrom (bytes : List Nat) : List Char → List Char
  | [] => decodeBytes bytes.reverse
  | '%' :: high :: low :: rest =>
    match byte? high low with
    | some b => percentDecodeFrom (b :: bytes) rest
    | none => percentDecodeFrom (0x25 :: bytes) (high :: low :: rest)
  | c :: rest =>
    if c.toNat < 0x80 then percentDecodeFrom (c.toNat :: bytes) rest
    else decodeBytes bytes.reverse ++ c :: percentDecodeFrom [] rest

/-- The text that a percent-encoded one stands for. -/
def percentDecode (cs : List Char) : List Char := percentDecodeFrom [] cs

/-! ## Encoding -/

/-- A byte as a percent sign and two hexadecimal digits. -/
def percentByte (b : UInt8) : List Char :=
  '%' :: ((Nat.toDigits 16 (b.toNat / 16)) ++ Nat.toDigits 16 (b.toNat % 16)).map Char.toUpper

/-- The characters that need no encoding anywhere. -/
def isUnreserved (c : Char) : Bool := c.isAlphanum || ['_', '.', '-', '~'].contains c

/-- A text with all characters encoded but the unreserved ones and some more. -/
def percentEncode (kept : List Char) (cs : List Char) : List Char :=
  cs.flatMap fun c =>
    if isUnreserved c || kept.contains c then [c]
    else (String.utf8EncodeChar c).flatMap percentByte

end Chronicle.Text
