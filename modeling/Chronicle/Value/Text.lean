import Chronicle.Number.Decimal
import Chronicle.Text.Quoted
import Chronicle.Value.Basic

/-!
# Written form of values

The written form names null and the truth values with a capital, quotes texts, and separates the
parts of lists and objects with a comma and a blank.

## Main definitions

* `Value.written` — the written form.
* `Value.shown` — the form inside a sentence, where a text stands without quotes.
* `Value.typeName` — the name of a value's shape in messages.
-/

namespace Chronicle.Value

mutual

def written : Value → String
  | null => "None"
  | bool b => if b then "True" else "False"
  | int n => toString n
  | float x => x.text
  | text s => Text.quoted s
  | list items => "[" ++ ", ".intercalate (writtenItems items) ++ "]"
  | object fields => "\x7b" ++ ", ".intercalate (writtenFields fields) ++ "\x7d"

def writtenItems : List Value → List String
  | [] => []
  | x :: xs => written x :: writtenItems xs

def writtenFields : List (String × Value) → List String
  | [] => []
  | (k, x) :: xs => (Text.quoted k ++ ": " ++ written x) :: writtenFields xs

end

/-- A value inside a sentence. -/
def shown : Value → String
  | text s => s
  | v => v.written

def typeName : Value → String
  | null => "NoneType"
  | bool _ => "bool"
  | int _ => "int"
  | float _ => "float"
  | text _ => "str"
  | list _ => "list"
  | object _ => "dict"

end Chronicle.Value
