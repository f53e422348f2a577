import Chronicle.Text.Quoted

/-!
# Violations

Why a value is refused, and where it stood. A report lists the violations of a whole input in the
order of the fields, so one bad field does not hide another.

## Main definitions

* `Refusal` — the reasons, each with a `code` and a `message`.
* `Violation` — a reason and the path of the field it concerns.
-/

namespace Chronicle

/-- Why a value is refused. -/
inductive Refusal where
  | missing
  | extra
  | frozen
  | notInteger
  | integerText
  | integerSize
  | integerFraction
  | notFinite
  | atLeast (bound : Int)
  | atMost (bound : Int)
  | notText
  | tooShort (least : Nat)
  | tooLong (most : Nat)
  | notAPosition (unranked : Int)
  | notALabel (labels : List String)
  | notALiteral (labels : List String)
  | notBoolean
  | booleanText
  | notAnObject
  | notAModel (name : String)
  | notAMoment
  | momentRange (reason : String)
  deriving DecidableEq, Repr

/-- A field that is refused, by the path that leads to it, and the reason. -/
structure Violation where
  path : List String
  reason : Refusal
  deriving DecidableEq, Repr

namespace Refusal

/-- The quoted labels, with commas and a last "or" between them. -/
def alternatives (labels : List String) : String :=
  match (labels.map Text.quoted).reverse with
  | [] => ""
  | [only] => only
  | last :: others => ", ".intercalate others.reverse ++ " or " ++ last

/-- A count of characters in words. -/
def characters (n : Nat) : String := toString n ++ if n = 1 then " character" else " characters"

/-- The code by which a reason is reported. -/
def code : Refusal → String
  | missing => "missing"
  | extra => "extra_forbidden"
  | frozen => "frozen_instance"
  | notInteger => "int_type"
  | integerText => "int_parsing"
  | integerSize => "int_parsing_size"
  | integerFraction => "int_from_float"
  | notFinite => "finite_number"
  | atLeast _ => "greater_than_equal"
  | atMost _ => "less_than_equal"
  | notText => "string_type"
  | tooShort _ => "string_too_short"
  | tooLong _ => "string_too_long"
  | notAPosition _ => "value_error"
  | notALabel _ => "enum"
  | notALiteral _ => "literal_error"
  | notBoolean => "bool_type"
  | booleanText => "bool_parsing"
  | notAnObject => "dict_type"
  | notAModel _ => "model_type"
  | notAMoment => "datetime_type"
  | momentRange _ => "datetime_parsing"

/-- The sentence by which a reason is reported. -/
def message : Refusal → String
  | missing => "Field required"
  | extra => "Extra inputs are not permitted"
  | frozen => "Instance is frozen"
  | notInteger => "Input should be a valid integer"
  | integerText => "Input should be a valid integer, unable to parse string as an integer"
  | integerSize => "Unable to parse input string as an integer, exceeded maximum size"
  | integerFraction => "Input should be a valid integer, got a number with a fractional part"
  | notFinite => "Input should be a finite number"
  | atLeast bound => "Input should be greater than or equal to " ++ toString bound
  | atMost bound => "Input should be less than or equal to " ++ toString bound
  | notText => "Input should be a valid string"
  | tooShort least => "String should have at least " ++ characters least
  | tooLong most => "String should have at most " ++ characters most
  | notAPosition unranked =>
    "Value error, position must be " ++ toString unranked ++ " or a positive integer"
  | notALabel labels => "Input should be " ++ alternatives labels
  | notALiteral labels => "Input should be " ++ alternatives labels
  | notBoolean => "Input should be a valid boolean"
  | booleanText => "Input should be a valid boolean, unable to interpret input"
  | notAnObject => "Input should be a valid dictionary"
  | notAModel name => "Input should be a valid dictionary or instance of " ++ name
  | notAMoment => "Input should be a valid datetime"
  | momentRange reason => "Input should be a valid datetime, " ++ reason

end Refusal

end Chronicle
