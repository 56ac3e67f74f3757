import WikiMarkup.Schema.Value
import WikiMarkup.Text.Digit

/-!
# Issues

What can be wrong with a value from outside, and how it is reported: with a code, the place of the
value, a message and the value itself.
-/

namespace WikiMarkup

/-- What is wrong with a value. -/
inductive Complaint where
  | missing
  | notText
  | tooShort (least : Nat)
  | tooLong (most : Nat)
  /-- The text is not of a form, which is written as a regular expression. -/
  | mismatch (pattern : String)
  | notList
  | notInteger
  /-- A number with a fractional part for an integer. -/
  | fractional
  /-- A text for an integer that is none. -/
  | notNumeral
  /-- A text for an integer with too many digits, or a number out of range. -/
  | numeralTooLong
  | notTruth
  /-- A value for a truth value that could be one, but is neither true nor false. -/
  | unclearTruth
  /-- Not a record of a kind. -/
  | notRecord (kind : String)
  /-- Not a record, for the body of a request. -/
  | notBody
  | notPath
  /-- A change of a record that does not change. -/
  | frozen
deriving DecidableEq, Repr

namespace Complaint

/-- The code of a complaint. -/
def code : Complaint → String
  | missing => "missing"
  | notText => "string_type"
  | tooShort _ => "string_too_short"
  | tooLong _ => "string_too_long"
  | mismatch _ => "string_pattern_mismatch"
  | notList => "list_type"
  | notInteger => "int_type"
  | fractional => "int_from_float"
  | notNumeral => "int_parsing"
  | numeralTooLong => "int_parsing_size"
  | notTruth => "bool_type"
  | unclearTruth => "bool_parsing"
  | notRecord _ => "model_type"
  | notBody => "model_attributes_type"
  | notPath => "path_type"
  | frozen => "frozen_instance"

/-- A number of characters in words. -/
def characters (n : Nat) : Text :=
  Digit.write n ++ (if n == 1 then " character" else " characters").toList

/-- The message of a complaint. -/
def message : Complaint → Text
  | missing => "Field required".toList
  | notText => "Input should be a valid string".toList
  | tooShort least => "String should have at least ".toList ++ characters least
  | tooLong most => "String should have at most ".toList ++ characters most
  | mismatch pattern => "String should match pattern '".toList ++ pattern.toList ++ ['\'']
  | notList => "Input should be a valid list".toList
  | notInteger => "Input should be a valid integer".toList
  | fractional => "Input should be a valid integer, got a number with a fractional part".toList
  | notNumeral =>
    "Input should be a valid integer, unable to parse string as an integer".toList
  | numeralTooLong =>
    "Unable to parse input string as an integer, exceeded maximum size".toList
  | notTruth => "Input should be a valid boolean".toList
  | unclearTruth => "Input should be a valid boolean, unable to interpret input".toList
  | notRecord kind =>
    "Input should be a valid dictionary or instance of ".toList ++ kind.toList
  | notBody =>
    "Input should be a valid dictionary or object to extract fields from".toList
  | notPath => "Input is not a valid path for <class 'pathlib.Path'>".toList
  | frozen => "Instance is frozen".toList

end Complaint

/-- A step on the way to a value: into a field of a record, or to an item of a list. -/
inductive Step where
  | field (name : Text)
  | item (index : Nat)
deriving DecidableEq, Repr

/-- Something that is wrong with the value at a place. -/
structure Issue where
  complaint : Complaint
  place : List Step
  input : Value
deriving Repr

namespace Issue

/-- An issue as it is reported. -/
def toValue (issue : Issue) : Value :=
  Value.ofFields
    [("type", .text issue.complaint.code.toList),
     ("loc", .list (issue.place.map fun
        | .field name => .text name
        | .item index => .int index)),
     ("msg", .text issue.complaint.message),
     ("input", issue.input)]

end Issue
end WikiMarkup
