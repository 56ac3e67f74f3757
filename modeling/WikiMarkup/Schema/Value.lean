import WikiMarkup.Text.Basic

/-!
# Values

Data from outside: what a client sends and what it is sent.
-/

namespace WikiMarkup

/-- A value: nothing, a truth value, a number, a text, a list, or a record of named fields. -/
inductive Value where
  | null
  | bool (b : Bool)
  | int (n : Int)
  /-- The number `mantissa / 10 ^ places`, written with a decimal point. -/
  | decimal (mantissa : Int) (places : Nat)
  | text (t : Text)
  | list (items : List Value)
  | record (fields : List (Text × Value))
deriving Inhabited, Repr

namespace Value

/-- A text, or nothing. -/
def ofText? : Option Text → Value
  | some t => .text t
  | none => .null

/-- A truth value, or nothing. -/
def ofBool? : Option Bool → Value
  | some b => .bool b
  | none => .null

/-- A list of texts. -/
def ofTexts (ts : List Text) : Value := .list (ts.map .text)

/-- A record of the given fields. -/
def ofFields (fields : List (String × Value)) : Value :=
  .record (fields.map fun (name, value) => (name.toList, value))

/-- Whether a value is a record with a field of some name. -/
def hasField (record : Value) (name : Text) : Bool :=
  match record with
  | .record fields => fields.any fun field => field.1 == name
  | _ => false

/-- A record with another value in a field that it has. -/
def setField (record : Value) (name : Text) (value : Value) : Value :=
  match record with
  | .record fields => .record (fields.map fun (n, old) => (n, if n == name then value else old))
  | other => other

end Value
end WikiMarkup
