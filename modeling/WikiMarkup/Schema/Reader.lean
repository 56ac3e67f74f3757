import WikiMarkup.Schema.Issue

/-!
# Reading values

Readers turn values from outside into data of the library. A reader of a record goes through all
fields and reports every issue, in the order of the fields.
-/

namespace WikiMarkup

/-- What a reader has read, or all that is wrong. -/
abbrev Checked (α : Type) := Except (List Issue) α

namespace Checked

/-- Applies a function to an argument; the issues of both are reported. -/
def apply {α β : Type} (f : Checked (α → β)) (x : Checked α) : Checked β :=
  match f, x with
  | .ok f, .ok x => .ok (f x)
  | .ok _, .error issues => .error issues
  | .error issues, .ok _ => .error issues
  | .error first, .error second => .error (first ++ second)

/-- What is read of several values; the issues of all are reported. -/
def all {α : Type} : List (Checked α) → Checked (List α)
  | [] => .ok []
  | x :: xs => apply (x.map List.cons) (all xs)

end Checked

/-- Reads the value at a place. -/
abbrev Reader (α : Type) := List Step → Value → Checked α

namespace Reader

/-- Reports one thing that is wrong with a value. -/
def refuse {α : Type} (complaint : Complaint) (place : List Step) (value : Value) : Checked α :=
  .error [⟨complaint, place, value⟩]

/-! ## Simple values -/

/-- Reads a text. -/
def text : Reader Text := fun place value =>
  match value with
  | .text t => .ok t
  | _ => refuse .notText place value

/-- Bounds on a text: its length, and its form with the expression that describes it. -/
structure Bounds where
  least : Nat := 0
  most : Option Nat := none
  form : Option ((Text → Bool) × String) := none

/-- Reads a text within bounds; its length is looked at first. -/
def textWithin (bounds : Bounds) : Reader Text := fun place value =>
  match value with
  | .text t =>
    if bounds.most.any (· < t.length) then refuse (.tooLong (bounds.most.getD 0)) place value
    else if t.length < bounds.least then refuse (.tooShort bounds.least) place value
    else
      match bounds.form with
      | some (accepts, pattern) =>
        if accepts t then .ok t else refuse (.mismatch pattern) place value
      | none => .ok t
  | _ => refuse .notText place value

/-- The most digits of an integer in a text. -/
def numeralLimit : Nat := 4300

/-- White space around an integer in a text: that of any script, but none of the separators below the
space. -/
def isMargin (c : Char) : Bool := Text.isBlank c && !(0x1C ≤ c.toNat && c.toNat ≤ 0x1F)

/-- The integer that a text in its plain form stands for: digits without a leading zero, perhaps
behind a minus sign. -/
def plainInteger (t : Text) : Except Complaint Int :=
  let (negative, body) :=
    match t with
    | '-' :: rest => (true, rest)
    | _ => (false, t)
  let digits := body.takeWhile Text.isDigit
  let n : Int := Digit.number digits
  if digits.head? != some '0' && numeralLimit < digits.length then
    .error .numeralTooLong
  else if digits.isEmpty || digits.length != body.length ||
      (digits.head? == some '0' && digits.length != 1) then
    .error .notNumeral
  else .ok (if negative then -n else n)

/-- A row of digits without the zeros it begins with, of which the last is kept if nothing but a
fraction is behind it. Underscores may stand behind a zero, and a minus sign behind them. -/
def dropZeros? (t : Text) : Option Text :=
  match t with
  | '0' :: _ =>
    let zeros := t.takeWhile fun c => c == '0' || c == '_'
    match t.drop zeros.length with
    | [] => some (zeros.drop (zeros.length - 1))
    | c :: rest =>
      if Text.isDigit c || c == '-' then some (c :: rest)
      else if c == '.' then some (zeros.drop (zeros.length - 1) ++ c :: rest)
      else none
  | c :: _ => if Text.isDigit c then some t else none
  | [] => none

/-- A number without a fraction of zeros. -/
def dropFraction (t : Text) : Text :=
  match Text.after? '.' t with
  | some (c :: rest) => if (c :: rest).all (· == '0') then Text.before '.' t else t
  | _ => t

/-- A text without its underscores, each of which has to stand between two other characters. -/
def dropUnderscores? (t : Text) : Option Text :=
  if t.head? == some '_' || t.getLast? == some '_' || Text.hasPart ['_', '_'] t then none
  else some (t.filter (· != '_'))

/-- The plain form of an integer in a text. There may be white space around it, a plus sign and zeros
before it, single underscores between its digits, and a fraction of zeros behind it. -/
def plainForm? (t : Text) : Option Text :=
  let (start, body) : Text × Text :=
    match Text.trimBy isMargin t with
    | '-' :: rest => (['-'], rest)
    | '+' :: rest => ([], rest)
    | body => ([], body)
  ((dropZeros? body).map dropFraction).bind fun digits =>
    (dropUnderscores? digits).map (start ++ ·)

/-- The integer that a text stands for, as it is or in its plain form. -/
def integerOf (t : Text) : Except Complaint Int :=
  match plainInteger t with
  | .error .notNumeral =>
    match (plainForm? t).map plainInteger with
    | some (.ok n) => .ok n
    | _ => .error .notNumeral
  | outcome => outcome

/-- The integer that the number `mantissa / 10 ^ places` is, unless it has a fraction or does not fit
into a word of 64 bits. -/
def integerOfDecimal (mantissa : Int) (places : Nat) : Except Complaint Int :=
  let unit : Int := Nat.pow 10 places
  let bound : Int := Nat.pow 2 63
  if mantissa % unit != 0 then .error .fractional
  else if -bound < mantissa / unit && mantissa / unit < bound then .ok (mantissa / unit)
  else .error .numeralTooLong

/-- Reads an integer. A truth value, a number without a fraction and a text stand for integers too. -/
def integer : Reader Int := fun place value =>
  let checked : Except Complaint Int → Checked Int
    | .ok n => .ok n
    | .error complaint => refuse complaint place value
  match value with
  | .int n => .ok n
  | .bool b => .ok (if b then 1 else 0)
  | .decimal mantissa places => checked (integerOfDecimal mantissa places)
  | .text t => checked (integerOf t)
  | _ => refuse .notInteger place value

/-- The words for true. -/
def trueWords : List String := ["1", "on", "t", "true", "y", "yes"]

/-- The words for false. -/
def falseWords : List String := ["0", "off", "f", "false", "n", "no"]

/-- Reads a truth value. One and zero, and some words in any case, stand for truth values too; a number
that is no integer of 64 bits cannot be one. -/
def truth : Reader Bool := fun place value =>
  let ofInt (n : Int) : Checked Bool :=
    if n == 1 then .ok true else if n == 0 then .ok false else refuse .unclearTruth place value
  match value with
  | .bool b => .ok b
  | .int n =>
    let bound : Int := Nat.pow 2 63
    if -bound ≤ n && n < bound then ofInt n else refuse .notTruth place value
  | .decimal mantissa places =>
    match integerOfDecimal mantissa places with
    | .ok n => ofInt n
    | .error _ => refuse .notTruth place value
  | .text t =>
    let isAmong (words : List String) := words.any fun word => word.toList == Text.lowerAscii t
    if isAmong trueWords then .ok true
    else if isAmong falseWords then .ok false
    else refuse .unclearTruth place value
  | _ => refuse .notTruth place value

/-! ## Composed values -/

/-- Reads a value that may be nothing. -/
def optional {α : Type} (read : Reader α) : Reader (Option α) := fun place value =>
  match value with
  | .null => .ok none
  | _ => (read place value).map some

/-- Reads a list. -/
def list {α : Type} (read : Reader α) : Reader (List α) := fun place value =>
  match value with
  | .list items =>
    Checked.all (items.zipIdx.map fun (item, index) => read (place ++ [.item index]) item)
  | _ => refuse .notList place value

/-- A record that is being read, with its place. -/
structure Fields where
  place : List Step
  fields : List (Text × Value)

/-- Reads a field of a record. A field that is not there has its default, or is reported with the
whole record. -/
def Fields.read {α : Type} (record : Fields) (name : String) (read : Reader α)
    (default : Option α) : Checked α :=
  let place := record.place ++ [.field name.toList]
  match record.fields.lookup name.toList, default with
  | some value, _ => read place value
  | none, some default => .ok default
  | none, none => refuse .missing place (.record record.fields)

/-- Reads a record. Anything else is refused with a complaint. -/
def record {α : Type} (otherwise : Complaint) (read : Fields → Checked α) : Reader α :=
  fun place value =>
    match value with
    | .record fields => read ⟨place, fields⟩
    | _ => refuse otherwise place value

end Reader
end WikiMarkup
