import WikiMarkup.Markdown.Line
import WikiMarkup.Text.Casing
import WikiMarkup.Text.Entity
import WikiMarkup.Text.Percent

/-!
# Link targets

How a link says where it leads: a destination with perhaps a title, in parentheses behind the text of
the link or in a definition of its own, and a label under which a definition is found. Each reader
looks at the beginning of a text and gives what it has read and how many characters that takes.
-/

namespace WikiMarkup
namespace Markdown

/-! ## Escapes -/

/-- A text without the backslashes in front of punctuation. -/
def unescapeMarks : Text → Text
  | '\\' :: c :: rest =>
    if Text.isPunctuation c then c :: unescapeMarks rest else '\\' :: unescapeMarks (c :: rest)
  | c :: rest => c :: unescapeMarks rest
  | [] => []

/-- The characters that a URL may hold besides letters and digits. A percent sign stays, so that
what is encoded already is not encoded again. -/
def urlSigns : Text := ":/?#@!$&()*+,;=%".toList

/-- A destination as a URL. -/
def toUrl (destination : Text) : Text :=
  Percent.encode urlSigns (Entity.unescapeClosed destination)

/-! ## Labels -/

/-- The most characters that a label may have, as it is written. -/
def labelLimit : Nat := 999

/-- The length of a label that ends before the next bracket which is not escaped, if that is a closing
one. -/
def labelLength? : Text → Option Nat
  | ']' :: _ => some 0
  | '\\' :: _ :: rest => (labelLength? rest).map (· + 2)
  | c :: rest => if c == '\\' || c == '[' then none else (labelLength? rest).map (· + 1)
  | [] => none

/-- Reads a label and its closing bracket. -/
def readLabel (t : Text) : Option (Text × Nat) :=
  ((labelLength? t).filter (· ≤ labelLimit)).map fun n => (t.take n, n + 1)

/-- Reads the label of a definition and its closing bracket. The limit is for what stands before the
first closing bracket, also if that one is escaped. -/
def readDefinedLabel (t : Text) : Option (Text × Nat) :=
  if (t.takeWhile (· != ']')).length ≤ labelLimit then
    (labelLength? t).map fun n => (t.take n, n + 1)
  else none

/-- The key of a label: labels that differ only in case and white space are the same. -/
def labelKey (label : Text) : Text := Casing.caselessKey (Text.join [' '] (Text.words label))

/-! ## Destinations and titles -/

/-- The length of the spaces and tabs, with at most one line end, at the beginning of a text. -/
def breakLength (t : Text) : Nat :=
  let first := (t.takeWhile isSpace).length
  match t.drop first with
  | '\n' :: rest => first + 1 + (rest.takeWhile isSpace).length
  | _ => first

/-- White space behind a destination. -/
def isTargetSpace (c : Char) : Bool := isSpace c || c == '\n' || c == '\x0c'

/-- The length of a destination in angle brackets, from behind the opening one to before the closing
one. It holds neither a line end nor, unless escaped, an angle bracket. -/
def bracketedLength? : Text → Option Nat
  | '\\' :: c :: rest =>
    if c == '\n' || c == '\x00' then none else (bracketedLength? rest).map (· + 2)
  | c :: rest =>
    if c == '>' then some 0
    else if c == '<' || c == '\n' || c == '\x00' then none
    else (bracketedLength? rest).map (· + 1)
  | [] => none

/-- Reads a destination in angle brackets. -/
def readBracketed (t : Text) : Option (Text × Nat) :=
  match t with
  | '<' :: rest => (bracketedLength? rest).map fun n => (rest.take n, n + 2)
  | _ => none

/-- A control character, which no bare destination holds. -/
def isControl (c : Char) : Bool := c.toNat < 0x20 || c.toNat == 0x7F

/-- The most parentheses in a bare destination that may be open at a time. -/
def parenthesisLimit : Nat := 20

/-- The length of a bare destination: it ends before white space or a parenthesis that closes none of
its own, of which `level` are open. -/
def bareLength? : Nat → Text → Option Nat
  | _, [] => none
  | level, '\\' :: c :: rest =>
    if Text.isPunctuation c then (bareLength? level rest).map (· + 2)
    else (bareLength? level (c :: rest)).map (· + 1)
  | level, c :: rest =>
    if isTargetSpace c then if level == 0 then some 0 else none
    else if isControl c then none
    else if c == '(' then
      if level < parenthesisLimit then (bareLength? (level + 1) rest).map (· + 1) else none
    else if c == ')' then
      if level == 0 then some 0 else (bareLength? (level - 1) rest).map (· + 1)
    else (bareLength? level rest).map (· + 1)

/-- Reads a destination behind white space. A bare one can be empty. -/
def readDestination (t : Text) : Option (Text × Nat) :=
  let skipped := breakLength t
  let body := t.drop skipped
  if body.head? == some '<' then
    (readBracketed body).map fun (destination, n) => (destination, skipped + n)
  else (bareLength? 0 body).map fun n => (body.take n, skipped + n)

/-- The length of a title to before the mark `stop` that closes it. Neither that nor the mark `start`
that opens it stands in it unless it is escaped, nor does the null character. -/
def titleLength? (start stop : Char) : Text → Option Nat
  | '\\' :: c :: rest =>
    if Text.isPunctuation c then (titleLength? start stop rest).map (· + 2)
    else (titleLength? start stop (c :: rest)).map (· + 1)
  | c :: rest =>
    if c == stop then some 0
    else if c == start || c == '\x00' then none
    else (titleLength? start stop rest).map (· + 1)
  | [] => none

/-- The mark that closes a title which begins with a mark. -/
def titleEnd? (start : Char) : Option Char :=
  if start == '"' || start == '\'' then some start else if start == '(' then some ')' else none

/-- Reads a title, in quotes or parentheses behind white space. -/
def readTitle (t : Text) : Option (Text × Nat) :=
  let skipped := (t.takeWhile isTargetSpace).length
  match t.drop skipped with
  | start :: rest =>
    if skipped == 0 then none
    else
      (titleEnd? start).bind fun stop =>
        (titleLength? start stop rest).map fun n => (unescapeMarks (rest.take n), skipped + n + 2)
  | [] => none

/-- A target: a URL, and a title unless it is empty. -/
structure Target where
  url : Text
  title : Option Text
deriving DecidableEq, Repr

/-- A target from a destination as it is written and a title. -/
def Target.ofWritten (destination : Text) (title : Option Text) : Target where
  url := toUrl (unescapeMarks destination)
  title := title.filter fun t => !t.isEmpty

/-- Reads the target of a link from behind its opening parenthesis, and the closing one. -/
def readTarget (t : Text) : Option (Target × Nat) :=
  match readDestination t with
  | none => none
  | some (destination, n) =>
    let (title, n) :=
      match readTitle (t.drop n) with
      | some (title, m) => (some title, n + m)
      | none => (none, n)
    let stop := n + ((t.drop n).takeWhile isTargetSpace).length
    if (t.drop stop).head? == some ')' then some (Target.ofWritten destination title, stop + 1)
    else none

/-- The definitions of a page: targets by the keys of their labels, the first of a key first. -/
abbrev Definitions := List (Text × Target)

/-- The target of a label. -/
def Definitions.target? (definitions : Definitions) (label : Text) : Option Target :=
  definitions.lookup (labelKey label)

/-- Adds a definition at the end: one that is there already under its key counts. -/
def Definitions.add (definitions : Definitions) (label : Text) (target : Target) : Definitions :=
  definitions ++ [(labelKey label, target)]

/-- Reads the destination of a definition: unless it stands in angle brackets, it is not empty. -/
def readDefinedDestination (t : Text) : Option (Text × Nat) :=
  (readDestination t).filter fun (destination, n) =>
    !destination.isEmpty || (t.take n).getLast? == some '>'

/-- Reads the line of a definition from behind its label and colon. A title that does not end its
line is no title; the line ends behind the destination then, or there is no definition. A title goes
over no blank line. -/
def readDefinition (t : Text) : Option (Target × Nat) :=
  let endOfLine? (n : Nat) : Option Nat :=
    let skipped := ((t.drop n).takeWhile isSpace).length
    if (t.drop (n + skipped)).head? == some '\n' then some (n + skipped + 1) else none
  match readDefinedDestination t with
  | none => none
  | some (destination, n) =>
    let behind := t.drop n
    let window := behind.take ((beforeLine? beginsBlank false behind).getD behind.length)
    let titled :=
      match readTitle window with
      | some (title, m) => (endOfLine? (n + m)).map fun stop => (some title, stop)
      | none => none
    let found :=
      match titled with
      | some found => some found
      | none => (endOfLine? n).map fun stop => (none, stop)
    found.map fun (title, stop) => (Target.ofWritten destination title, stop)

end Markdown
end WikiMarkup
