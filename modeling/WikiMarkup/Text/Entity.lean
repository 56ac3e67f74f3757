import WikiMarkup.Fault
import WikiMarkup.Text.Digit
import WikiMarkup.Text.EntityNames
import WikiMarkup.Text.Scan

/-!
# Character references and tags

Escaping a text for HTML and reading it back. Two readers share their tables: the lenient one, which
understands numbers without a closing semicolon and the old names, and the strict one, which wants
the semicolon and lets everything else stand.

A tag is a segment of HTML from `<` to the next `>` with something in between.
-/

namespace WikiMarkup
namespace Entity

/-! ## Escaping -/

/-- The reference that stands for a character in HTML, if it needs one. An apostrophe needs one in
an attribute that is quoted with it. -/
def escapeChar (c : Char) : Text :=
  if c == '&' then "&amp;".toList
  else if c == '<' then "&lt;".toList
  else if c == '>' then "&gt;".toList
  else if c == '"' then "&quot;".toList
  else if c == '\'' then "&#x27;".toList
  else [c]

/-- A text for use in HTML, within quotes of either kind too. -/
def escape (t : Text) : Text := t.flatMap escapeChar

/-- A text for use in HTML content: the quotes stand as they are. -/
def escapeContent (t : Text) : Text :=
  t.flatMap fun c => if c == '"' || c == '\'' then [c] else escapeChar c

/-- A text for use in HTML, within double quotes too; an apostrophe stands as it is. -/
def escapeQuoted (t : Text) : Text :=
  t.flatMap fun c => if c == '\'' then [c] else escapeChar c

/-! ## Numbers -/

/-- What the numbers from 128 to 159 stand for: they are read as the characters of the code page
that once was usual on the web, where it has one. -/
def legacyCharacters : List (Nat × Char) :=
  [(0x80, '\u20ac'), (0x82, '\u201a'), (0x83, '\u0192'), (0x84, '\u201e'), (0x85, '\u2026'),
   (0x86, '\u2020'), (0x87, '\u2021'), (0x88, '\u02c6'), (0x89, '\u2030'), (0x8A, '\u0160'),
   (0x8B, '\u2039'), (0x8C, '\u0152'), (0x8E, '\u017d'), (0x91, '\u2018'), (0x92, '\u2019'),
   (0x93, '\u201c'), (0x94, '\u201d'), (0x95, '\u2022'), (0x96, '\u2013'), (0x97, '\u2014'),
   (0x98, '\u02dc'), (0x99, '\u2122'), (0x9A, '\u0161'), (0x9B, '\u203a'), (0x9C, '\u0153'),
   (0x9E, '\u017e'), (0x9F, '\u0178')]

/-- Numbers of control codes and of code points that are no characters: they stand for nothing. -/
def isVoid (n : Nat) : Bool :=
  (1 ≤ n && n ≤ 8) || n == 0x0B || (0x0E ≤ n && n ≤ 0x1F) || (0x7F ≤ n && n ≤ 0x9F) ||
    (0xFDD0 ≤ n && n ≤ 0xFDEF) || n % 0x10000 == 0xFFFE || n % 0x10000 == 0xFFFF

/-- The text that a numeric reference stands for. A number that can be no character's stands for
the replacement character. -/
def ofNumber (n : Nat) : Text :=
  if n == 0 then ['\ufffd']
  else if n == 0x0D then ['\x0d']
  else if (0x80 ≤ n && n ≤ 0x9F) then
    match legacyCharacters.lookup n with
    | some c => [c]
    | none => [Char.ofNat n]
  else if (0xD800 ≤ n && n ≤ 0xDFFF) || 0x10FFFF < n then ['\ufffd']
  else if isVoid n then []
  else [Char.ofNat n]

/-- The number that a row of digits to a base stands for. -/
def number (base : Nat) (digits : Text) : Nat :=
  digits.foldl (fun n c => base * n + (Digit.hexValue? c).getD 0) 0

/-- The number of a numeric reference, as it is written behind the number sign. -/
structure Numeral where
  /-- Ten or sixteen. -/
  base : Nat
  digits : Text
deriving DecidableEq, Repr

/-- How many characters a number takes: its digits, and the letter that announces base sixteen. -/
def Numeral.length (n : Numeral) : Nat := n.digits.length + if n.base == 16 then 1 else 0

/-- The number as a number. -/
def Numeral.value (n : Numeral) : Nat := number n.base n.digits

/-- Reads the number at the beginning of a text. -/
def readNumeral (t : Text) : Option Numeral :=
  let n : Numeral :=
    match t with
    | 'x' :: rest => ⟨16, rest.takeWhile fun c => (Digit.hexValue? c).isSome⟩
    | 'X' :: rest => ⟨16, rest.takeWhile fun c => (Digit.hexValue? c).isSome⟩
    | _ => ⟨10, t.takeWhile Text.isDigit⟩
  if n.digits.isEmpty then none else some n

/-! ## Names -/

/-- The text that a name stands for; the closing semicolon, where there is one, is part of it. -/
def ofName? (name : Text) : Option Text :=
  match name with
  | [] => none
  | first :: _ =>
    let names := namesFrom first
    let find (key : Text) := (names.find? fun entry => entry.1.toList == key).map (·.2.toList)
    if name.getLast? == some ';' then find name.dropLast
    else if unclosedNames.any fun known => known.toList == name then find name
    else none

/-- Reads the longest of the first `n` beginnings of a name that is itself a name of at least two
characters; what follows it is kept. -/
def ofBeginning? (name : Text) : Nat → Option Text
  | n + 2 =>
    match ofName? (name.take (n + 2)) with
    | some t => some (t ++ name.drop (n + 2))
    | none => ofBeginning? name (n + 1)
  | _ => none

/-- A character that can stand in a name. -/
def isNameChar (c : Char) : Bool :=
  !(c == '\t' || c == '\n' || c == '\x0c' || c == ' ' || c == '<' || c == '&' || c == '#' ||
    c == ';')

/-- The text of a named reference: that of its name, or of the longest beginning that is a name; a
name that nothing is known of stands for itself. -/
def ofReference (name : Text) : Text :=
  match ofName? name with
  | some t => t
  | none => (ofBeginning? name (name.length - 1)).getD ('&' :: name)

/-! ## Reading -/

/-- The longest name at the beginning of a text: at most 32 characters and perhaps a semicolon. -/
def readName (t : Text) : Option Text :=
  match (t.take 32).takeWhile isNameChar with
  | [] => none
  | name => if (t.drop name.length).head? == some ';' then some (name ++ [';']) else some name

/-- Recognises a reference, closed by a semicolon or not. -/
def lenient : Recogniser Text := fun _ t =>
  match t with
  | '&' :: '#' :: rest =>
    (readNumeral rest).map fun n =>
      let closing := if (rest.drop n.length).head? == some ';' then 1 else 0
      (ofNumber n.value, n.length + closing + 2)
  | '&' :: rest => (readName rest).map fun name => (ofReference name, name.length + 1)
  | _ => none

/-- Recognises a reference that a semicolon closes, with at most seven digits to base ten. -/
def strict : Recogniser Text := fun _ t =>
  match t with
  | '&' :: '#' :: rest =>
    match readNumeral rest with
    | some n =>
      if (rest.drop n.length).head? == some ';' && (n.base == 16 || n.digits.length ≤ 7) then
        some (ofNumber n.value, n.length + 3)
      else none
    | none => none
  | '&' :: rest =>
    match readName rest with
    | some name =>
      if name.getLast? == some ';' then some (ofReference name, name.length + 1) else none
    | none => none
  | _ => none

/-- The first number of a text, in a reference to base ten, that has more digits than are converted:
their number. -/
def overlong? (t : Text) : Option Nat :=
  let digits? : Recogniser (Option Nat) := fun prev t =>
    (lenient prev t).map fun (_, length) =>
      match t with
      | '&' :: '#' :: rest =>
        let digits := rest.takeWhile Text.isDigit
        (if Fault.digitLimit < digits.length then some digits.length else none, length)
      | _ => (none, length)
  (Text.scan digits? t).findSome? fun piece => piece.segment?.join

/-- Reads every reference of a text. -/
def unescape (t : Text) : Except Fault Text :=
  match overlong? t with
  | some digits => .error (.numberTooLong digits)
  | none => .ok (Text.replaceEach lenient t)

/-- Reads the references of a text that a semicolon closes. -/
def unescapeClosed (t : Text) : Text := Text.replaceEach strict t

/-- A text that may hold character references, for use in HTML. -/
def escapeOnce (t : Text) : Text := escapeQuoted (unescapeClosed t)

end Entity

/-! ## Tags -/

namespace Tag

/-- How many characters the tag at the beginning of a text takes, if there is one. -/
def length? : Text → Option Nat
  | '<' :: rest =>
    let body := Text.before '>' rest
    if body.isEmpty || (rest.drop body.length).isEmpty then none else some (body.length + 2)
  | _ => none

/-- A text without its tags. -/
def strip (t : Text) : Text :=
  Text.replaceEach (fun _ rest => (length? rest).map fun n => ([], n)) t

end Tag
end WikiMarkup
