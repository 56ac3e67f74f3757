/-!
# Texts

A text is a list of characters, so that a rule about text is a function by recursion on its
characters and a law about it goes by induction. This module holds what the rest of the library
says about texts in general: white space, trimming, prefixes and cutting at a character.
-/

namespace WikiMarkup

/-- A text, character by character. -/
abbrev Text := List Char

namespace Text

/-! ## Character classes -/

/-- White space of any script: the blanks, the line and paragraph ends, and the four separators
below the space. -/
def isBlank (c : Char) : Bool :=
  let n := c.toNat
  (9 ≤ n && n ≤ 13) || (0x1C ≤ n && n ≤ 0x20) || n == 0x85 || n == 0xA0 || n == 0x1680 ||
    (0x2000 ≤ n && n ≤ 0x200A) || n == 0x2028 || n == 0x2029 || n == 0x202F || n == 0x205F ||
    n == 0x3000

/-- A character of ASCII. -/
def isAscii (c : Char) : Bool := c.toNat < 128

/-- A lower-case ASCII letter. -/
def isLowerLetter (c : Char) : Bool := 'a' ≤ c && c ≤ 'z'

/-- An upper-case ASCII letter. -/
def isUpperLetter (c : Char) : Bool := 'A' ≤ c && c ≤ 'Z'

/-- An ASCII letter. -/
def isLetter (c : Char) : Bool := isLowerLetter c || isUpperLetter c

/-- An ASCII digit. -/
def isDigit (c : Char) : Bool := '0' ≤ c && c ≤ '9'

/-- An ASCII letter or digit. -/
def isLetterOrDigit (c : Char) : Bool := isLetter c || isDigit c

/-- The punctuation and sign characters of ASCII. -/
def isPunctuation (c : Char) : Bool :=
  let n := c.toNat
  (0x21 ≤ n && n ≤ 0x2F) || (0x3A ≤ n && n ≤ 0x40) || (0x5B ≤ n && n ≤ 0x60) ||
    (0x7B ≤ n && n ≤ 0x7E)

/-- The lower-case form of an ASCII letter; every other character is left alone. -/
def lowerLetter (c : Char) : Char :=
  if isUpperLetter c then Char.ofNat (c.toNat + 32) else c

/-- Lower case for the ASCII letters of a text. -/
def lowerAscii (t : Text) : Text := t.map lowerLetter

/-- Whether `c` is the lower-case letter `letter` in any case. Two letters have a third form
besides the ASCII ones: the long s, and the dotted capital and dotless small i; the Kelvin sign is
a form of k. -/
def isCaseOf (letter c : Char) : Bool :=
  lowerLetter c == letter || (letter == 's' && c == '\u017f') ||
    (letter == 'i' && (c == '\u0130' || c == '\u0131')) || (letter == 'k' && c == '\u212a')

/-- A letter that is an ASCII letter in some case. -/
def isCasedLetter (c : Char) : Bool :=
  isLetter c || c == '\u017f' || c == '\u0130' || c == '\u0131' || c == '\u212a'

/-! ## Trimming -/

/-- `t` without its longest ending whose characters are all in `p`. -/
def trimEnd (p : Char → Bool) (t : Text) : Text := (t.reverse.dropWhile p).reverse

/-- `t` without its longest beginning and ending whose characters are all in `p`. -/
def trimBy (p : Char → Bool) (t : Text) : Text := trimEnd p (t.dropWhile p)

/-- `t` without the white space around it. -/
def trim (t : Text) : Text := trimBy isBlank t

/-- `t` without the characters `c` at its beginning and its end. -/
def trimChar (c : Char) (t : Text) : Text := trimBy (· == c) t

/-! ## Cutting -/

/-- What follows `start` in `t`, if `t` begins with it. -/
def dropPrefix? : Text → Text → Option Text
  | [], t => some t
  | c :: start, d :: t => if c = d then dropPrefix? start t else none
  | _ :: _, [] => none

/-- Whether `t` begins with `start`. -/
def startsWith (start t : Text) : Bool := (dropPrefix? start t).isSome

/-- What follows the lower-case letters and signs `start` in `t`, if `t` begins with them in any
case. -/
def dropPrefixAnyCase? : Text → Text → Option Text
  | [], t => some t
  | c :: start, d :: t => if isCaseOf c d then dropPrefixAnyCase? start t else none
  | _ :: _, [] => none

/-- The part of `t` before the first `c`. -/
def before (c : Char) (t : Text) : Text := t.takeWhile (· != c)

/-- The part of `t` after the first `c`, if there is one. -/
def after? (c : Char) (t : Text) : Option Text :=
  match t.dropWhile (· != c) with
  | [] => none
  | _ :: rest => some rest

/-- The first line of `t`, without its end. -/
def firstLine (t : Text) : Text := before '\n' t

/-- The number of characters `c` that `t` begins with. -/
def runLength (c : Char) (t : Text) : Nat := (t.takeWhile (· == c)).length

/-- The part of a path up to and including its last slash. -/
def directory (path : Text) : Text := trimEnd (· != '/') path

/-- The part of a path after its last slash. -/
def lastSegment (path : Text) : Text := (path.reverse.takeWhile (· != '/')).reverse

/-- The words of a text, between its white space. The first argument holds the word that is being
read, backwards. -/
def wordsFrom : Text → Text → List Text
  | [], [] => []
  | word, [] => [word.reverse]
  | word, c :: rest =>
    if isBlank c then
      match word with
      | [] => wordsFrom [] rest
      | _ => word.reverse :: wordsFrom [] rest
    else wordsFrom (c :: word) rest

/-- The words of a text, between its white space. -/
def words (t : Text) : List Text := wordsFrom [] t

/-- Whether `part` stands somewhere in `t`. -/
def hasPart (part : Text) : Text → Bool
  | [] => part.isEmpty
  | c :: rest => startsWith part (c :: rest) || hasPart part rest

/-- `parts` one after the other, with `separator` between them. -/
def join (separator : Text) : List Text → Text
  | [] => []
  | [part] => part
  | part :: parts => part ++ separator ++ join separator parts

end Text
end WikiMarkup
