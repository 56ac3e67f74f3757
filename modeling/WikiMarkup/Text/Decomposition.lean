import WikiMarkup.Text.DecompositionTable
import WikiMarkup.Text.CombiningTable
import WikiMarkup.Text.Slug

/-!
# Compatibility decomposition

The decomposed form of a text: every character is written as what it is built from, and the marks
behind a letter are put into the order of their classes, so that two ways to write a letter with
several marks come out the same. The ASCII spelling of a text is what is left of this form without
the characters beyond ASCII.
-/

namespace WikiMarkup
namespace Decomposition

/-! ## Parts -/

/-- Whether a code point is a Hangul syllable. -/
def isSyllable (n : Nat) : Bool := 0xAC00 ≤ n && n ≤ 0xD7A3

/-- The leading consonant, the vowel and the trailing consonant, if there is one, of a Hangul
syllable. The syllables stand in the order of these three. -/
def jamo (n : Nat) : List Nat :=
  let place := n - 0xAC00
  let pair := [0x1100 + place / 588, 0x1161 + place % 588 / 28]
  if place % 28 = 0 then pair else pair ++ [0x11A7 + place % 28]

/-- The parts that the tables give for a code point, if they have it. -/
def parts? (n : Nat) : Option (List Nat) :=
  -- `ble` and `beq` are computed natively, which the checks of the tables rest on
  (areas.find? fun area => n.ble area.1).bind fun area =>
    (area.2.find? fun block => block.1.beq (n - n % 64)).bind fun block =>
      (block.2.find? fun entry => entry.1.beq n).map fun entry => entry.2

/-- The characters that a character is built from, down to those that are built from no others. -/
def expand (c : Char) : Text :=
  if isSyllable c.toNat then (jamo c.toNat).map Char.ofNat
  else
    match parts? c.toNat with
    | some parts => parts.map Char.ofNat
    | none => [c]

/-! ## Order of marks -/

/-- The combining class of a character. A letter, and a mark that keeps its place, has the class
zero. -/
def combiningClass (c : Char) : Nat :=
  match classes.find? fun (first, last, _) => first ≤ c.toNat && c.toNat ≤ last with
  | some (_, _, number) => number
  | none => 0

/-- Whether two characters beside each other are marks in the wrong order. -/
def isReorderable (c d : Char) : Bool :=
  0 < combiningClass d && combiningClass d < combiningClass c

/-- Puts a character in front of a text, behind the marks that have to stand before it. -/
def place (c : Char) : Text → Text
  | [] => [c]
  | d :: rest => if isReorderable c d then d :: place c rest else c :: d :: rest

/-- A text with the marks behind each letter in the order of their classes. Marks of one class stay
in their order. -/
def reorder (t : Text) : Text := t.foldr place []

/-- The compatibility decomposition of a text. -/
def normalize (t : Text) : Text := reorder (t.flatMap expand)

end Decomposition

namespace Folding

/-- The customary spelling of a letter that is built from no others; every other character is left
alone. -/
def customarySpelling (c : Char) : Text :=
  match customary.lookup c with
  | some letters => letters.toList
  | none => [c]

/-- A text with the customary spellings of its letters. -/
def spellOut (t : Text) : Text := t.flatMap customarySpelling

end Folding
end WikiMarkup
