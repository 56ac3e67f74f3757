import WikiMarkup.Text.CasedTable
import WikiMarkup.Text.CasingTable
import WikiMarkup.Text.Basic

/-!
# Lower and upper case

Case conversion for letters of every script, and the caseless key under which two texts that differ
in case only are the same.
-/

namespace WikiMarkup
namespace Casing

/-- The form that a table of runs gives to a character, if it has the character. -/
def shifted? (runs : List (Nat × Nat × Nat × Int)) (c : Char) : Option Char :=
  let n := c.toNat
  (runs.find? fun (first, last, step, _) => first ≤ n && n ≤ last && (n - first) % step == 0).map
    fun (_, _, _, shift) => Char.ofNat (n + shift).toNat

/-- The case form of a character, from the letters with a form of several characters and the runs
of letters with a form of one. A character in neither is its own form. -/
def convert (expansions : List (Char × String)) (runs : List (Nat × Nat × Nat × Int)) (c : Char) :
    Text :=
  match expansions.lookup c with
  | some form => form.toList
  | none => [(shifted? runs c).getD c]

/-- The lower-case form of a character by itself. -/
def lowerChar (c : Char) : Text :=
  if Text.isAscii c then [Text.lowerLetter c] else convert lowerExpansions lowerRuns c

/-- The upper-case form of a character. -/
def upperChar (c : Char) : Text := convert upperExpansions upperRuns c

/-- Whether a character is in one of some ranges. -/
def isWithin (ranges : List (Nat × Nat)) (c : Char) : Bool :=
  ranges.any fun (first, last) => first ≤ c.toNat && c.toNat ≤ last

/-- A letter with case. -/
def isCased (c : Char) : Bool := isWithin casedRanges c

/-- A mark inside a word that does not separate its letters: an apostrophe, a stop, an accent. -/
def isCaseIgnorable (c : Char) : Bool := isWithin ignorableRanges c

/-- Whether the next letter of a text, past the marks inside words, has case. -/
def meetsCased (t : Text) : Bool :=
  match t.dropWhile isCaseIgnorable with
  | [] => false
  | c :: _ => isCased c

/-- The lower-case form of a text whose earlier characters, the last one first, are `past`. A Greek
capital sigma becomes the final sigma at the end of a word. -/
def lowerFrom : Text → Text → Text
  | _, [] => []
  | past, c :: rest =>
    (if c == '\u03a3' then
      if meetsCased past && !meetsCased rest then ['\u03c2'] else ['\u03c3']
    else lowerChar c) ++ lowerFrom (c :: past) rest

/-- The lower-case form of a text. -/
def lower (t : Text) : Text := lowerFrom [] t

/-- A key that texts share if they differ in the case of their letters only. -/
def caselessKey (t : Text) : Text := t.flatMap fun c => (lowerChar c).flatMap upperChar

end Casing
end WikiMarkup
