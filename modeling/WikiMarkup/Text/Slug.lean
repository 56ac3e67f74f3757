import WikiMarkup.Text.FoldingTable
import WikiMarkup.Text.Basic

/-!
# Slugs

A slug is the form of a name that stands in a URL or an anchor: ASCII letters, digits and the
characters that are to be kept, in words that single hyphens separate.

The ASCII spelling of a text is put together character by character: an accented letter loses its
accent, a styled or full-width character becomes the plain one, and a character without an ASCII
spelling is left out.
-/

namespace WikiMarkup

/-! ## Folding to ASCII -/

namespace Folding

/-- The ASCII spelling of a character beyond ASCII: its customary spelling, or its place in a styled
alphabet, or what it is a variant of; nothing if it has none. -/
def spelling (c : Char) : Text :=
  let n := c.toNat
  match customary.lookup c with
  | some letters => letters.toList
  | none =>
    match alphabets.find? fun (first, last, _) => first ≤ n && n ≤ last with
    | some (first, _, letter) => [Char.ofNat (letter.toNat + (n - first))]
    | none =>
      match variants.find? fun (_, forms) => forms.toList.contains c with
      | some (letters, _) => letters.toList
      | none =>
        match supplementary.lookup n with
        | some letters => letters.toList
        | none => []

/-- The ASCII spelling of a character. -/
def fold (c : Char) : Text := if Text.isAscii c then [c] else spelling c

/-- A text in ASCII. -/
def toAscii (t : Text) : Text := t.flatMap fold

end Folding

/-! ## Slugs -/

namespace Slug

/-- The characters that a slug keeps. -/
def keeps (keep : Text) (c : Char) : Bool := Text.isLetterOrDigit c || keep.contains c

/-- Writes one hyphen for each run of characters that `kept` rejects. The first argument tells
whether such a run has begun already. -/
def collapse (kept : Char → Bool) : Bool → Text → Text
  | _, [] => []
  | inRun, c :: rest =>
    if kept c then c :: collapse kept false rest
    else if inRun then collapse kept true rest
    else '-' :: collapse kept true rest

/-- The slug of a text: its ASCII spelling, in lower case if `lower` is set, with one hyphen for
each run of characters that are not kept, and without hyphens at its ends. -/
def ofText (keep : Text) (lower : Bool) (t : Text) : Text :=
  let ascii := Folding.toAscii t
  Text.trimChar '-' <|
    collapse (keeps keep) false (if lower then Text.lowerAscii ascii else ascii)

/-- The slug of a heading or of a section: words in lower case. -/
def ofHeading (t : Text) : Text := ofText [] true t

/-- The slug of a page name: words in lower case, with the slashes of the path. -/
def ofPath (t : Text) : Text := ofText ['/'] true t

end Slug
end WikiMarkup
