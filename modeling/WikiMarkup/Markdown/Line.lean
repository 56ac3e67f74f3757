import WikiMarkup.Text.Basic

/-!
# Lines

What the readers of blocks need to know about lines: their indentation, tabs, and blank lines.
-/

namespace WikiMarkup
namespace Markdown

/-- A space or a tab. -/
def isSpace (c : Char) : Bool := c == ' ' || c == '\t'

/-- Applies a function to each line of a text. -/
def mapLines (f : Text → Text) (t : Text) : Text := Text.join ['\n'] ((t.splitOn '\n').map f)

/-- The length of the first line of a text, with its end. -/
def lineLength (t : Text) : Nat :=
  let length := (Text.firstLine t).length
  if (t.drop length).isEmpty then length else length + 1

/-- The first line of a text, with its end. -/
def wholeLine (t : Text) : Text := t.take (lineLength t)

/-- What stands behind the spaces at the beginning of a line, if there are at most `most`. -/
def indented? (most : Nat) (line : Text) : Option (Nat × Text) :=
  let indent := Text.runLength ' ' line
  if indent ≤ most then some (indent, line.drop indent) else none

/-! ## Tabs -/

/-- Replaces a tab behind at most three spaces at the beginning of a line. -/
def replaceLeadingTab (fill : Nat → Text) (line : Text) : Text :=
  match indented? 3 line with
  | some (indent, '\t' :: rest) => fill indent ++ rest
  | _ => line

/-- Lets a tab at the beginning of each line reach to the column `width`. -/
def alignTabs (width : Nat) (t : Text) : Text :=
  mapLines (replaceLeadingTab fun indent =>
    List.replicate indent ' ' ++ List.replicate (width - indent) ' ') t

/-- Replaces a tab at the beginning of a line by four spaces. -/
def widenTab (line : Text) : Text :=
  replaceLeadingTab (fun indent => List.replicate (indent + 4) ' ') line

/-- A line that begins at a column, with spaces for the white space at its beginning: tabs reach to
every fourth column. -/
def expandTabs : Nat → Text → Text
  | column, ' ' :: rest => ' ' :: expandTabs (column + 1) rest
  | column, '\t' :: rest =>
    let width := 4 - column % 4
    List.replicate width ' ' ++ expandTabs (column + width) rest
  | _, line => line

/-- A line without the spaces at its beginning, of which at most `most` are removed. -/
def dropSpaces (most : Nat) (line : Text) : Text := line.drop (min most (Text.runLength ' ' line))

/-! ## Blank lines -/

/-- A character of a blank line. -/
def isBlankLineChar (c : Char) : Bool := c == ' ' || c == '\t' || c == '\x0b' || c == '\x0c'

/-- The length of the blank lines at the beginning of a text; `pending` characters of the first one
have been seen already. A line without an end is none. -/
def blankLinesFrom (pending : Nat) : Text → Nat
  | [] => 0
  | c :: rest =>
    if c == '\n' then pending + 1 + blankLinesFrom 0 rest
    else if isBlankLineChar c then blankLinesFrom (pending + 1) rest
    else 0

/-- The length of the blank lines at the beginning of a text. -/
def blankLines (t : Text) : Nat := blankLinesFrom 0 t

/-- How many characters of a text come before the first line at which `p` holds of the text from there
on. The first argument tells whether the text begins at the beginning of a line. -/
def beforeLine? (p : Text → Bool) : Bool → Text → Option Nat
  | _, [] => none
  | atStart, c :: rest =>
    if atStart && p (c :: rest) then some 0 else (beforeLine? p (c == '\n') rest).map (· + 1)

/-- Whether a text begins with a blank line. -/
def beginsBlank (t : Text) : Bool := (t.dropWhile isBlankLineChar).head? == some '\n'

end Markdown
end WikiMarkup
