import WikiMarkup.Text.Scan

/-!
# Code in a text

A fenced block opens with a line that begins, behind at most three spaces, with a fence: three or
more backticks or tildes. It ends with the next line that begins with the same fence, behind at most
three spaces, and holds nothing else but more backticks, tildes, and then spaces or tabs. Without
such a line it goes on to the end of the text.

A code span stands between two runs of the same number of backticks, in one paragraph: no blank line
comes before the closing run.
-/

namespace WikiMarkup

/-! ## Fenced blocks -/

/-- A fence: `size` times the character `mark`. -/
structure Fence where
  mark : Char
  size : Nat
deriving DecidableEq, Repr

namespace Fence

/-- The most spaces in front of a fence. -/
def maxIndent : Nat := 3

/-- A character that fences are made of. -/
def isMark (c : Char) : Bool := c == '\x60' || c == '~'

/-- The fence that a line opens, if it opens one. -/
def opening? (line : Text) : Option Fence :=
  let indent := Text.runLength ' ' line
  match line.drop indent with
  | [] => none
  | mark :: rest =>
    let size := Text.runLength mark (mark :: rest)
    if indent ≤ maxIndent && isMark mark && 3 ≤ size then some ⟨mark, size⟩ else none

/-- Whether a line closes the block that a fence opened. -/
def closes (fence : Fence) (line : Text) : Bool :=
  let indent := Text.runLength ' ' line
  let body := line.drop indent
  indent ≤ maxIndent && fence.size ≤ Text.runLength fence.mark body &&
    (((body.drop fence.size).dropWhile isMark).all fun c => c == ' ' || c == '\t')

/-- How many characters of `t`, which follows the opening line, belong to the block. -/
def extent (fence : Fence) : Text → Nat
  | [] => 0
  | c :: rest =>
    let line := Text.firstLine rest
    if c == '\n' && fence.closes line then 1 + line.length else 1 + fence.extent rest

/-- Recognises a fenced block at the beginning of a line. -/
def recognise : Recogniser Text := fun prev t =>
  if prev.isNone || prev == some '\n' then
    let line := Text.firstLine t
    (opening? line).map fun fence =>
      let length := line.length + fence.extent (t.drop line.length)
      (t.take length, length)
  else none

end Fence

/-! ## Code spans -/

namespace Span

/-- The character that code spans stand between. -/
def tick : Char := '\x60'

/-- Whether a text, which follows a line end, begins with a line of spaces and tabs. -/
def blankLineFollows (t : Text) : Bool :=
  (t.dropWhile fun c => c == ' ' || c == '\t').head? == some '\n'

/-- How many characters stand before the run of exactly `size` backticks that closes a span; the
first argument tells whether a backtick comes just before the text. -/
def closing? (size : Nat) : Bool → Text → Option Nat
  | _, [] => none
  | afterTick, c :: rest =>
    if c == tick && !afterTick && Text.runLength tick (c :: rest) == size then some 0
    else if c == '\n' && blankLineFollows rest then none
    else (closing? size (c == tick) rest).map (· + 1)

/-- Recognises a code span. -/
def recognise : Recogniser Text := fun prev t =>
  let size := Text.runLength tick t
  if prev == some tick || size == 0 then none
  else
    (closing? size false (t.drop size)).map fun inner =>
      let length := size + inner + size
      (t.take length, length)

end Span
end WikiMarkup
