import WikiMarkup.Markdown.Inline
import WikiMarkup.Text.LetterTable

/-!
# Emphasis

Emphasis stands between runs of asterisks or of underscores. What is around a run tells whether it can
open emphasis, close it, or both; then the runs are paired from left to right, each one that closes
with the nearest one before it that opens. A pair of double marks is strong emphasis, one of single
marks is emphasis, and marks that find no partner are text.

A run that has found no partner is remembered: a later one of its kind is not tried with what is
before it. What is left of a run that has opened emphasis is tried as a closing run once more. A run
that stands alone within emphasis is text there, but a later one that it could be paired with is not
tried with what is before it either.
-/

namespace WikiMarkup
namespace Markdown

/-- A part of a text whose emphasis has not been read yet: a piece, or marks of emphasis. -/
inductive Part where
  | piece (piece : Inline)
  | marks (mark : Char) (count : Nat)
deriving Repr

/-- Whether a character is a mark of emphasis. -/
def isEmphasisMark (c : Char) : Bool := c == '*' || c == '_'

/-! ## Sides -/

/-- What stands on one side of a run of marks. -/
inductive Side where
  | space
  | symbol
  | letter
deriving DecidableEq, Repr

namespace Side

/-- The side with a character; an end of the text is like white space. -/
def ofChar : Option Char → Side
  | none => .space
  | some c =>
    if Text.isBlank c then .space else if Letter.isLetterOrNumeral c then .letter else .symbol

/-- The side with a part, of whose text the character `edge` is next to it. -/
def ofPart (edge : Text → Option Char) : Part → Side
  | .piece (.text t) | .piece (.literal t) => ofChar (edge t)
  | .piece .lineBreak | .piece .softBreak => .space
  | .piece _ | .marks _ _ => .symbol

/-- Whether a run leans on what is on one side of it, more than on what is on the other: on a letter,
or on a symbol if there is no letter on the other side. -/
def attracts (side other : Side) : Bool :=
  match side with
  | .space => false
  | .letter => true
  | .symbol => other != .letter

end Side

/-! ## Runs of marks -/

/-- A run of marks of emphasis, with its place among the runs of its text. -/
structure Run where
  mark : Char
  size : Nat
  opens : Bool
  closes : Bool
  place : Nat
deriving DecidableEq, Repr

namespace Run

/-- The run of `size` marks at a place between two sides. An asterisk opens or closes what it leans
on; an underscore within a word does neither. -/
def between (mark : Char) (size place : Nat) (before behind : Side) : Run :=
  let right := behind.attracts before
  let left := before.attracts behind
  if mark == '_' then
    let opens := right && (!left || before == .symbol)
    let closes := left && (!right || behind == .symbol)
    { mark, size, opens, closes, place }
  else { mark, size, opens := right, closes := left, place }

/-- Whether a run and a later one that closes can be a pair. If one of them both opens and closes, the
number of their marks together is no multiple of three, unless both numbers are. -/
def pairsWith (first second : Run) : Bool :=
  first.opens && first.mark == second.mark &&
    (!(first.closes || second.opens) || (first.size + second.size) % 3 != 0 ||
      (first.size % 3 == 0 && second.size % 3 == 0))

/-- Some of the marks of a run, as text. -/
def text (run : Run) (count : Nat) : Inline := .text (List.replicate count run.mark)

end Run

namespace Emphasis

/-! ## Openings -/

/-- A run that has not been closed: how many of its marks are left, and the pieces behind it, the last
one first, with their levels. -/
structure Opening where
  run : Run
  left : Nat
  pieces : List Inline := []
  height : Nat := 0
  /-- Runs behind it that are text within emphasis of the other mark, and all that is in it. -/
  spent : List Run := []
deriving Repr

namespace Opening

/-- Puts a piece of some height behind an opening. -/
def add (opening : Opening) (piece : Inline) (height : Nat) : Opening :=
  { opening with pieces := piece :: opening.pieces, height := max opening.height height }

/-- The pieces behind an opening, and its marks as text before them, the last one first. -/
def flat (opening : Opening) : List Inline :=
  opening.pieces ++ [opening.run.text opening.left]

end Opening

/-- The runs that are spent behind an opening which is closed by a run, where `inner` are the openings
behind it: the run that is alone between the two, and those of the other mark that were spent. -/
def spentBetween (opening : Opening) (inner : List Opening) (run : Run) : List Run :=
  let others := (inner.flatMap Opening.spent ++ opening.spent).filter (·.mark != run.mark)
  match inner, opening.pieces with
  | [only], [] => if only.pieces.isEmpty then only.run :: others else others
  | _, _ => others

/-- How many of some openings, the last one first, are behind the one that a run closes. No opening
before the place `floor` is looked at, and none behind which a spent run could be the partner. -/
def partner? (run : Run) (floor : Nat) : List Opening → Option Nat
  | [] => none
  | opening :: openings =>
    if opening.run.place < floor || opening.spent.any fun spent => spent.pairsWith run then none
    else if opening.run.pairsWith run then some 0
    else (partner? run floor openings).map (· + 1)

/-! ## Pairing -/

/-- What closing runs have in common if none of them finds a partner where one of them has not: their
mark, whether they open too, and the number of their marks, up to multiples of three. -/
structure Kind where
  mark : Char
  opens : Bool
  rest : Nat
deriving DecidableEq, Repr

/-- The kind of a run of which some marks are left. -/
def Kind.of (run : Run) (left : Nat) : Kind := ⟨run.mark, run.opens, left % 3⟩

/-- What has been read: the runs that have not been closed, the last one first, the pieces before all
of them, the last one first, and the places before which runs of a kind find no partner. -/
structure Pairing where
  openings : List Opening := []
  pieces : List Inline := []
  floors : List (Kind × Nat) := []
deriving Repr

/-- A pair of runs with the piece that it makes, and what is before it. -/
structure Enclosed where
  before : Pairing
  opening : Opening
  used : Nat
  piece : Inline
  height : Nat
  spent : List Run
deriving Repr

namespace Pairing

/-- Puts a piece of some height at the end. -/
def add (pairing : Pairing) (piece : Inline) (height : Nat) : Pairing :=
  match pairing.openings with
  | opening :: openings => { pairing with openings := opening.add piece height :: openings }
  | [] => { pairing with pieces := piece :: pairing.pieces }

/-- Remembers runs at the end that have become text. -/
def spend (pairing : Pairing) (runs : List Run) : Pairing :=
  match pairing.openings with
  | opening :: openings =>
    { pairing with openings := { opening with spent := runs ++ opening.spent } :: openings }
  | [] => pairing

/-- All pieces; the marks that are left are text. -/
def flat (pairing : Pairing) : List Inline :=
  (pairing.openings.flatMap Opening.flat ++ pairing.pieces).reverse

/-- Pairs a run, of which `left` marks are left, with the opening that it closes, if the piece that
they make has at most `levels` levels. What is open in between becomes text. -/
def enclose? (levels : Nat) (pairing : Pairing) (run : Run) (left : Nat) : Option Enclosed :=
  let floor := (pairing.floors.lookup (Kind.of run left)).getD 0
  (partner? run floor pairing.openings).bind fun n =>
    let inner := pairing.openings.take n
    match pairing.openings.drop n with
    | [] => none
    | opening :: openings =>
      let height := 1 + inner.foldl (fun height opening => max height opening.height) opening.height
      if levels < height then none
      else
        let children :=
          Inline.joinTexts (inner.flatMap Opening.flat ++ opening.pieces).reverse
        let isStrong := 2 ≤ left && 2 ≤ opening.left
        some
          { before := { pairing with openings }
            opening
            used := if isStrong then 2 else 1
            piece := if isStrong then .strong children else .emphasis children
            height
            spent := spentBetween opening inner run }

/-- Puts a run at the end of which `left` marks are left and have found no partner. -/
def leave (pairing : Pairing) (run : Run) (left : Nat) : Pairing :=
  let pairing :=
    if run.closes then
      let kind := Kind.of run left
      let others := pairing.floors.filter fun entry => entry.1 != kind
      { pairing with floors := (kind, run.place) :: others }
    else pairing
  if run.opens then { pairing with openings := { run, left } :: pairing.openings }
  else pairing.add (run.text left) 0

/-- Puts a run at the end of which `left` marks are left, after pairing as many of them as find
partners. What is left of a partner is put there in the same way. Every pair takes marks of both
runs, so that fuel for all marks of the text is enough. -/
def addRun (levels : Nat) : Nat → Run → Nat → Pairing → Pairing
  | 0, run, left, pairing => pairing.leave run left
  | fuel + 1, run, left, pairing =>
    if left == 0 then pairing
    else
      match if run.closes then pairing.enclose? levels run left else none with
      | none => pairing.leave run left
      | some found =>
        let opening := found.opening
        let pairing := addRun levels fuel opening.run (opening.left - found.used) found.before
        let pairing := (pairing.add found.piece found.height).spend found.spent
        addRun levels fuel run (left - found.used) pairing

/-- Puts parts at the end, behind one with the side `before` at its end. The first run among them has
the place `place`. -/
def addParts (levels fuel : Nat) : Nat → Side → List Part → Pairing → Pairing
  | _, _, [], pairing => pairing
  | place, before, part :: parts, pairing =>
    let next := Side.ofPart List.getLast? part
    match part with
    | .piece piece => addParts levels fuel place next parts (pairing.add piece piece.height)
    | .marks mark count =>
      let behind := (parts.head?.map (Side.ofPart List.head?)).getD .space
      let run := Run.between mark count place before behind
      addParts levels fuel (place + 1) next parts (pairing.addRun levels fuel run count)

end Pairing

/-- How many marks of emphasis there are among parts. -/
def markCount (parts : List Part) : Nat :=
  parts.foldl (fun n part =>
    match part with
    | .marks _ count => n + count
    | .piece _ => n) 0

/-- Reads the emphasis in a row of parts, with at most `levels` levels of pieces. Where there are
marks of emphasis, character references are read over all the text between the pieces. -/
def ofParts (levels : Nat) (parts : List Part) : List Inline :=
  let fuel := markCount parts + 1
  let pieces := (Pairing.addParts levels fuel 0 .space parts {}).flat
  Inline.joinTexts (if fuel == 1 then pieces else pieces.map Inline.toText)

end Emphasis
end Markdown
end WikiMarkup
