import WikiMarkup.Code.Fence
import WikiMarkup.Fault

/-!
# Shielding code

Before a page is searched for scripts and references, its code is put aside: first every fenced
block, then every code span is replaced by a mark with its number. Afterwards each mark is replaced
by what it stands for.
-/

namespace WikiMarkup
namespace Shield

/-! ## Putting code aside -/

/-- The character that marks begin and end with. -/
def edge : Char := '\x00'

/-- The letters of a mark. -/
def label : Text := "CODE".toList

/-- The mark of the segment with a number. -/
def mark (number : Nat) : Text := edge :: label ++ Digit.write number ++ [edge]

/-- Replaces the segments found in a text by marks, numbered from `first` on. -/
def stash (first : Nat) : List (Piece Text) → Text
  | [] => []
  | .plain c :: pieces => c :: stash first pieces
  | .found _ :: pieces => mark first ++ stash (first + 1) pieces

/-- A text with marks for its code, and the code, in the order of the numbers. -/
structure Shielded where
  text : Text
  saved : List Text
deriving DecidableEq, Repr

/-- Replaces the segments that `find` recognises by marks, in a text from which some have been put
aside already. -/
def putAside (find : Recogniser Text) (s : Shielded) : Shielded :=
  let pieces := Text.scan find s.text
  { text := stash s.saved.length pieces
    saved := s.saved ++ pieces.filterMap Piece.segment? }

/-- Puts the fenced blocks of a text aside, and then its code spans. -/
def protect (t : Text) : Shielded := putAside Span.recognise (putAside Fence.recognise ⟨t, []⟩)

/-! ## Putting it back -/

/-- Recognises a mark, and reports the digits of its number. -/
def recogniseMark : Recogniser Text := fun _ t =>
  match Text.dropPrefix? (edge :: label) t with
  | none => none
  | some rest =>
    let digits := rest.takeWhile Digit.isDecimal
    if digits.isEmpty || (rest.drop digits.length).head? != some edge then none
    else some (digits, label.length + digits.length + 2)

/-- The segment with the number that is written in `digits`. -/
def segment (saved : List Text) (digits : Text) : Except Fault Text :=
  if Fault.digitLimit < digits.length then .error (.numberTooLong digits.length)
  else
    match saved[Digit.number digits]? with
    | some t => .ok t
    | none =>
      .error (if Digit.number digits < Nat.pow 2 63 then .unknownMark else .markTooLarge)

/-- The pieces of a text with the segments that their marks stand for. -/
def restorePieces (saved : List Text) : List (Piece Text) → Except Fault Text
  | [] => .ok []
  | .plain c :: pieces => do return c :: (← restorePieces saved pieces)
  | .found digits :: pieces => do
    let t ← segment saved digits
    return t ++ (← restorePieces saved pieces)

/-- Replaces every mark of a text by the segment that it stands for. -/
def restore (s : Shielded) : Except Fault Text :=
  restorePieces s.saved (Text.scan recogniseMark s.text)

end Shield
end WikiMarkup
