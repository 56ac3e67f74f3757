import WikiMarkup.Text.Basic

/-!
# Scanning

A scan goes through a text once, from left to right, and cuts it into the segments that a recogniser
finds and the characters between them. What is done with the segments afterwards (replacing them,
or running something for each) cannot change what is found.

* `Text.scan_flatten`: the pieces of a text make up the text, if each segment that is found stands
  for the characters that it spans.
-/

namespace WikiMarkup

/-- A piece of a scanned text. -/
inductive Piece (α : Type) where
  /-- A character outside every segment. -/
  | plain (c : Char)
  /-- A segment that was recognised. -/
  | found (a : α)
deriving DecidableEq, Repr

/-- Looks at a position of a text, given the character before it and the text from there on, and
says what begins there and how many characters it takes. -/
abbrev Recogniser (α : Type) := Option Char → Text → Option (α × Nat)

namespace Text

/-- The pieces of a text, given the character before it and how many of its first characters
belong to a segment that has been reported already. -/
def scanFrom {α : Type} (find : Recogniser α) : Option Char → Nat → Text → List (Piece α)
  | _, _, [] => []
  | _, skip + 1, c :: rest => scanFrom find (some c) skip rest
  | prev, 0, c :: rest =>
    match find prev (c :: rest) with
    | some (a, length + 1) => .found a :: scanFrom find (some c) length rest
    | _ => .plain c :: scanFrom find (some c) 0 rest

/-- The pieces of a text. -/
def scan {α : Type} (find : Recogniser α) (t : Text) : List (Piece α) := scanFrom find none 0 t

end Text

/-- The text of a piece, where `write` gives the text of a segment. -/
def Piece.text {α : Type} (write : α → Text) : Piece α → Text
  | .plain c => [c]
  | .found a => write a

/-- The segment of a piece. -/
def Piece.segment? {α : Type} : Piece α → Option α
  | .plain _ => none
  | .found a => some a

namespace Text

/-- Replaces every segment that `find` recognises by the text that it reports. -/
def replaceEach (find : Recogniser Text) (t : Text) : Text :=
  (scan find t).flatMap (Piece.text id)

/-- Replaces every occurrence of `old` by `new`; an empty `old` occurs nowhere. -/
def replaceAll (old new t : Text) : Text :=
  replaceEach (fun _ rest => if startsWith old rest then some (new, old.length) else none) t

/-- Pieces whose segments stand for the characters that they span make up the text. -/
theorem scanFrom_flatten {α : Type} (find : Recogniser α) (write : α → Text)
    (span : ∀ prev t a n, find prev t = some (a, n) → write a = t.take n) :
    ∀ prev skip t, (scanFrom find prev skip t).flatMap (Piece.text write) = t.drop skip
  | _, _, [] => by simp [scanFrom]
  | _, skip + 1, c :: rest => by
    simpa [scanFrom] using scanFrom_flatten find write span (some c) skip rest
  | prev, 0, c :: rest => by
    unfold scanFrom
    split
    · rename_i a length h
      have hspan := span _ _ _ _ h
      simp [Piece.text, hspan, scanFrom_flatten find write span (some c) length rest]
    · simp [Piece.text, scanFrom_flatten find write span (some c) 0 rest]

/-- The pieces of a text make up the text. -/
theorem scan_flatten {α : Type} (find : Recogniser α) (write : α → Text)
    (span : ∀ prev t a n, find prev t = some (a, n) → write a = t.take n) (t : Text) :
    (scan find t).flatMap (Piece.text write) = t := by
  simpa [scan] using scanFrom_flatten find write span none 0 t

end Text
end WikiMarkup
