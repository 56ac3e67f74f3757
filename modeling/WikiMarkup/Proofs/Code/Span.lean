import WikiMarkup.Code.Fence
import WikiMarkup.Proofs.Text.Scan

/-!
# Laws of code spans

What a code span that is recognised looks like: a run of backticks, an inside, and a run of the same
number of backticks. The form has nothing to do with paragraphs, so it is shown for spans that may go
over blank lines, and the spans of one paragraph are among these.
-/

namespace WikiMarkup
namespace Span

open Text

/-- A run of characters stands at the beginning of the text that it is counted in. -/
theorem runLength_spec (c : Char) (t : Text) :
    t = List.replicate (runLength c t) c ++ t.drop (runLength c t) := by
  have hrun : t.takeWhile (· == c) = List.replicate (runLength c t) c := by
    rw [runLength, List.eq_replicate_iff]
    refine ⟨rfl, fun d hd => ?_⟩
    simpa using List.mem_takeWhile_imp hd
  have htake : t.takeWhile (· == c) = t.take (runLength c t) :=
    List.prefix_iff_eq_take.mp (List.takeWhile_prefix _)
  rw [← hrun, htake, List.take_append_drop]

/-- A span begins with a backtick. -/
theorem recognise_eq_none {c : Char} (h : c ≠ tick) (prev : Option Char) (rest : Text) :
    recognise prev (c :: rest) = none := by
  have hrun : runLength tick (c :: rest) = 0 := by
    rw [runLength, List.takeWhile_cons_of_neg (by simpa using h), List.length_nil]
  simp [recognise, hrun]

/-! ## Spans that may go over blank lines -/

/-- How many characters stand before the run of exactly `size` backticks that closes a span, whatever
lines are between; the first argument tells whether a backtick comes just before the text. -/
def closingAcross? (size : Nat) : Bool → Text → Option Nat
  | _, [] => none
  | afterTick, c :: rest =>
    if c == tick && !afterTick && runLength tick (c :: rest) == size then some 0
    else (closingAcross? size (c == tick) rest).map (· + 1)

/-- Recognises a code span that may go over blank lines. -/
def recogniseAcross : Recogniser Text := fun prev t =>
  let size := runLength tick t
  if prev == some tick || size == 0 then none
  else
    (closingAcross? size false (t.drop size)).map fun inner =>
      let length := size + inner + size
      (t.take length, length)

/-- The closing run of a span stands behind its inside. -/
theorem closingAcross?_eq_some {size inner : Nat} {afterTick : Bool} {t : Text}
    (h : closingAcross? size afterTick t = some inner) :
    ∃ inside rest, t = inside ++ rest ∧ inside.length = inner ∧ runLength tick rest = size := by
  induction t generalizing afterTick inner with
  | nil => cases h
  | cons c t ih =>
    unfold closingAcross? at h
    split at h
    · rename_i hclose
      cases h
      simp only [Bool.and_eq_true, beq_iff_eq] at hclose
      exact ⟨[], c :: t, rfl, rfl, hclose.2⟩
    · obtain ⟨inner', hinner, rfl⟩ := Option.map_eq_some_iff.mp h
      obtain ⟨inside, rest, rfl, rfl, hrest⟩ := ih hinner
      exact ⟨c :: inside, rest, rfl, rfl, hrest⟩

/-- A text that begins with a span is cut behind the opening run, and before and behind the closing
one. -/
theorem exists_inside {t : Text} {size inner : Nat} (hsize : runLength tick t = size)
    (h : closingAcross? size false (t.drop size) = some inner) :
    ∃ inside rest, inside.length = inner ∧
      t = List.replicate size tick ++ inside ++ List.replicate size tick ++ rest := by
  obtain ⟨inside, closing, hdrop, hinner, hclosing⟩ := closingAcross?_eq_some h
  refine ⟨inside, closing.drop size, hinner, ?_⟩
  have hopening := runLength_spec tick t
  have hclose := runLength_spec tick closing
  rw [hsize] at hopening
  rw [hclosing] at hclose
  calc t = List.replicate size tick ++ t.drop size := hopening
    _ = List.replicate size tick ++ (inside ++ closing) := by rw [hdrop]
    _ = _ := by rw [List.append_assoc, List.append_assoc, ← hclose]

/-- A span that is recognised begins and ends with runs of the same number of backticks. -/
theorem recogniseAcross_eq_some {prev : Option Char} {t span : Text} {n : Nat}
    (h : recogniseAcross prev t = some (span, n)) :
    n = span.length ∧ ∃ size inside rest, 0 < size ∧
      span = List.replicate size tick ++ inside ++ List.replicate size tick ∧
      t = span ++ rest := by
  simp only [recogniseAcross] at h
  split at h
  · cases h
  · rename_i hopen
    obtain ⟨inner, hinner, heq⟩ := Option.map_eq_some_iff.mp h
    rw [Bool.or_eq_true, not_or, beq_iff_eq, beq_iff_eq] at hopen
    obtain ⟨inside, rest, rfl, ht⟩ := exists_inside rfl hinner
    generalize runLength tick t = size at hopen ht heq
    have hlength : (List.replicate size tick ++ inside ++ List.replicate size tick).length =
        size + inside.length + size := by
      simp only [List.length_append, List.length_replicate]
    have htake : t.take (size + inside.length + size) =
        List.replicate size tick ++ inside ++ List.replicate size tick := by
      rw [ht, List.take_left' hlength]
    cases heq
    rw [htake]
    exact ⟨hlength.symm, size, inside, rest, Nat.pos_of_ne_zero hopen.2, rfl, ht⟩

/-! ## Spans in one paragraph -/

theorem closingAcross?_of_closing? {size inner : Nat} {afterTick : Bool} {t : Text}
    (h : closing? size afterTick t = some inner) :
    closingAcross? size afterTick t = some inner := by
  induction t generalizing afterTick inner with
  | nil => cases h
  | cons c t ih =>
    unfold closing? at h
    unfold closingAcross?
    split at h
    · rename_i hclose
      rw [if_pos hclose]
      exact h
    · rename_i hclose
      rw [if_neg hclose]
      split at h
      · cases h
      · obtain ⟨inner', hinner, rfl⟩ := Option.map_eq_some_iff.mp h
        rw [ih hinner]
        rfl

/-- A span in one paragraph is a span. -/
theorem recogniseAcross_of_recognise {prev : Option Char} {t : Text} {found : Text × Nat}
    (h : recognise prev t = some found) : recogniseAcross prev t = some found := by
  simp only [recognise] at h
  simp only [recogniseAcross]
  split at h
  · cases h
  · rename_i hopen
    obtain ⟨inner, hinner, rfl⟩ := Option.map_eq_some_iff.mp h
    rw [if_neg hopen, closingAcross?_of_closing? hinner]
    rfl

theorem recognise_eq_some {prev : Option Char} {t span : Text} {n : Nat}
    (h : recognise prev t = some (span, n)) :
    n = span.length ∧ ∃ size inside rest, 0 < size ∧
      span = List.replicate size tick ++ inside ++ List.replicate size tick ∧
      t = span ++ rest :=
  recogniseAcross_eq_some (recogniseAcross_of_recognise h)

end Span
end WikiMarkup
