import WikiMarkup.Proofs.Text.Basic
import WikiMarkup.Text.Scan

/-!
# Laws of scanning

How a scan goes over a stretch of text: past characters that belong to a segment, past a segment
that is found, and past characters at which nothing can be found. Each law leaves the text that
follows open, so that laws for stretches add up to a law for their concatenation.
-/

namespace WikiMarkup
namespace Text

variable {α : Type} {find : Recogniser α}

/-- The character before the end of `u`, where `prev` comes before it. -/
def lastOf (prev : Option Char) (u : Text) : Option Char := u.getLast?.or prev

theorem lastOf_cons (prev : Option Char) (c : Char) (u : Text) :
    lastOf prev (c :: u) = lastOf (some c) u := by
  cases u with
  | nil => rfl
  | cons d u => rw [lastOf, lastOf, List.getLast?_cons_cons, List.getLast?_cons, Option.some_or,
      Option.some_or]

/-- Characters of a segment that has been reported are passed over. -/
theorem scanFrom_skip (prev : Option Char) (u v : Text) :
    scanFrom find prev u.length (u ++ v) = scanFrom find (lastOf prev u) 0 v := by
  induction u generalizing prev with
  | nil => rfl
  | cons c u ih => rw [List.length_cons, List.cons_append, scanFrom, ih, lastOf_cons]

/-- A segment that is found is one piece. -/
theorem scanFrom_found {prev : Option Char} {a : α} {u v : Text} (hu : u ≠ [])
    (h : find prev (u ++ v) = some (a, u.length)) :
    scanFrom find prev 0 (u ++ v) = .found a :: scanFrom find (lastOf prev u) 0 v := by
  cases u with
  | nil => exact absurd rfl hu
  | cons c u =>
    rw [List.cons_append] at h ⊢
    rw [scanFrom, h]
    simp only [List.length_cons]
    rw [scanFrom_skip, lastOf_cons]

/-- A character at which nothing is found is one piece. -/
theorem scanFrom_plain {prev : Option Char} {c : Char} {v : Text}
    (h : find prev (c :: v) = none) :
    scanFrom find prev 0 (c :: v) = .plain c :: scanFrom find (some c) 0 v := by
  rw [scanFrom, h]

/-- Characters at which nothing can be found are as many pieces. -/
theorem scanFrom_plains {u : Text} (h : ∀ prev, ∀ c ∈ u, ∀ rest, find prev (c :: rest) = none)
    (prev : Option Char) (v : Text) :
    scanFrom find prev 0 (u ++ v) = u.map .plain ++ scanFrom find (lastOf prev u) 0 v := by
  induction u generalizing prev with
  | nil => rfl
  | cons c u ih =>
    have hc : find prev (c :: (u ++ v)) = none := h prev c List.mem_cons_self (u ++ v)
    have hu : ∀ prev, ∀ d ∈ u, ∀ rest, find prev (d :: rest) = none := fun prev d hd =>
      h prev d (List.mem_cons_of_mem c hd)
    rw [List.cons_append, scanFrom_plain hc, ih hu, lastOf_cons, List.map_cons, List.cons_append]

/-- A recogniser that does not look back finds the same, whatever stands before the text. -/
theorem scanFrom_congr_prev (h : ∀ prev prev' t, find prev t = find prev' t)
    (prev prev' : Option Char) (skip : Nat) (t : Text) :
    scanFrom find prev skip t = scanFrom find prev' skip t := by
  cases t with
  | nil => rfl
  | cons c t =>
    cases skip with
    | succ skip => rfl
    | zero => rw [scanFrom, scanFrom, h prev prev']

/-- The segments that are found in a text, in order. -/
def segments (find : Recogniser α) (t : Text) : List α :=
  (scan find t).filterMap Piece.segment?

/-- A segment of a text was found somewhere in it. -/
theorem exists_of_found_mem {a : α} {prev : Option Char} {skip : Nat} {t : Text}
    (h : .found a ∈ scanFrom find prev skip t) :
    ∃ prev' u n, u <:+ t ∧ find prev' u = some (a, n) := by
  induction t generalizing prev skip with
  | nil =>
    rw [scanFrom] at h
    cases h
  | cons c t ih =>
    have hrest : ∀ {prev skip}, .found a ∈ scanFrom find prev skip t →
        ∃ prev' u n, u <:+ c :: t ∧ find prev' u = some (a, n) := by
      intro prev skip hmem
      obtain ⟨prev', u, n, hu, hfind⟩ := ih hmem
      exact ⟨prev', u, n, hu.trans (List.suffix_cons c t), hfind⟩
    cases skip with
    | succ skip => exact hrest h
    | zero =>
      unfold scanFrom at h
      split at h
      · rename_i b n hfind
        rcases List.mem_cons.mp h with heq | hmem
        · cases heq
          exact ⟨prev, c :: t, n + 1, List.suffix_refl _, hfind⟩
        · exact hrest hmem
      · rcases List.mem_cons.mp h with heq | hmem
        · cases heq
        · exact hrest hmem

theorem exists_of_mem_segments {a : α} {t : Text} (h : a ∈ segments find t) :
    ∃ prev u n, u <:+ t ∧ find prev u = some (a, n) := by
  obtain ⟨piece, hpiece, hsegment⟩ := List.mem_filterMap.mp h
  cases piece with
  | plain c => cases hsegment
  | found b =>
    cases hsegment
    exact exists_of_found_mem hpiece

end Text
end WikiMarkup
