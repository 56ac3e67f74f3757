import WikiMarkup.Proofs.Text.Scan

/-!
# Line ends

A text whose lines end with a carriage return and a line feed is scanned with the carriage return as
one more character of each line. A scan of such a text is followed by a scan of the text with plain
line feeds, if at every position the one recogniser finds what the other one does, with the carriage
returns put in.
-/

namespace WikiMarkup
namespace Text

/-- A text with a carriage return in front of each line feed. -/
def crlf (t : Text) : Text := t.flatMap fun c => if c == '\n' then ['\r', '\n'] else [c]

@[simp] theorem crlf_nil : crlf [] = [] := rfl

@[simp] theorem crlf_newline (t : Text) : crlf ('\n' :: t) = '\r' :: '\n' :: crlf t := rfl

theorem crlf_cons {c : Char} (h : c ≠ '\n') (t : Text) : crlf (c :: t) = c :: crlf t := by
  rw [crlf, List.flatMap_cons, if_neg (by simpa using h)]
  rfl

@[simp] theorem crlf_append (u v : Text) : crlf (u ++ v) = crlf u ++ crlf v := List.flatMap_append

theorem crlf_eq_self {u : Text} (h : '\n' ∉ u) : crlf u = u := by
  induction u with
  | nil => rfl
  | cons c u ih =>
    rw [List.mem_cons, not_or] at h
    rw [crlf_cons (Ne.symm h.1), ih h.2]

theorem crlf_ne_nil {u : Text} (h : u ≠ []) : crlf u ≠ [] := by
  obtain ⟨c, u, rfl⟩ := List.exists_cons_of_ne_nil h
  by_cases hc : c = '\n'
  · simp [hc]
  · simp [crlf_cons hc]

/-- A line feed never stands first. -/
theorem head?_crlf_ne (t : Text) : (crlf t).head? ≠ some '\n' := by
  cases t with
  | nil => simp
  | cons c t =>
    by_cases h : c = '\n'
    · simp [h]
    · simp [crlf_cons h, h]

theorem getLast?_crlf (t : Text) : (crlf t).getLast? = t.getLast? := by
  induction t using List.reverseRecOn with
  | nil => rfl
  | append_singleton t c _ =>
    rw [crlf_append, List.getLast?_concat]
    by_cases h : c = '\n'
    · simp [h]
    · simp [crlf_cons h]

theorem lastOf_crlf (prev : Option Char) (t : Text) : lastOf prev (crlf t) = lastOf prev t := by
  rw [lastOf, lastOf, getLast?_crlf]

/-- Reading a class of characters that holds neither of the two that end lines stops at the same
place. -/
theorem takeWhile_crlf {p : Char → Bool} (hfeed : p '\n' = false) (hreturn : p '\r' = false)
    (t : Text) :
    (crlf t).takeWhile p = t.takeWhile p ∧ (crlf t).dropWhile p = crlf (t.dropWhile p) := by
  have hline : '\n' ∉ t.takeWhile p := by
    intro hmem
    rw [List.mem_takeWhile_imp hmem] at hfeed
    cases hfeed
  have hsplit : crlf t = t.takeWhile p ++ crlf (t.dropWhile p) := by
    conv_lhs => rw [← List.takeWhile_append_dropWhile (p := p) (l := t), crlf_append,
      crlf_eq_self hline]
  rw [hsplit]
  refine takeWhile_append_stop (fun c hc => List.mem_takeWhile_imp hc) ?_
  have hstop := List.head?_dropWhile_not p t
  cases hrest : t.dropWhile p with
  | nil => simp
  | cons d rest =>
    rw [hrest] at hstop
    by_cases hd : d = '\n'
    · simp [hd, hreturn]
    · simpa [crlf_cons hd] using hstop

/-- A stretch of one line that does not end with a carriage return begins a text exactly if it begins
the text with carriage returns. -/
theorem prefix_crlf_iff {u t : Text} (hline : '\n' ∉ u) (hlast : u.getLast? ≠ some '\r') :
    u <+: crlf t ↔ u <+: t := by
  constructor
  · intro h
    induction u generalizing t with
    | nil => exact List.nil_prefix
    | cons d u ih =>
      cases t with
      | nil => exact h
      | cons c t =>
        by_cases hc : c = '\n'
        · rw [hc, crlf_newline, List.cons_prefix_cons] at h
          obtain ⟨rfl, h⟩ := h
          cases u with
          | nil => exact absurd rfl hlast
          | cons e u =>
            rw [List.cons_prefix_cons] at h
            exact absurd (h.1 ▸ List.mem_cons_of_mem _ List.mem_cons_self) hline
        · rw [crlf_cons hc, List.cons_prefix_cons] at h
          obtain ⟨rfl, h⟩ := h
          rw [List.cons_prefix_cons]
          refine ⟨rfl, ih (fun hmem => hline (List.mem_cons_of_mem d hmem)) ?_ h⟩
          intro hreturn
          cases u with
          | nil => cases hreturn
          | cons e u => exact hlast (by rw [List.getLast?_cons_cons, hreturn])
  · rintro ⟨rest, rfl⟩
    rw [crlf_append, crlf_eq_self hline]
    exact List.prefix_append u (crlf rest)

/-! ## Scans -/

variable {α β : Type} {find : Recogniser α} {find' : Recogniser β} {f : α → β}

/-- A piece of a text with carriage returns. -/
def crlfPiece (f : α → β) : Piece α → List (Piece β)
  | .plain c => (crlf [c]).map .plain
  | .found a => [.found (f a)]

/-- Whether `find'` finds in a text with carriage returns what `find` finds in the text without them:
at the same positions segments that span the same characters, of which `f` gives the one from the
other, and none at the end of a line. -/
structure Follows (find : Recogniser α) (find' : Recogniser β) (f : α → β) : Prop where
  feed : ∀ prev t, find prev ('\n' :: t) = none
  return' : ∀ prev t, find' prev ('\r' :: '\n' :: t) = none
  feed' : ∀ t, find' (some '\r') ('\n' :: t) = none
  length : ∀ {prev t a n}, find prev t = some (a, n) → 0 < n ∧ n ≤ t.length
  found : ∀ prev {c} t, c ≠ '\n' → find' prev (crlf (c :: t)) =
    (find prev (c :: t)).map fun (a, n) => (f a, (crlf ((c :: t).take n)).length)

/-- The pieces of a text with carriage returns. -/
theorem Follows.scanFrom (h : Follows find find' f) (prev : Option Char) (t : Text) :
    scanFrom find' prev 0 (crlf t) = (scanFrom find prev 0 t).flatMap (crlfPiece f) := by
  -- on what is left to read, since a segment takes several characters at once
  induction hlength : t.length using Nat.strong_induction_on generalizing prev t with
  | _ length ih =>
    cases t with
    | nil => rfl
    | cons c t =>
      by_cases hc : c = '\n'
      · subst hc
        rw [crlf_newline, scanFrom_plain (h.return' prev _), scanFrom_plain (h.feed' _),
          scanFrom_plain (h.feed prev t), ih t.length (by simp [← hlength]) _ _ rfl]
        rfl
      · have hfound := h.found prev t hc
        cases hfind : find prev (c :: t) with
        | none =>
          rw [hfind, Option.map_none, crlf_cons hc] at hfound
          rw [crlf_cons hc, scanFrom_plain hfound, scanFrom_plain hfind,
            ih t.length (by simp [← hlength]) _ _ rfl, List.flatMap_cons, crlfPiece, crlf_cons hc]
          rfl
        | some segment =>
          obtain ⟨a, n⟩ := segment
          obtain ⟨hpos, hle⟩ := h.length hfind
          obtain ⟨u, v, hsplit, rfl⟩ : ∃ u v, c :: t = u ++ v ∧ u.length = n :=
            ⟨(c :: t).take n, (c :: t).drop n, (List.take_append_drop n _).symm,
              List.length_take_of_le hle⟩
          have hu : u ≠ [] := List.ne_nil_of_length_pos hpos
          have hv : v.length < length := by
            rw [← hlength, hsplit, List.length_append]
            exact Nat.lt_add_of_pos_left hpos
          rw [hsplit] at hfind hfound ⊢
          simp only [hfind, Option.map_some, List.take_left, crlf_append] at hfound
          rw [crlf_append, scanFrom_found (crlf_ne_nil hu) hfound, scanFrom_found hu hfind,
            lastOf_crlf, ih v.length hv _ _ rfl]
          rfl

/-- The segments of a text with carriage returns. -/
theorem Follows.segments (h : Follows find find' f) (t : Text) :
    segments find' (crlf t) = (segments find t).map f := by
  have hpiece : ∀ piece : Piece α, (crlfPiece f piece).filterMap Piece.segment? =
      (piece.segment?.map f).toList := by
    intro piece
    cases piece with
    | plain c =>
      rw [crlfPiece, List.filterMap_map]
      exact List.filterMap_eq_nil_iff.mpr fun _ _ => rfl
    | found a => rfl
  rw [Text.segments, Text.segments, scan, scan, h.scanFrom, List.filterMap_flatMap,
    List.map_filterMap, List.filterMap_eq_flatMap_toList]
  simp only [hpiece]

end Text
end WikiMarkup
