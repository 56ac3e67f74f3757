import WikiMarkup.Code.Shield
import WikiMarkup.Proofs.Code.Span
import WikiMarkup.Proofs.Text.Digit

/-!
# Laws of shielding

A text with marks is a list of pieces: characters, and the numbers of the segments that were put
aside. Putting fenced blocks aside makes such a list; putting code spans aside afterwards covers
stretches of it, marks included. Restoring reads the marks that are left, and does not look inside
what it puts back. So a text comes back exactly if no span covers a mark.
-/

namespace WikiMarkup
namespace Shield

open Text

/-! ## Texts with marks -/

/-- The text of some pieces, with a mark for each number. -/
def render (pieces : List (Piece Nat)) : Text := pieces.flatMap (Piece.text mark)

/-- The text of some pieces, with the segment that each number stands for. -/
def expand (saved : List Text) (pieces : List (Piece Nat)) : Text :=
  pieces.flatMap (Piece.text fun n => saved.getD n [])

/-- The numbers of some pieces. -/
def marks (pieces : List (Piece Nat)) : List Nat := pieces.filterMap Piece.segment?

section Pieces

variable (saved : List Text) (c : Char) (n : Nat) (pieces more : List (Piece Nat))

@[simp] theorem render_plain : render (.plain c :: pieces) = c :: render pieces := rfl

@[simp] theorem render_found : render (.found n :: pieces) = mark n ++ render pieces := rfl

@[simp] theorem render_append : render (pieces ++ more) = render pieces ++ render more :=
  List.flatMap_append

@[simp] theorem expand_plain : expand saved (.plain c :: pieces) = c :: expand saved pieces := rfl

@[simp] theorem expand_found :
    expand saved (.found n :: pieces) = saved.getD n [] ++ expand saved pieces := rfl

@[simp] theorem expand_append :
    expand saved (pieces ++ more) = expand saved pieces ++ expand saved more :=
  List.flatMap_append

@[simp] theorem marks_found : marks (.found n :: pieces) = n :: marks pieces := rfl

@[simp] theorem marks_append : marks (pieces ++ more) = marks pieces ++ marks more :=
  List.filterMap_append

end Pieces

/-- Pieces whose characters are not taken for the beginning of a mark. -/
def IsClean (pieces : List (Piece Nat)) : Prop := .plain edge ∉ pieces

/-- The segments of a scanned text with their numbers in place of them. -/
def indexed (first : Nat) : List (Piece Text) → List (Piece Nat)
  | [] => []
  | .plain c :: pieces => .plain c :: indexed first pieces
  | .found _ :: pieces => .found first :: indexed (first + 1) pieces

theorem stash_eq (first : Nat) (pieces : List (Piece Text)) :
    stash first pieces = render (indexed first pieces) := by
  induction pieces generalizing first with
  | nil => rfl
  | cons piece pieces ih =>
    cases piece with
    | plain c => rw [stash, ih]; rfl
    | found a => rw [stash, ih]; rfl

theorem marks_indexed (first : Nat) (pieces : List (Piece Text)) :
    marks (indexed first pieces) =
      List.range' first (pieces.filterMap Piece.segment?).length := by
  induction pieces generalizing first with
  | nil => rfl
  | cons piece pieces ih =>
    cases piece with
    | plain c => exact ih first
    | found a =>
      have h := ih (first + 1)
      simp only [marks] at h
      simp [marks, indexed, Piece.segment?, h, List.range'_succ]

/-- With their segments back, indexed pieces make up the text that was scanned. -/
theorem expand_indexed (saved : List Text) (pieces : List (Piece Text)) :
    expand (saved ++ pieces.filterMap Piece.segment?) (indexed saved.length pieces) =
      pieces.flatMap (Piece.text id) := by
  induction pieces generalizing saved with
  | nil => rfl
  | cons piece pieces ih =>
    cases piece with
    | plain c => exact congrArg (c :: ·) (ih saved)
    | found a =>
      have hrest := ih (saved ++ [a])
      rw [List.append_assoc, List.length_append] at hrest
      -- the segments before this one and the segment itself come before the rest
      have hown : (saved ++ a :: pieces.filterMap Piece.segment?).getD saved.length [] = a := by
        simp
      simp only [List.filterMap_cons, Piece.segment?, indexed, expand, List.flatMap_cons,
        Piece.text, hown, id_eq] at hrest ⊢
      exact congrArg (a ++ ·) hrest

/-! ## Reading marks -/

theorem mark_ne_nil (n : Nat) : mark n ≠ [] := List.cons_ne_nil _ _

theorem not_mem_mark {c : Char} (hedge : c ≠ edge) (hlabel : c ∉ label)
    (hdigit : isDigit c = false) (n : Nat) : c ∉ mark n := by
  intro h
  simp only [mark, List.cons_append, List.mem_cons, List.mem_append, List.not_mem_nil,
    or_false] at h
  rcases h with hc | (hc | hc) | hc
  · exact hedge hc
  · exact hlabel hc
  · rw [Digit.isDigit_of_mem_write hc] at hdigit
    cases hdigit
  · exact hedge hc

theorem tick_not_mem_mark (n : Nat) : Span.tick ∉ mark n :=
  not_mem_mark (by decide) (by decide) (by decide) n

/-- A mark is recognised by its digits. -/
theorem recogniseMark_mark (prev : Option Char) (n : Nat) (rest : Text) :
    recogniseMark prev (mark n ++ rest) = some (Digit.write n, (mark n).length) := by
  have hdrop : dropPrefix? (edge :: label) (mark n ++ rest) =
      some (Digit.write n ++ edge :: rest) := by
    rw [dropPrefix?_eq_some_iff]
    simp [mark]
  have hstop : ∀ c, (edge :: rest).head? = some c → Digit.isDecimal c = false := by
    intro c hc
    rw [← Option.some.inj hc]
    rfl
  obtain ⟨htake, -⟩ :=
    takeWhile_append_stop (fun c hc => Digit.isDecimal_of_mem_write (n := n) hc) hstop
  have hfull : (Digit.write n).isEmpty = false := by
    simpa using Digit.write_ne_nil n
  simp only [recogniseMark, hdrop, htake, hfull, List.drop_left, List.head?_cons, bne_self_eq_false,
    Bool.or_false, Bool.false_eq_true, if_false]
  congr 2
  simp [mark]
  omega

theorem recogniseMark_eq_none {c : Char} (h : c ≠ edge) (prev : Option Char) (rest : Text) :
    recogniseMark prev (c :: rest) = none := by
  have hdrop : dropPrefix? (edge :: label) (c :: rest) = none := by
    rw [dropPrefix?, if_neg h.symm]
  rw [recogniseMark, hdrop]

/-- A piece with the digits of its number. -/
def written : Piece Nat → Piece Text
  | .plain c => .plain c
  | .found n => .found (Digit.write n)

/-- The marks that are found in a text with marks are those that were written. -/
theorem scanFrom_render {pieces : List (Piece Nat)} (h : IsClean pieces) (prev : Option Char) :
    scanFrom recogniseMark prev 0 (render pieces) = pieces.map written := by
  induction pieces generalizing prev with
  | nil => rfl
  | cons piece pieces ih =>
    have hrest : IsClean pieces := fun hmem => h (List.mem_cons_of_mem piece hmem)
    cases piece with
    | plain c =>
      have hc : c ≠ edge := by
        rintro rfl
        exact h List.mem_cons_self
      show scanFrom recogniseMark prev 0 (c :: render pieces) = _
      rw [scanFrom_plain (recogniseMark_eq_none hc prev _), ih hrest]
      rfl
    | found n =>
      show scanFrom recogniseMark prev 0 (mark n ++ render pieces) = _
      rw [scanFrom_found (mark_ne_nil n) (recogniseMark_mark prev n _), ih hrest]
      rfl

/-! ## Restoring -/

/-- Whether a number stands for a segment and has no more digits than are converted. -/
def IsNumber (saved : List Text) (n : Nat) : Prop :=
  n < saved.length ∧ n < 10 ^ Fault.digitLimit

theorem segment_write (saved : List Text) (n : Nat) (t : Text) :
    segment saved (Digit.write n) = .ok t ↔ IsNumber saved n ∧ t = saved.getD n [] := by
  have hshort := Digit.length_write_le_iff (n := n) (k := Fault.digitLimit) (by decide)
  unfold segment IsNumber
  rw [Digit.number_write]
  split
  · rename_i hlong
    rw [← hshort]
    constructor
    · intro h
      cases h
    · intro h
      exact absurd h.1.2 (Nat.not_le.mpr hlong)
  · rename_i hlong
    have hbound := hshort.mp (Nat.not_lt.mp hlong)
    split
    · rename_i found hfound
      obtain ⟨hlt, hget⟩ := List.getElem?_eq_some_iff.mp hfound
      rw [List.getD_eq_getElem?_getD, hfound, Option.getD_some]
      constructor
      · intro h
        exact ⟨⟨hlt, hbound⟩, (Except.ok.inj h).symm⟩
      · rintro ⟨-, rfl⟩
        rfl
    · rename_i hnone
      constructor
      · intro h
        cases h
      · rintro ⟨⟨hlt, -⟩, -⟩
        exact absurd hlt (Nat.not_lt.mpr (List.getElem?_eq_none_iff.mp hnone))

/-- A result comes from the results of its parts. -/
theorem bind_eq_ok {ε α β : Type} {first : Except ε α} {next : α → Except ε β} {b : β} :
    (first >>= next) = .ok b ↔ ∃ a, first = .ok a ∧ next a = .ok b := by
  cases first with
  | error e =>
    constructor
    · intro h
      cases h
    · rintro ⟨a, h, -⟩
      cases h
  | ok a =>
    constructor
    · intro h
      exact ⟨a, rfl, h⟩
    · rintro ⟨a', h, hb⟩
      cases h
      exact hb

/-- Restoring succeeds exactly if every mark has a number that stands for a segment, and gives the
text with the segments back. -/
theorem restorePieces_eq_ok_iff {saved : List Text} {pieces : List (Piece Nat)} {t : Text} :
    restorePieces saved (pieces.map written) = .ok t ↔
      (∀ n ∈ marks pieces, IsNumber saved n) ∧ t = expand saved pieces := by
  induction pieces generalizing t with
  | nil =>
    constructor
    · intro h
      cases h
      exact ⟨fun n hn => absurd hn List.not_mem_nil, rfl⟩
    · rintro ⟨-, rfl⟩
      rfl
  | cons piece pieces ih =>
    cases piece with
    | plain c =>
      have hmarks : marks (.plain c :: pieces) = marks pieces := rfl
      rw [List.map_cons, written, restorePieces, bind_eq_ok, hmarks]
      constructor
      · rintro ⟨rest, hrest, heq⟩
        obtain ⟨hnumbers, rfl⟩ := ih.mp hrest
        exact ⟨hnumbers, (Except.ok.inj heq).symm⟩
      · rintro ⟨hnumbers, rfl⟩
        exact ⟨_, ih.mpr ⟨hnumbers, rfl⟩, rfl⟩
    | found n =>
      have hmarks : marks (.found n :: pieces) = n :: marks pieces := rfl
      rw [List.map_cons, written, restorePieces, bind_eq_ok, hmarks, List.forall_mem_cons]
      constructor
      · rintro ⟨own, hown, heq⟩
        obtain ⟨hnumber, rfl⟩ := (segment_write saved n own).mp hown
        obtain ⟨rest, hrest, heq⟩ := bind_eq_ok.mp heq
        obtain ⟨hnumbers, rfl⟩ := ih.mp hrest
        exact ⟨⟨hnumber, hnumbers⟩, (Except.ok.inj heq).symm⟩
      · rintro ⟨⟨hnumber, hnumbers⟩, rfl⟩
        refine ⟨_, (segment_write saved n _).mpr ⟨hnumber, rfl⟩, ?_⟩
        exact bind_eq_ok.mpr ⟨_, ih.mpr ⟨hnumbers, rfl⟩, rfl⟩

/-- Restoring a text with marks. -/
theorem restore_render {saved : List Text} {pieces : List (Piece Nat)} (h : IsClean pieces)
    {t : Text} : restore ⟨render pieces, saved⟩ = .ok t ↔
      (∀ n ∈ marks pieces, IsNumber saved n) ∧ t = expand saved pieces := by
  rw [restore, scan, scanFrom_render h]
  exact restorePieces_eq_ok_iff

/-! ## Covering -/

/-- Spans that are put aside cover stretches of some pieces: what they cover is kept as text, marks
included, and a new number stands in its place. The first new number is `first`. -/
inductive Covers : Nat → List Text → List (Piece Nat) → List (Piece Nat) → Prop where
  | nil {first : Nat} : Covers first [] [] []
  | keep {first : Nat} {spans : List Text} {pieces left : List (Piece Nat)} (piece : Piece Nat) :
      Covers first spans pieces left → Covers first spans (piece :: pieces) (piece :: left)
  | cover {first : Nat} {spans : List Text} {pieces left : List (Piece Nat)}
      (covered : List (Piece Nat)) : Covers (first + 1) spans pieces left →
      Covers first (render covered :: spans) (covered ++ pieces) (.found first :: left)

/-- A text with marks that is cut behind a backtick is cut between two pieces. -/
theorem exists_cut {pieces : List (Piece Nat)} {front back : Text}
    (h : render pieces = front ++ Span.tick :: back) :
    ∃ covered rest, pieces = covered ++ rest ∧ render covered = front ++ [Span.tick] ∧
      render rest = back := by
  induction pieces generalizing front with
  | nil => simp [render] at h
  | cons piece pieces ih =>
    cases piece with
    | plain c =>
      have h' : c :: render pieces = front ++ Span.tick :: back := h
      cases front with
      | nil =>
        obtain ⟨rfl, hback⟩ := List.cons.inj h'
        exact ⟨[.plain Span.tick], pieces, rfl, rfl, hback⟩
      | cons d front =>
        obtain ⟨rfl, hfront⟩ := List.cons.inj h'
        obtain ⟨covered, rest, rfl, hcovered, hrest⟩ := ih hfront
        exact ⟨.plain c :: covered, rest, rfl, congrArg (c :: ·) hcovered, hrest⟩
    | found n =>
      have h' : mark n ++ render pieces = front ++ Span.tick :: back := h
      -- a mark has no backtick, so the cut is at its end at the earliest
      rcases List.append_eq_append_iff.mp h' with ⟨front', rfl, hfront⟩ | ⟨front', hmark, hback⟩
      · obtain ⟨covered, rest, rfl, hcovered, hrest⟩ := ih hfront
        refine ⟨.found n :: covered, rest, rfl, ?_, hrest⟩
        show mark n ++ render covered = _
        rw [hcovered, List.append_assoc]
      · cases front' with
        | nil =>
          have hnext : render pieces = [] ++ Span.tick :: back := hback.symm
          obtain ⟨covered, rest, rfl, hcovered, hrest⟩ := ih hnext
          refine ⟨.found n :: covered, rest, rfl, ?_, hrest⟩
          show mark n ++ render covered = _
          rw [hcovered, hmark, List.append_nil]
          rfl
        | cons c front' =>
          obtain ⟨rfl, -⟩ := List.cons.inj hback
          refine absurd ?_ (tick_not_mem_mark n)
          rw [hmark]
          exact List.mem_append_right front List.mem_cons_self

/-- A span in a text with marks covers some of its pieces. -/
theorem exists_covered {pieces : List (Piece Nat)} {prev : Option Char} {span : Text} {n : Nat}
    (h : Span.recognise prev (render pieces) = some (span, n)) :
    n = span.length ∧ span ≠ [] ∧
      ∃ covered rest, pieces = covered ++ rest ∧ render covered = span := by
  obtain ⟨hn, size, inside, rest, hpos, hspan, htext⟩ := Span.recognise_eq_some h
  obtain ⟨size, rfl⟩ : ∃ k, size = k + 1 := ⟨size - 1, by omega⟩
  have hlast : span = (List.replicate (size + 1) Span.tick ++ inside ++
      List.replicate size Span.tick) ++ [Span.tick] := by
    rw [hspan, List.append_assoc _ _ [Span.tick], ← List.replicate_succ']
  rw [hlast, List.append_assoc, List.singleton_append] at htext
  obtain ⟨covered, left, hpieces, hcovered, -⟩ := exists_cut htext
  refine ⟨hn, ?_, covered, left, hpieces, ?_⟩
  · rw [hlast]
    exact List.append_ne_nil_of_right_ne_nil _ (List.cons_ne_nil _ _)
  · rw [hcovered, hlast]

theorem stash_plains (first : Nat) (t : Text) (pieces : List (Piece Text)) :
    stash first (t.map Piece.plain ++ pieces) = t ++ stash first pieces := by
  induction t with
  | nil => rfl
  | cons c t ih => exact congrArg (c :: ·) ih

theorem segments_plains (t : Text) (pieces : List (Piece Text)) :
    (t.map Piece.plain ++ pieces).filterMap Piece.segment? = pieces.filterMap Piece.segment? := by
  induction t with
  | nil => rfl
  | cons c t ih => exact ih

/-- No span begins inside a mark. -/
theorem recognise_mem_mark (n : Nat) (prev : Option Char) :
    ∀ c ∈ mark n, ∀ rest, Span.recognise prev (c :: rest) = none := by
  intro c hc rest
  apply Span.recognise_eq_none
  rintro rfl
  exact tick_not_mem_mark n hc

/-- Putting the spans of a text with marks aside covers stretches of its pieces. -/
theorem covers_scanFrom (pieces : List (Piece Nat)) (prev : Option Char) (first : Nat) :
    ∃ left, stash first (scanFrom Span.recognise prev 0 (render pieces)) = render left ∧
      Covers first ((scanFrom Span.recognise prev 0 (render pieces)).filterMap Piece.segment?)
        pieces left := by
  -- a span takes a stretch of pieces at once, so the induction is on their number
  induction hlength : pieces.length using Nat.strong_induction_on
    generalizing pieces prev first with
  | _ length ih =>
    subst hlength
    cases hfound : Span.recognise prev (render pieces) with
    | some found =>
      obtain ⟨span, n⟩ := found
      obtain ⟨rfl, hne, covered, rest, rfl, rfl⟩ := exists_covered hfound
      have hshorter : rest.length < (covered ++ rest).length := by
        have hpos : 0 < covered.length := by
          apply List.length_pos_of_ne_nil
          rintro rfl
          exact hne rfl
        rw [List.length_append]
        omega
      rw [render_append] at hfound ⊢
      obtain ⟨left, hleft, hcovers⟩ :=
        ih _ hshorter rest (lastOf prev (render covered)) (first + 1) rfl
      rw [scanFrom_found hne hfound]
      exact ⟨.found first :: left, congrArg (mark first ++ ·) hleft, hcovers.cover covered⟩
    | none =>
      cases pieces with
      | nil => exact ⟨[], rfl, .nil⟩
      | cons piece pieces =>
        have hshorter : pieces.length < (piece :: pieces).length := Nat.lt_succ_self _
        cases piece with
        | plain c =>
          obtain ⟨left, hleft, hcovers⟩ := ih _ hshorter pieces (some c) first rfl
          rw [render_plain] at hfound ⊢
          rw [scanFrom_plain hfound]
          exact ⟨.plain c :: left, congrArg (c :: ·) hleft, hcovers.keep _⟩
        | found n =>
          obtain ⟨left, hleft, hcovers⟩ := ih _ hshorter pieces (lastOf prev (mark n)) first rfl
          rw [render_found, scanFrom_plains (recognise_mem_mark n), stash_plains, segments_plains]
          exact ⟨.found n :: left, congrArg (mark n ++ ·) hleft, hcovers.keep _⟩

/-! ## What is covered -/

section Covers

variable {first : Nat} {spans : List Text} {pieces left : List (Piece Nat)}

/-- Covering leaves no character that was not there. -/
theorem Covers.isClean (h : Covers first spans pieces left) (hclean : IsClean pieces) :
    IsClean left := by
  induction h with
  | nil => exact hclean
  | keep piece _ ih =>
    intro hmem
    rcases List.mem_cons.mp hmem with rfl | hmem
    · exact hclean List.mem_cons_self
    · exact ih (fun hold => hclean (List.mem_cons_of_mem piece hold)) hmem
  | cover covered _ ih =>
    intro hmem
    rcases List.mem_cons.mp hmem with heq | hmem
    · cases heq
    · exact ih (fun hold => hclean (List.mem_append_right covered hold)) hmem

/-- Every span has its mark. -/
theorem Covers.span_mem_marks (h : Covers first spans pieces left) {i : Nat}
    (hi : i < spans.length) : first + i ∈ marks left := by
  induction h generalizing i with
  | nil => exact absurd hi (Nat.not_lt_zero i)
  | keep piece _ ih =>
    have hmem := ih hi
    cases piece with
    | plain c => exact hmem
    | found n => exact List.mem_cons_of_mem n hmem
  | cover covered _ ih =>
    rw [marks_found]
    cases i with
    | zero => exact List.mem_cons_self
    | succ i =>
      have hmem := ih (Nat.lt_of_succ_lt_succ hi)
      rw [Nat.add_assoc, Nat.add_comm 1 i] at hmem
      exact List.mem_cons_of_mem _ hmem

/-- A mark that is covered shows in the text that covers it. -/
theorem edge_mem_render {n : Nat} (h : n ∈ marks pieces) : edge ∈ render pieces := by
  induction pieces with
  | nil => cases h
  | cons piece pieces ih =>
    cases piece with
    | plain c => exact List.mem_cons_of_mem c (ih h)
    | found m => exact List.mem_append_left _ List.mem_cons_self

/-- A mark is left as it is or covered by a span, which shows it. -/
theorem Covers.kept_or_covered (h : Covers first spans pieces left) {n : Nat}
    (hn : n ∈ marks pieces) : n ∈ marks left ∨ ∃ span ∈ spans, edge ∈ span := by
  induction h with
  | nil => exact Or.inl hn
  | keep piece _ ih =>
    cases piece with
    | plain c => exact ih hn
    | found m =>
      rw [marks_found] at hn ⊢
      rcases List.mem_cons.mp hn with rfl | hn
      · exact Or.inl List.mem_cons_self
      · exact (ih hn).imp_left (List.mem_cons_of_mem m)
  | cover covered _ ih =>
    rw [marks_append] at hn
    rcases List.mem_append.mp hn with hn | hn
    · exact Or.inr ⟨_, List.mem_cons_self, edge_mem_render hn⟩
    · rcases ih hn with hleft | ⟨span, hspan, hedge⟩
      · exact Or.inl (List.mem_cons_of_mem _ hleft)
      · exact Or.inr ⟨span, List.mem_cons_of_mem _ hspan, hedge⟩

/-- The marks that are left are old ones, and one for each span. -/
theorem Covers.old_or_new (h : Covers first spans pieces left) {n : Nat} (hn : n ∈ marks left) :
    n ∈ marks pieces ∨ n < first + spans.length := by
  induction h with
  | nil => exact Or.inl hn
  | keep piece _ ih =>
    cases piece with
    | plain c => exact ih hn
    | found m =>
      rw [marks_found] at hn ⊢
      rcases List.mem_cons.mp hn with rfl | hn
      · exact Or.inl List.mem_cons_self
      · exact (ih hn).imp_left (List.mem_cons_of_mem m)
  | cover covered _ ih =>
    rw [marks_found] at hn
    rw [List.length_cons]
    rcases List.mem_cons.mp hn with rfl | hn
    · right
      omega
    · rcases ih hn with hold | hnew
      · rw [marks_append]
        exact Or.inl (List.mem_append_right _ hold)
      · right
        omega

/-- Pieces that show no mark are the characters of their text. -/
theorem expand_eq_render (saved : List Text) (h : edge ∉ render pieces) :
    expand saved pieces = render pieces := by
  induction pieces with
  | nil => rfl
  | cons piece pieces ih =>
    cases piece with
    | plain c =>
      rw [render_plain, expand_plain, ih]
      exact fun hmem => h (List.mem_cons_of_mem c hmem)
    | found n => exact absurd (List.mem_append_left _ List.mem_cons_self) h

/-- Where no span covers a mark, the segments of all marks make up what there was. -/
theorem Covers.expand_eq (h : Covers first spans pieces left) {old all : List Text}
    (hold : ∀ n ∈ marks pieces, all.getD n [] = old.getD n [])
    (hnew : ∀ i, i < spans.length → all.getD (first + i) [] = spans.getD i [])
    (hspans : ∀ span ∈ spans, edge ∉ span) : expand all left = expand old pieces := by
  induction h with
  | nil => rfl
  | keep piece _ ih =>
    cases piece with
    | plain c => rw [expand_plain, expand_plain, ih hold hnew hspans]
    | found n =>
      rw [marks_found, List.forall_mem_cons] at hold
      rw [expand_found, expand_found, hold.1, ih hold.2 hnew hspans]
  | @cover first spans pieces left covered _ ih =>
    -- the stretch shows no mark, so it stands for itself
    have hown : all.getD first [] = render covered := hnew 0 (Nat.succ_pos _)
    have hrest : ∀ i, i < spans.length → all.getD (first + 1 + i) [] = spans.getD i [] := by
      intro i hi
      have h := hnew (i + 1) (Nat.succ_lt_succ hi)
      rwa [List.getD_cons_succ, Nat.add_comm i 1, ← Nat.add_assoc] at h
    rw [List.forall_mem_cons] at hspans
    rw [marks_append] at hold
    rw [expand_found, expand_append, hown, expand_eq_render old hspans.1,
      ih (fun n hn => hold n (List.mem_append_right _ hn)) hrest hspans.2]

end Covers

/-! ## Restoring what was put aside -/

theorem fence_span (prev : Option Char) (t block : Text) (n : Nat)
    (h : Fence.recognise prev t = some (block, n)) : id block = t.take n := by
  unfold Fence.recognise at h
  split at h
  · obtain ⟨fence, -, heq⟩ := Option.map_eq_some_iff.mp h
    cases heq
    rfl
  · cases h

theorem plain_mem_of_mem_indexed {first : Nat} {pieces : List (Piece Text)} {c : Char}
    (h : .plain c ∈ indexed first pieces) : .plain c ∈ pieces := by
  induction pieces generalizing first with
  | nil => cases h
  | cons piece pieces ih =>
    cases piece with
    | plain d =>
      rcases List.mem_cons.mp h with heq | h
      · rw [Piece.plain.inj heq]
        exact List.mem_cons_self
      · exact List.mem_cons_of_mem _ (ih h)
    | found a =>
      rcases List.mem_cons.mp h with heq | h
      · cases heq
      · exact List.mem_cons_of_mem _ (ih h)

/-- How a text with its code put aside comes about: the text is made of pieces with one number for
each fenced block, and the code spans cover stretches of these. -/
structure IsProtected (t : Text) (blocks spans : List Text) (pieces left : List (Piece Nat)) :
    Prop where
  result : protect t = ⟨render left, blocks ++ spans⟩
  covers : Covers blocks.length spans pieces left
  marks : marks pieces = List.range blocks.length
  expand : expand blocks pieces = t
  clean : edge ∉ t → IsClean left

theorem isProtected_protect (t : Text) : ∃ blocks spans pieces left,
    IsProtected t blocks spans pieces left := by
  let found := scan Fence.recognise t
  let pieces := indexed 0 found
  have hflat : found.flatMap (Piece.text id) = t := scan_flatten Fence.recognise id fence_span t
  obtain ⟨left, hleft, hcovers⟩ :=
    covers_scanFrom pieces none (found.filterMap Piece.segment?).length
  refine ⟨found.filterMap Piece.segment?, _, pieces, left, ?_, hcovers, ?_, ?_, ?_⟩
  · have hblocks : putAside Fence.recognise ⟨t, []⟩ =
        ⟨render pieces, found.filterMap Piece.segment?⟩ := by
      rw [← stash_eq]
      rfl
    rw [protect, hblocks, ← hleft]
    rfl
  · rw [marks_indexed, List.range_eq_range']
  · have hexpand := expand_indexed [] found
    rw [hflat] at hexpand
    exact hexpand
  · intro h
    apply hcovers.isClean
    intro hmem
    apply h
    rw [← hflat]
    exact List.mem_flatMap.mpr ⟨_, plain_mem_of_mem_indexed hmem, List.mem_singleton_self edge⟩

theorem mem_expand {saved : List Text} {pieces : List (Piece Nat)} {n : Nat} {c : Char}
    (hn : n ∈ marks pieces) (hc : c ∈ saved.getD n []) : c ∈ expand saved pieces := by
  obtain ⟨piece, hpiece, hsegment⟩ := List.mem_filterMap.mp hn
  cases piece with
  | plain d => cases hsegment
  | found m =>
    cases hsegment
    exact List.mem_flatMap.mpr ⟨_, hpiece, hc⟩

section IsProtected

variable {t : Text} {blocks spans : List Text} {pieces left : List (Piece Nat)}

theorem IsProtected.block_mem_marks (h : IsProtected t blocks spans pieces left) {n : Nat}
    (hn : n < blocks.length) : n ∈ Shield.marks pieces := by
  rw [h.marks]
  exact List.mem_range.mpr hn

/-- Every mark that is left stands for a segment. -/
theorem IsProtected.lt_length (h : IsProtected t blocks spans pieces left) {n : Nat}
    (hn : n ∈ Shield.marks left) : n < (blocks ++ spans).length := by
  rw [List.length_append]
  rcases h.covers.old_or_new hn with hold | hnew
  · rw [h.marks] at hold
    exact Nat.lt_add_right _ (List.mem_range.mp hold)
  · exact hnew

/-- Where no segment shows a mark, every segment has its mark. -/
theorem IsProtected.mem_marks (h : IsProtected t blocks spans pieces left)
    (hsegments : ∀ s ∈ blocks ++ spans, edge ∉ s) {n : Nat} (hn : n < (blocks ++ spans).length) :
    n ∈ Shield.marks left := by
  by_cases hold : n < blocks.length
  · rcases h.covers.kept_or_covered (h.block_mem_marks hold) with hkept | ⟨span, hspan, hedge⟩
    · exact hkept
    · exact absurd hedge (hsegments span (List.mem_append_right blocks hspan))
  · obtain ⟨i, rfl⟩ := Nat.exists_eq_add_of_le (Nat.not_lt.mp hold)
    rw [List.length_append] at hn
    exact h.covers.span_mem_marks (Nat.lt_of_add_lt_add_left hn)

/-- Where no segment shows a mark, the segments of all marks make up the text. -/
theorem IsProtected.expand_left (h : IsProtected t blocks spans pieces left)
    (hsegments : ∀ s ∈ blocks ++ spans, edge ∉ s) : Shield.expand (blocks ++ spans) left = t := by
  have hold : ∀ n ∈ Shield.marks pieces, (blocks ++ spans).getD n [] = blocks.getD n [] := by
    intro n hn
    rw [h.marks] at hn
    exact List.getD_append _ _ _ _ (List.mem_range.mp hn)
  have hnew : ∀ i, i < spans.length →
      (blocks ++ spans).getD (blocks.length + i) [] = spans.getD i [] := by
    intro i _
    rw [List.getD_append_right _ _ _ _ (Nat.le_add_right _ i), Nat.add_sub_cancel_left]
  have hspans : ∀ span ∈ spans, edge ∉ span := fun span hspan =>
    hsegments span (List.mem_append_right blocks hspan)
  rw [h.covers.expand_eq hold hnew hspans, h.expand]

/-- If the segments of all marks make up a text without the sign of marks, no segment shows one. -/
theorem IsProtected.edge_not_mem (h : IsProtected t blocks spans pieces left) (hedge : edge ∉ t)
    (htext : t = Shield.expand (blocks ++ spans) left) : ∀ s ∈ blocks ++ spans, edge ∉ s := by
  intro s hs hmem
  apply hedge
  rcases List.mem_append.mp hs with hs | hs
  · obtain ⟨n, hn, rfl⟩ := List.getElem_of_mem hs
    rw [← h.expand]
    exact mem_expand (h.block_mem_marks hn) (by simpa [hn] using hmem)
  · obtain ⟨i, hi, rfl⟩ := List.getElem_of_mem hs
    rw [htext]
    exact mem_expand (h.covers.span_mem_marks hi) (by simpa [hi] using hmem)

end IsProtected

/-- Code that was put aside comes back exactly if no segment shows a mark, which happens when a code
span goes over a fenced block, and the numbers of the segments are not longer than a number may
be. -/
theorem restore_protect_iff {t : Text} (h : edge ∉ t) :
    restore (protect t) = .ok t ↔
      (∀ s ∈ (protect t).saved, edge ∉ s) ∧
        (protect t).saved.length ≤ 10 ^ Fault.digitLimit := by
  obtain ⟨blocks, spans, pieces, left, hprotected⟩ := isProtected_protect t
  rw [hprotected.result, restore_render (hprotected.clean h)]
  constructor
  · rintro ⟨hnumbers, htext⟩
    have hsegments := hprotected.edge_not_mem h htext
    refine ⟨hsegments, Nat.not_lt.mp fun hlong => ?_⟩
    -- the first number that is too long would be the number of a mark
    have hnumber := hnumbers _ (hprotected.mem_marks hsegments hlong)
    exact absurd hnumber.2 (Nat.lt_irrefl _)
  · rintro ⟨hsegments, hlength⟩
    constructor
    · intro n hn
      have hlt := hprotected.lt_length hn
      exact ⟨hlt, Nat.lt_of_lt_of_le hlt hlength⟩
    · exact (hprotected.expand_left hsegments).symm

/-- A fenced block and a code span next to each other come back. -/
theorem restore_protect_apart :
    let t := "\x60a\x60\n~~~\nb\n~~~\n".toList
    edge ∉ t ∧ restore (protect t) = .ok t := by
  intro t
  have hedge : edge ∉ t := by decide
  have hsaved : (protect t).saved = ["~~~\nb\n~~~".toList, "\x60a\x60".toList] := by
    decide
  refine ⟨hedge, (restore_protect_iff hedge).mpr ?_⟩
  rw [hsaved]
  refine ⟨by decide, ?_⟩
  calc 2 ≤ 10 ^ 1 := by decide
    _ ≤ 10 ^ Fault.digitLimit := Nat.pow_le_pow_right (by decide) (by decide)

/-- A fenced block between two backticks is covered by the span that they make, and its mark stays
where it was. -/
theorem restore_protect_covered :
    let t := "\x60a\n\x60\x60\x60\nx\n\x60\x60\x60\nb\x60".toList
    edge ∉ t ∧ restore (protect t) = .ok "\x60a\n\x00CODE0\x00\nb\x60".toList ∧
      restore (protect t) ≠ .ok t := by
  intro t
  have hresult : restore (protect t) = .ok "\x60a\n\x00CODE0\x00\nb\x60".toList := by
    decide
  refine ⟨by decide, hresult, ?_⟩
  rw [hresult]
  decide

end Shield
end WikiMarkup
