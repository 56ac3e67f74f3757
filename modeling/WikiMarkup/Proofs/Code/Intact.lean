import WikiMarkup.Proofs.Code.Shield
import WikiMarkup.Proofs.Text.Scan

/-!
# Texts with whole marks

A text with code put aside may be cut, put together again and rewritten before the code is put back.
As long as no cut goes through a mark, and nothing that is rewritten belongs to one, the marks of the
result are marks of the text, and so there is a segment for each. A cut goes through no mark if a
character at the cut is none of those that marks are made of.
-/

namespace WikiMarkup
namespace Shield

open Text

/-! ## Whole marks -/

/-- A character that marks are made of. -/
def isMarkChar (c : Char) : Bool := c == edge || label.contains c || isDigit c

/-- A text whose marks are whole, with numbers below `count`: the character that marks begin and end
with stands nowhere else. -/
inductive IsIntact (count : Nat) : Text → Prop where
  | nil : IsIntact count []
  | plain {c : Char} {t : Text} (hc : c ≠ edge) (h : IsIntact count t) : IsIntact count (c :: t)
  | mark {n : Nat} {t : Text} (hn : n < count) (h : IsIntact count t) :
      IsIntact count (mark n ++ t)

theorem isMarkChar_of_mem_mark {c : Char} {n : Nat} (h : c ∈ mark n) : isMarkChar c = true := by
  by_contra hnot
  simp only [isMarkChar, Bool.not_eq_true, Bool.or_eq_false_iff, beq_eq_false_iff_ne,
    List.contains_eq_mem, decide_eq_false_iff_not] at hnot
  exact not_mem_mark hnot.1.1 hnot.1.2 hnot.2 n h

theorem ne_edge_of_not_isMarkChar {c : Char} (h : isMarkChar c = false) : c ≠ edge := by
  rintro rfl
  cases h

/-- A character of a kind that neither the signs and letters of marks are of, nor digits, is none of
marks. -/
theorem not_isMarkChar {p : Char → Bool} (hedge : p edge = false)
    (hlabel : (label.all fun c => !p c) = true) (hdigit : ∀ c, isDigit c = true → p c = false)
    {c : Char} (h : p c = true) : isMarkChar c = false := by
  by_contra hmark
  simp only [isMarkChar, Bool.not_eq_false, Bool.or_eq_true, beq_iff_eq] at hmark
  rcases hmark with (rfl | hmem) | hnumber
  · rw [hedge] at h
    cases h
  · have hnot := List.all_eq_true.mp hlabel c (List.contains_iff_mem.mp hmem)
    rw [h] at hnot
    cases hnot
  · rw [hdigit c hnumber] at h
    cases h

variable {count : Nat} {t a b : Text}

theorem isIntact_of_not_mem (h : edge ∉ t) : IsIntact count t := by
  induction t with
  | nil => exact .nil
  | cons c t ih =>
    rw [List.mem_cons, not_or] at h
    exact .plain (Ne.symm h.1) (ih h.2)

theorem IsIntact.append (ha : IsIntact count a) (hb : IsIntact count b) :
    IsIntact count (a ++ b) := by
  induction ha with
  | nil => exact hb
  | plain hc _ ih => exact .plain hc ih
  | mark hn _ ih =>
    rw [List.append_assoc]
    exact .mark hn ih

/-- The texts with whole marks are those of pieces with such numbers. -/
theorem isIntact_iff : IsIntact count t ↔
    ∃ pieces, t = render pieces ∧ IsClean pieces ∧ ∀ n ∈ marks pieces, n < count := by
  constructor
  · intro h
    induction h with
    | nil => exact ⟨[], rfl, List.not_mem_nil, nofun⟩
    | @plain c t hc _ ih =>
      obtain ⟨pieces, rfl, hclean, hnumbers⟩ := ih
      refine ⟨.plain c :: pieces, rfl, ?_, hnumbers⟩
      rw [IsClean, List.mem_cons, not_or]
      exact ⟨fun heq => hc (Piece.plain.inj heq).symm, hclean⟩
    | @mark n t hn _ ih =>
      obtain ⟨pieces, rfl, hclean, hnumbers⟩ := ih
      refine ⟨.found n :: pieces, rfl, ?_, ?_⟩
      · rw [IsClean, List.mem_cons, not_or]
        exact ⟨nofun, hclean⟩
      · rw [marks_found, List.forall_mem_cons]
        exact ⟨hn, hnumbers⟩
  · rintro ⟨pieces, rfl, hclean, hnumbers⟩
    induction pieces with
    | nil => exact .nil
    | cons piece pieces ih =>
      have hrest : IsClean pieces := fun hmem => hclean (List.mem_cons_of_mem piece hmem)
      cases piece with
      | plain c =>
        refine .plain ?_ (ih hrest hnumbers)
        rintro rfl
        exact hclean List.mem_cons_self
      | found n =>
        rw [marks_found, List.forall_mem_cons] at hnumbers
        exact .mark hnumbers.1 (ih hrest hnumbers.2)

/-! ## Cutting -/

/-- A cut in front of a character that is none of marks goes through no mark. -/
theorem IsIntact.cut (h : IsIntact count (a ++ b))
    (hb : ∀ c, b.head? = some c → isMarkChar c = false) : IsIntact count a ∧ IsIntact count b := by
  generalize htext : a ++ b = t at h
  induction h generalizing a with
  | nil =>
    obtain ⟨rfl, rfl⟩ := List.append_eq_nil_iff.mp htext
    exact ⟨.nil, .nil⟩
  | @plain c t hc h ih =>
    cases a with
    | nil =>
      rw [List.nil_append] at htext
      subst htext
      exact ⟨.nil, .plain hc h⟩
    | cons d a =>
      obtain ⟨rfl, htail⟩ := List.cons.inj htext
      obtain ⟨ha, hb⟩ := ih htail
      exact ⟨.plain hc ha, hb⟩
  | @mark n t hn h ih =>
    rcases List.append_eq_append_iff.mp htext with ⟨u, hmark, rfl⟩ | ⟨u, rfl, htail⟩
    · cases u with
      | nil =>
        rw [List.append_nil] at hmark
        rw [← hmark, ← List.append_nil (Shield.mark n)]
        exact ⟨.mark hn .nil, h⟩
      | cons c u =>
        -- the cut would be in front of a character of the mark
        have hmem : c ∈ Shield.mark n := hmark ▸ List.mem_append_right a List.mem_cons_self
        have hnot := hb c rfl
        rw [isMarkChar_of_mem_mark hmem] at hnot
        cases hnot
    · obtain ⟨hu, hb⟩ := ih htail.symm
      exact ⟨.mark hn hu, hb⟩

/-- A character that is none of marks can be taken off. -/
theorem IsIntact.tail {c : Char} (h : IsIntact count (c :: t)) (hc : c ≠ edge) :
    IsIntact count t := by
  generalize htext : c :: t = u at h
  cases h with
  | nil => cases htext
  | plain _ h =>
    obtain ⟨-, rfl⟩ := List.cons.inj htext
    exact h
  | mark hn h => exact absurd (List.cons.inj htext).1 hc

/-- A cut behind a character that is none of marks goes through no mark. -/
theorem IsIntact.cut_cons {c : Char} (h : IsIntact count (a ++ c :: b)) (hc : isMarkChar c = false) :
    IsIntact count a ∧ IsIntact count b := by
  obtain ⟨ha, hb⟩ := h.cut fun d hd => by rwa [← Option.some.inj hd]
  exact ⟨ha, hb.tail (ne_edge_of_not_isMarkChar hc)⟩

/-- Characters that are none of marks can be taken off at the beginning. -/
theorem IsIntact.of_append_right (h : IsIntact count (a ++ b))
    (ha : ∀ c ∈ a, isMarkChar c = false) : IsIntact count b := by
  induction a with
  | nil => exact h
  | cons c a ih =>
    rw [List.forall_mem_cons] at ha
    exact ih (h.tail (ne_edge_of_not_isMarkChar ha.1)) ha.2

theorem IsIntact.of_append_left (h : IsIntact count (a ++ b))
    (hb : ∀ c ∈ b, isMarkChar c = false) : IsIntact count a :=
  (h.cut fun c hc => hb c (List.mem_of_head? hc)).1

theorem IsIntact.trimEnd {p : Char → Bool} (hp : ∀ c, p c = true → isMarkChar c = false)
    (h : IsIntact count t) : IsIntact count (trimEnd p t) := by
  rw [← List.rdropWhile_append_rtakeWhile (p := p) (l := t)] at h
  exact h.of_append_left fun c hc => hp c (List.mem_rtakeWhile_imp hc)

theorem IsIntact.trimBy {p : Char → Bool} (hp : ∀ c, p c = true → isMarkChar c = false)
    (h : IsIntact count t) : IsIntact count (trimBy p t) := by
  obtain ⟨front, back, heq, hfront, hback⟩ := exists_eq_append_trimBy p t
  rw [heq] at h
  have hleft := h.of_append_left fun c hc => hp c (hback c hc)
  exact hleft.of_append_right fun c hc => hp c (hfront c hc)

theorem not_isMarkChar_of_isBlank {c : Char} (h : isBlank c = true) : isMarkChar c = false := by
  refine not_isMarkChar (p := isBlank) rfl rfl (fun d hd => ?_) h
  have hcode := isDigit_iff.mp hd
  by_contra hblank
  simp only [isBlank, Bool.not_eq_false, Bool.or_eq_true, Bool.and_eq_true, decide_eq_true_eq,
    beq_iff_eq] at hblank
  omega

theorem not_isMarkChar_of_isLowerLetter {c : Char} (h : isLowerLetter c = true) :
    isMarkChar c = false := by
  refine not_isMarkChar (p := isLowerLetter) rfl rfl (fun d hd => ?_) h
  have hcode := isDigit_iff.mp hd
  rw [Bool.eq_false_iff, ne_eq, isLowerLetter_iff]
  omega

theorem IsIntact.trim (h : IsIntact count t) : IsIntact count (trim t) :=
  h.trimBy fun _ => not_isMarkChar_of_isBlank

theorem IsIntact.before {c : Char} (hc : isMarkChar c = false) (h : IsIntact count t) :
    IsIntact count (before c t) := by
  rw [← before_append_after? c t] at h
  cases hafter : after? c t with
  | none =>
    rw [hafter] at h
    exact h.of_append_left nofun
  | some rest =>
    rw [hafter] at h
    exact (h.cut_cons hc).1

theorem IsIntact.after {c : Char} (hc : isMarkChar c = false) (h : IsIntact count t) :
    IsIntact count ((after? c t).getD []) := by
  rw [← before_append_after? c t] at h
  cases hafter : after? c t with
  | none => exact .nil
  | some rest =>
    rw [hafter] at h
    exact (h.cut_cons hc).2

/-! ## Rewriting -/

/-- A text keeps its marks whole if each of its characters is rewritten, those of marks are left as
they are, and no other becomes one that marks begin with. -/
theorem IsIntact.flatMap {f : Char → Text} (hkeeps : ∀ c, isMarkChar c = true → f c = [c])
    (hplain : ∀ c, isMarkChar c = false → edge ∉ f c) (h : IsIntact count t) :
    IsIntact count (t.flatMap f) := by
  induction h with
  | nil => exact .nil
  | @plain c t hc _ ih =>
    rw [List.flatMap_cons]
    cases hchar : isMarkChar c with
    | true =>
      rw [hkeeps c hchar]
      exact .plain hc ih
    | false => exact (isIntact_of_not_mem (hplain c hchar)).append ih
  | @mark n t hn _ ih =>
    have hmark : (Shield.mark n).flatMap f = Shield.mark n := by
      rw [List.flatMap_congr fun c hc => hkeeps c (isMarkChar_of_mem_mark hc)]
      exact List.flatMap_singleton' _
    rw [List.flatMap_append, hmark]
    exact .mark hn ih

/-- A character that is none of marks can be written as another. -/
theorem IsIntact.exchange {old new : Char} (hold : isMarkChar old = false) (hnew : new ≠ edge)
    (h : IsIntact count t) : IsIntact count (t.map fun c => if c == old then new else c) := by
  rw [List.map_eq_flatMap]
  refine h.flatMap (fun c hc => ?_) fun c hc => ?_
  · rw [if_neg]
    intro heq
    rw [beq_iff_eq.mp heq, hold] at hc
    cases hc
  · rw [List.mem_singleton]
    split
    · exact hnew.symm
    · exact (ne_edge_of_not_isMarkChar hc).symm

/-! ## Scanning -/

variable {α : Type} {find : Recogniser α}

/-- Whether a recogniser goes past marks: it finds nothing that begins inside of one, and what it finds
does not end inside of one. -/
structure SparesMarks (find : Recogniser α) : Prop where
  start : ∀ {prev c rest}, isMarkChar c = true → find prev (c :: rest) = none
  stop : ∀ {prev t a n}, find prev t = some (a, n) →
    ∃ u c, u ++ [c] <+: t ∧ n = (u ++ [c]).length ∧ isMarkChar c = false

/-- The pieces of a text with whole marks: characters, whole marks, and segments with whole marks. -/
inductive AreIntact (find : Recogniser α) (count : Nat) : List (Piece α) → Prop where
  | nil : AreIntact find count []
  | plain {c : Char} {pieces : List (Piece α)} (hc : c ≠ edge) (h : AreIntact find count pieces) :
      AreIntact find count (.plain c :: pieces)
  | mark {n : Nat} {pieces : List (Piece α)} (hn : n < count) (h : AreIntact find count pieces) :
      AreIntact find count ((mark n).map .plain ++ pieces)
  | found {prev : Option Char} {t : Text} {a : α} {n : Nat} {pieces : List (Piece α)}
      (hfind : find prev t = some (a, n)) (hsegment : IsIntact count (t.take n))
      (h : AreIntact find count pieces) : AreIntact find count (.found a :: pieces)

/-- A scan that goes past marks cuts through none. -/
theorem IsIntact.scanFrom (hfind : SparesMarks find) (h : IsIntact count t) (prev : Option Char) :
    AreIntact find count (scanFrom find prev 0 t) := by
  -- a segment takes many characters at once, so the induction is on the length
  induction hlength : t.length using Nat.strong_induction_on generalizing t prev with
  | _ length ih =>
    subst hlength
    cases hfound : find prev t with
    | some found =>
      obtain ⟨a, n⟩ := found
      obtain ⟨u, c, ⟨rest, rfl⟩, rfl, hc⟩ := hfind.stop hfound
      have hcut := h
      rw [List.append_assoc, List.singleton_append] at hcut
      obtain ⟨hu, hrest⟩ := hcut.cut_cons hc
      have hsegment : IsIntact count ((u ++ [c] ++ rest).take (u ++ [c]).length) := by
        rw [List.take_left]
        exact hu.append (.plain (ne_edge_of_not_isMarkChar hc) .nil)
      rw [scanFrom_found (List.append_ne_nil_of_right_ne_nil u (List.cons_ne_nil c [])) hfound]
      refine .found hfound hsegment (ih _ ?_ hrest _ rfl)
      rw [List.length_append, List.length_append, List.length_singleton]
      omega
    | none =>
      cases h with
      | nil => exact .nil
      | @plain c t hc h =>
        rw [scanFrom_plain hfound]
        exact .plain hc (ih _ (Nat.lt_succ_self _) h _ rfl)
      | @mark n t hn h =>
        rw [scanFrom_plains fun prev c hc rest => hfind.start (isMarkChar_of_mem_mark hc)]
        refine .mark hn (ih _ ?_ h _ rfl)
        have hpos := List.length_pos_of_ne_nil (mark_ne_nil n)
        rw [List.length_append]
        omega

/-- Segments can be replaced by texts with whole marks. -/
theorem AreIntact.flatMap {write : α → Text} (hwrite : ∀ {prev t a n}, find prev t = some (a, n) →
    IsIntact count (t.take n) → IsIntact count (write a)) {pieces : List (Piece α)}
    (h : AreIntact find count pieces) : IsIntact count (pieces.flatMap (Piece.text write)) := by
  induction h with
  | nil => exact .nil
  | plain hc _ ih => exact .plain hc ih
  | @mark n _ hn _ ih =>
    have hmark : ((Shield.mark n).map .plain).flatMap (Piece.text write) = Shield.mark n := by
      rw [List.flatMap_map]
      exact List.flatMap_singleton' _
    rw [List.flatMap_append, hmark]
    exact .mark hn ih
  | found hfind hsegment _ ih => exact (hwrite hfind hsegment).append ih

/-- A text without the character that marks begin with can stand for another that no mark begins or
ends with. -/
theorem IsIntact.replaceAll {old new : Text} (hnew : edge ∉ new)
    (hhead : ∀ c, old.head? = some c → isMarkChar c = false) (hne : old ≠ [])
    (hlast : ∀ c, old.getLast? = some c → isMarkChar c = false) (h : IsIntact count t) :
    IsIntact count (replaceAll old new t) := by
  have hspares : SparesMarks fun _ rest =>
      if startsWith old rest then some (new, old.length) else none := by
    constructor
    · intro prev c rest hc
      rw [if_neg]
      intro hstart
      obtain ⟨behind, hdrop⟩ := Option.isSome_iff_exists.mp hstart
      obtain ⟨d, old, rfl⟩ := List.exists_cons_of_ne_nil hne
      obtain ⟨rfl, -⟩ := List.cons.inj (dropPrefix?_eq_some_iff.mp hdrop)
      rw [hhead c rfl] at hc
      cases hc
    · intro prev t a n hfind
      obtain ⟨hstart, heq⟩ := Option.ite_none_right_eq_some.mp hfind
      cases heq
      obtain ⟨behind, hdrop⟩ := Option.isSome_iff_exists.mp hstart
      rcases List.eq_nil_or_concat old with hnil | ⟨u, c, hold⟩
      · exact absurd hnil hne
      · rw [List.concat_eq_append] at hold
        refine ⟨u, c, ?_, congrArg List.length hold, hlast c ?_⟩
        · rw [← hold]
          exact ⟨behind, (dropPrefix?_eq_some_iff.mp hdrop).symm⟩
        · rw [hold, List.getLast?_concat]
  refine (h.scanFrom hspares none).flatMap fun hfind _ => ?_
  obtain ⟨-, heq⟩ := Option.ite_none_right_eq_some.mp hfind
  cases heq
  exact isIntact_of_not_mem hnew

/-! ## Putting code back -/

/-- With its code put aside, a text without the character that marks begin with has whole marks, with
numbers of segments. -/
theorem isIntact_protect (h : edge ∉ t) : IsIntact (protect t).saved.length (protect t).text := by
  obtain ⟨blocks, spans, pieces, left, hprotected⟩ := isProtected_protect t
  rw [hprotected.result]
  exact isIntact_iff.mpr ⟨left, rfl, hprotected.clean h, fun n hn => hprotected.lt_length hn⟩

/-- The marks that are found in a text with whole marks have their numbers. -/
theorem IsIntact.number_lt (h : IsIntact count t) {digits : Text}
    (hdigits : digits ∈ segments recogniseMark t) : Digit.number digits < count := by
  obtain ⟨pieces, rfl, hclean, hnumbers⟩ := isIntact_iff.mp h
  rw [segments, scan, scanFrom_render hclean, List.mem_filterMap] at hdigits
  obtain ⟨piece, hpiece, hsegment⟩ := hdigits
  obtain ⟨original, horiginal, rfl⟩ := List.mem_map.mp hpiece
  cases original with
  | plain c => cases hsegment
  | found n =>
    cases hsegment
    rw [Digit.number_write]
    exact hnumbers n (List.mem_filterMap.mpr ⟨_, horiginal, rfl⟩)

/-- A mark with the number of a segment is only not replaced if the number is too long. -/
theorem segment_error {saved : List Text} {digits : Text} {fault : Fault}
    (hnumber : Digit.number digits < saved.length) (h : segment saved digits = .error fault) :
    ∃ n, fault = .numberTooLong n := by
  unfold segment at h
  split at h
  · cases h
    exact ⟨_, rfl⟩
  · rw [List.getElem?_eq_getElem hnumber] at h
    cases h

/-- A failure comes from the failure of a part. -/
theorem bind_eq_error {ε α β : Type} {first : Except ε α} {next : α → Except ε β} {e : ε} :
    (first >>= next) = .error e ↔
      first = .error e ∨ ∃ a, first = .ok a ∧ next a = .error e := by
  cases first with
  | error e' =>
    constructor
    · intro h
      cases h
      exact Or.inl rfl
    · rintro (h | ⟨a, h, -⟩)
      · cases h
        rfl
      · cases h
  | ok a =>
    constructor
    · intro h
      exact Or.inr ⟨a, rfl, h⟩
    · rintro (h | ⟨a', h, he⟩)
      · cases h
      · cases h
        exact he

theorem restorePieces_error {saved : List Text} {pieces : List (Piece Text)} {fault : Fault}
    (hnumbers : ∀ digits ∈ pieces.filterMap Piece.segment?, Digit.number digits < saved.length)
    (h : restorePieces saved pieces = .error fault) : ∃ n, fault = .numberTooLong n := by
  induction pieces with
  | nil => cases h
  | cons piece pieces ih =>
    cases piece with
    | plain c =>
      rw [restorePieces, bind_eq_error] at h
      rcases h with hrest | ⟨rest, -, heq⟩
      · exact ih hnumbers hrest
      · cases heq
    | found digits =>
      have hboth : ∀ digits' ∈ digits :: pieces.filterMap Piece.segment?,
          Digit.number digits' < saved.length := hnumbers
      rw [List.forall_mem_cons] at hboth
      rw [restorePieces, bind_eq_error] at h
      rcases h with hown | ⟨own, -, h⟩
      · exact segment_error hboth.1 hown
      · rcases bind_eq_error.mp h with hrest | ⟨rest, -, heq⟩
        · exact ih hboth.2 hrest
        · cases heq

/-- A text with whole marks, with numbers of segments, gets its code back, unless a number is longer
than numbers may be. -/
theorem IsIntact.restore {saved : List Text} (h : IsIntact saved.length t) :
    (∀ fault, restore ⟨t, saved⟩ = .error fault → ∃ n, fault = .numberTooLong n) ∧
      (saved.length ≤ 10 ^ Fault.digitLimit → ∃ u, restore ⟨t, saved⟩ = .ok u) := by
  constructor
  · intro fault hfault
    exact restorePieces_error (fun digits hdigits => h.number_lt hdigits) hfault
  · intro hlength
    obtain ⟨pieces, rfl, hclean, hnumbers⟩ := isIntact_iff.mp h
    refine ⟨_, (restore_render hclean).mpr ⟨fun n hn => ?_, rfl⟩⟩
    exact ⟨hnumbers n hn, Nat.lt_of_lt_of_le (hnumbers n hn) hlength⟩

end Shield
end WikiMarkup
