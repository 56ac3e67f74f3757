import Mathlib
import WikiMarkup.Text.Basic

/-!
# Laws of texts

What trimming, lower case and prefixes do to a text, in the form in which the other proofs use it.
The classes of characters come as bounds on code points, so that `omega` can compare them.
-/

namespace WikiMarkup
namespace Text

/-! ## Character classes -/

theorem isLowerLetter_iff {c : Char} :
    isLowerLetter c = true ↔ 97 ≤ c.toNat ∧ c.toNat ≤ 122 := by
  simp only [isLowerLetter, Bool.and_eq_true, decide_eq_true_eq, Char.le_def,
    UInt32.le_iff_toNat_le]
  rfl

theorem isUpperLetter_iff {c : Char} :
    isUpperLetter c = true ↔ 65 ≤ c.toNat ∧ c.toNat ≤ 90 := by
  simp only [isUpperLetter, Bool.and_eq_true, decide_eq_true_eq, Char.le_def,
    UInt32.le_iff_toNat_le]
  rfl

theorem isDigit_iff {c : Char} : isDigit c = true ↔ 48 ≤ c.toNat ∧ c.toNat ≤ 57 := by
  simp only [isDigit, Bool.and_eq_true, decide_eq_true_eq, Char.le_def, UInt32.le_iff_toNat_le]
  rfl

theorem isAscii_iff {c : Char} : isAscii c = true ↔ c.toNat < 128 := by
  simp [isAscii]

theorem isAscii_of_isLetterOrDigit {c : Char} (h : isLetterOrDigit c = true) : isAscii c = true := by
  rw [isLetterOrDigit, isLetter, Bool.or_eq_true, Bool.or_eq_true, isLowerLetter_iff,
    isUpperLetter_iff, isDigit_iff] at h
  rw [isAscii_iff]
  omega

theorem lowerLetter_of_not_upper {c : Char} (h : isUpperLetter c = false) : lowerLetter c = c := by
  simp [lowerLetter, h]

/-- The lower-case form of a letter is 32 code points behind it. -/
theorem toNat_lowerLetter {c : Char} (h : isUpperLetter c = true) :
    (lowerLetter c).toNat = c.toNat + 32 := by
  have hc := isUpperLetter_iff.mp h
  have hvalid : (c.toNat + 32).isValidChar := by
    left
    omega
  rw [lowerLetter, if_pos h, Char.ofNat, dif_pos hvalid]
  rfl

theorem isUpperLetter_lowerLetter (c : Char) : isUpperLetter (lowerLetter c) = false := by
  cases h : isUpperLetter c with
  | false => rw [lowerLetter_of_not_upper h, h]
  | true =>
    have hc := isUpperLetter_iff.mp h
    have hl := toNat_lowerLetter h
    rw [Bool.eq_false_iff, ne_eq, isUpperLetter_iff]
    omega

theorem isAscii_lowerLetter {c : Char} (h : isAscii c = true) : isAscii (lowerLetter c) = true := by
  cases hu : isUpperLetter c with
  | false => rwa [lowerLetter_of_not_upper hu]
  | true =>
    have hc := isUpperLetter_iff.mp hu
    have hl := toNat_lowerLetter hu
    rw [isAscii_iff]
    omega

/-- Lower case neither makes a sign that is no letter nor takes one away. -/
theorem lowerLetter_eq_iff {c d : Char} (hd : isLetter d = false) : lowerLetter c = d ↔ c = d := by
  have hlower : ¬ (97 ≤ d.toNat ∧ d.toNat ≤ 122) := by
    rw [← isLowerLetter_iff]
    simp_all [isLetter]
  have hupper : isUpperLetter d = false := by simp_all [isLetter]
  cases h : isUpperLetter c with
  | false => rw [lowerLetter_of_not_upper h]
  | true =>
    have hc := isUpperLetter_iff.mp h
    have hl := toNat_lowerLetter h
    constructor
    · rintro rfl
      omega
    · rintro rfl
      rw [hupper] at h
      cases h

theorem isLetterOrDigit_lowerLetter (c : Char) :
    isLetterOrDigit (lowerLetter c) = isLetterOrDigit c := by
  cases h : isUpperLetter c with
  | false => rw [lowerLetter_of_not_upper h]
  | true =>
    have hc := isUpperLetter_iff.mp h
    have hlower : isLowerLetter (lowerLetter c) = true := by
      rw [isLowerLetter_iff, toNat_lowerLetter h]
      omega
    simp [isLetterOrDigit, isLetter, h, hlower]

theorem lowerAscii_eq_self {t : Text} (h : ∀ c ∈ t, isUpperLetter c = false) :
    lowerAscii t = t := by
  have hmap : t.map lowerLetter = t.map id :=
    List.map_congr_left fun c hc => lowerLetter_of_not_upper (h c hc)
  rw [lowerAscii, hmap, List.map_id]

/-! ## Trimming -/

theorem trimEnd_eq (p : Char → Bool) (t : Text) : trimEnd p t = t.rdropWhile p := rfl

/-- What trimming takes away is at the two ends, and all of it is of the kind that is trimmed. -/
theorem exists_eq_append_trimBy (p : Char → Bool) (t : Text) :
    ∃ a b, t = a ++ trimBy p t ++ b ∧ (∀ c ∈ a, p c = true) ∧ ∀ c ∈ b, p c = true := by
  refine ⟨t.takeWhile p, (t.dropWhile p).rtakeWhile p, ?_, ?_, ?_⟩
  · rw [trimBy, trimEnd_eq, List.append_assoc, List.rdropWhile_append_rtakeWhile,
      List.takeWhile_append_dropWhile]
  · intro c hc
    exact List.mem_takeWhile_imp hc
  · intro c hc
    exact List.mem_rtakeWhile_imp hc

theorem infix_trimBy (p : Char → Bool) (t : Text) : trimBy p t <:+: t := by
  obtain ⟨a, b, h, -, -⟩ := exists_eq_append_trimBy p t
  exact ⟨a, b, h.symm⟩

theorem mem_of_mem_trimBy {p : Char → Bool} {t : Text} {c : Char} (h : c ∈ trimBy p t) : c ∈ t :=
  (infix_trimBy p t).subset h

/-- A text that is trimmed at its end does not end with what is trimmed. -/
theorem getLast?_trimEnd {p : Char → Bool} {t : Text} {c : Char}
    (h : (trimEnd p t).getLast? = some c) : p c = false := by
  have hne : t.rdropWhile p ≠ [] := by
    intro hnil
    simp [trimEnd_eq, hnil] at h
  have hlast := List.rdropWhile_last_not p t hne
  rw [trimEnd_eq, List.getLast?_eq_getLast_of_ne_nil hne, Option.some.injEq] at h
  simpa [h] using hlast

/-- A trimmed text does not end with what is trimmed. -/
theorem getLast?_trimBy {p : Char → Bool} {t : Text} {c : Char}
    (h : (trimBy p t).getLast? = some c) : p c = false := getLast?_trimEnd h

/-- A trimmed text does not begin with what is trimmed. -/
theorem head?_trimBy {p : Char → Bool} {t : Text} {c : Char}
    (h : (trimBy p t).head? = some c) : p c = false := by
  obtain ⟨b, hb⟩ : trimBy p t <+: t.dropWhile p := List.rdropWhile_prefix p (t.dropWhile p)
  have hhead : (t.dropWhile p).head? = some c := by
    rw [← hb, List.head?_append, h, Option.some_or]
  have hnot := List.head?_dropWhile_not p t
  rw [hhead] at hnot
  simpa using hnot

theorem trimEnd_eq_self {p : Char → Bool} {t : Text}
    (h : ∀ c, t.getLast? = some c → p c = false) : trimEnd p t = t := by
  rw [trimEnd_eq, List.rdropWhile_eq_self_iff]
  intro hne
  simpa using h _ (List.getLast?_eq_getLast_of_ne_nil hne)

theorem dropWhile_eq_self {p : Char → Bool} {t : Text}
    (h : ∀ c, t.head? = some c → p c = false) : t.dropWhile p = t := by
  cases t with
  | nil => rfl
  | cons c t => exact List.dropWhile_cons_of_neg (by simp [h c rfl])

/-- A text that begins and ends with something else is left alone. -/
theorem trimBy_eq_self {p : Char → Bool} {t : Text} (hhead : ∀ c, t.head? = some c → p c = false)
    (hlast : ∀ c, t.getLast? = some c → p c = false) : trimBy p t = t := by
  rw [trimBy, dropWhile_eq_self hhead, trimEnd_eq_self hlast]

/-- A text that ends with something else loses its beginning only. -/
theorem trimBy_eq_dropWhile {p : Char → Bool} {t : Text}
    (h : ∀ c, t.getLast? = some c → p c = false) : trimBy p t = t.dropWhile p := by
  apply trimEnd_eq_self
  intro c hc
  obtain ⟨a, ha⟩ := List.dropWhile_suffix (l := t) p
  apply h
  rw [← ha, List.getLast?_append, hc, Option.some_or]

/-- A text that ends with something else keeps its last character. -/
theorem getLast?_trimBy_concat {p : Char → Bool} {c : Char} (h : p c = false) (t : Text) :
    (trimBy p (t ++ [c])).getLast? = some c := by
  have hlast : ∀ d, (t ++ [c]).getLast? = some d → p d = false := by
    intro d hd
    rw [List.getLast?_concat] at hd
    exact Option.some.inj hd ▸ h
  have hstop : [c].dropWhile p = [c] := List.dropWhile_cons_of_neg (by simp [h])
  rw [trimBy_eq_dropWhile hlast, List.dropWhile_append, hstop]
  split
  · rfl
  · exact List.getLast?_concat

theorem trimEnd_append {p : Char → Bool} (t : Text) {b : Text} (h : ∀ c ∈ b, p c = true) :
    trimEnd p (t ++ b) = trimEnd p t := by
  have hrev : ∀ c ∈ b.reverse, p c = true := by
    intro c hc
    exact h c (List.mem_reverse.mp hc)
  rw [trimEnd, trimEnd, List.reverse_append, List.dropWhile_append_of_pos hrev]

/-- More text in front does not make more of an ending go. -/
theorem length_trimEnd_le_append (p : Char → Bool) (a t : Text) :
    (trimEnd p t).length ≤ (trimEnd p (a ++ t)).length := by
  rw [trimEnd, trimEnd, List.reverse_append, List.dropWhile_append, List.length_reverse,
    List.length_reverse]
  split
  · rename_i hnil
    rw [List.isEmpty_iff.mp hnil]
    exact Nat.zero_le _
  · rw [List.length_append]
    exact Nat.le_add_right _ _

theorem length_trimBy_le (p : Char → Bool) (t : Text) :
    (trimBy p t).length ≤ (trimEnd p t).length := by
  have h := length_trimEnd_le_append p (t.takeWhile p) (t.dropWhile p)
  rwa [List.takeWhile_append_dropWhile] at h

theorem trimEnd_cons {p : Char → Bool} {c : Char} (h : p c = false) (t : Text) :
    trimEnd p (c :: t) = c :: trimEnd p t := by
  rw [trimEnd, trimEnd, List.reverse_cons, List.dropWhile_append]
  split
  · rename_i hnil
    rw [List.isEmpty_iff.mp hnil, List.dropWhile_cons_of_neg (by simp [h])]
    rfl
  · rw [List.reverse_append]
    rfl

/-- What is trimmed can be left out at the beginning beforehand. -/
theorem trimBy_append_left {p : Char → Bool} {a : Text} (t : Text) (h : ∀ c ∈ a, p c = true) :
    trimBy p (a ++ t) = trimBy p t := by
  rw [trimBy, trimBy, List.dropWhile_append_of_pos h]

/-- What is not trimmed in front leaves only the end to be trimmed. -/
theorem trimBy_append_kept {p : Char → Bool} {u : Text} (hne : u ≠ [])
    (h : ∀ c ∈ u, p c = false) (t : Text) : trimBy p (u ++ t) = u ++ trimEnd p t := by
  have hend : trimEnd p (u ++ t) = u ++ trimEnd p t := by
    clear hne
    induction u with
    | nil => rfl
    | cons c u ih =>
      rw [List.forall_mem_cons] at h
      rw [List.cons_append, trimEnd_cons h.1, ih h.2, List.cons_append]
  obtain ⟨c, u, rfl⟩ := List.exists_cons_of_ne_nil hne
  have hc : ¬ p c = true := by simp [h c List.mem_cons_self]
  rw [trimBy, List.cons_append, List.dropWhile_cons_of_neg hc, ← List.cons_append, hend]

/-- What is trimmed can be left out at the end beforehand. -/
theorem trimBy_append_right {p : Char → Bool} (t : Text) {b : Text} (h : ∀ c ∈ b, p c = true) :
    trimBy p (t ++ b) = trimBy p t := by
  rw [trimBy, trimBy, List.dropWhile_append]
  by_cases hall : ∀ c ∈ t, p c = true
  · have ht : t.dropWhile p = [] := List.dropWhile_eq_nil_iff.mpr hall
    have hb : b.dropWhile p = [] := List.dropWhile_eq_nil_iff.mpr h
    simp [ht, hb]
  · have ht : t.dropWhile p ≠ [] := by
      intro hnil
      exact hall (List.dropWhile_eq_nil_iff.mp hnil)
    rw [if_neg (by simpa using ht), trimEnd_append _ h]

/-- Trimming the end beforehand makes no difference to trimming both ends. -/
theorem trimBy_trimEnd (p : Char → Bool) (t : Text) : trimBy p (trimEnd p t) = trimBy p t := by
  have hend : ∀ c ∈ t.rtakeWhile p, p c = true := fun c hc => List.mem_rtakeWhile_imp hc
  conv_rhs => rw [← List.rdropWhile_append_rtakeWhile (p := p) (l := t)]
  rw [trimBy_append_right _ hend, trimEnd_eq]

/-- Trimming the end leaves nothing only where trimming both ends does. -/
theorem trimEnd_eq_nil_iff {p : Char → Bool} {t : Text} : trimEnd p t = [] ↔ trimBy p t = [] := by
  constructor
  · intro h
    rw [← trimBy_trimEnd, h]
    rfl
  · intro h
    rw [trimEnd_eq, List.rdropWhile_eq_nil_iff]
    intro c hc
    obtain ⟨a, b, hsplit, ha, hb⟩ := exists_eq_append_trimBy p t
    rw [hsplit, h, List.append_nil] at hc
    rcases List.mem_append.mp hc with hc | hc
    · exact ha c hc
    · exact hb c hc

/-- Trimming takes away nothing of another kind. -/
theorem mem_trimBy_iff {p : Char → Bool} {t : Text} {c : Char} (h : p c = false) :
    c ∈ trimBy p t ↔ c ∈ t := by
  refine ⟨mem_of_mem_trimBy, fun hc => ?_⟩
  obtain ⟨a, b, hsplit, ha, hb⟩ := exists_eq_append_trimBy p t
  rw [hsplit, List.mem_append, List.mem_append] at hc
  rcases hc with (hc | hc) | hc
  · rw [ha c hc] at h
    cases h
  · exact hc
  · rw [hb c hc] at h
    cases h

/-- A part that has no character of an ending stands before the ending. -/
theorem infix_of_infix_append {part t b : Text} (h : ∀ c ∈ part, c ∉ b)
    (hpart : part <:+: t ++ b) : part <:+: t := by
  obtain ⟨x, y, heq⟩ := hpart
  rw [List.append_assoc] at heq
  rcases List.append_eq_append_iff.mp heq with ⟨u, rfl, hu⟩ | ⟨u, rfl, hu⟩
  · rcases List.append_eq_append_iff.mp hu with ⟨v, rfl, -⟩ | ⟨v, rfl, hv⟩
    · exact ⟨x, v, List.append_assoc x part v⟩
    · -- what would reach into the ending is empty
      have hnil : v = [] := by
        rw [List.eq_nil_iff_forall_not_mem]
        intro c hc
        exact h c (List.mem_append_right u hc) (hv ▸ List.mem_append_left y hc)
      subst hnil
      exact ⟨x, [], by simp⟩
  · have hnil : part = [] := by
      rw [List.eq_nil_iff_forall_not_mem]
      intro c hc
      exact h c hc (hu ▸ List.mem_append_right u (List.mem_append_left y hc))
    subst hnil
    exact List.nil_infix

/-- A part that has nothing of what is trimmed stays, and none comes up. -/
theorem infix_trimBy_iff {p : Char → Bool} {part : Text} (h : ∀ c ∈ part, p c = false) (t : Text) :
    part <:+: trimBy p t ↔ part <:+: t := by
  refine ⟨fun hpart => hpart.trans (infix_trimBy p t), fun hpart => ?_⟩
  obtain ⟨a, b, heq, ha, hb⟩ := exists_eq_append_trimBy p t
  have hapart : ∀ {u : Text}, (∀ c ∈ u, p c = true) → ∀ c ∈ part, c ∉ u := by
    intro u hu c hc hmem
    have hkept := h c hc
    rw [hu c hmem] at hkept
    cases hkept
  rw [heq] at hpart
  have hfront := infix_of_infix_append (hapart hb) hpart
  -- the beginning is an ending of the reversed text
  rw [← List.reverse_infix, List.reverse_append] at hfront
  rw [← List.reverse_infix]
  refine infix_of_infix_append (fun c hc => ?_) hfront
  rw [List.mem_reverse] at hc ⊢
  exact hapart ha c hc

/-- Lower case and trimming a sign that is no letter can change places. -/
theorem lowerAscii_trimChar {d : Char} (hd : isLetter d = false) (t : Text) :
    lowerAscii (trimChar d t) = trimChar d (lowerAscii t) := by
  have hsame : ((· == d) ∘ lowerLetter) = (· == d) := by
    funext c
    rw [Function.comp_apply, Bool.eq_iff_iff, beq_iff_eq, beq_iff_eq, lowerLetter_eq_iff hd]
  have hdrop : ∀ u : Text, (u.map lowerLetter).dropWhile (· == d) =
      (u.dropWhile (· == d)).map lowerLetter := by
    intro u
    rw [List.dropWhile_map, hsame]
  simp only [trimChar, trimBy, trimEnd, lowerAscii, hdrop, ← List.map_reverse]

/-! ## Cutting -/

/-- Reading a class of characters stops where the first one of another kind stands. -/
theorem takeWhile_append_stop {p : Char → Bool} {u t : Text} (hu : ∀ c ∈ u, p c = true)
    (ht : ∀ c, t.head? = some c → p c = false) :
    (u ++ t).takeWhile p = u ∧ (u ++ t).dropWhile p = t := by
  have hnil : t.takeWhile p = [] := by
    cases t with
    | nil => rfl
    | cons c t => exact List.takeWhile_cons_of_neg (by simp [ht c rfl])
  rw [List.takeWhile_append_of_pos hu, List.dropWhile_append_of_pos hu, hnil,
    dropWhile_eq_self ht, List.append_nil]
  exact ⟨rfl, rfl⟩

theorem bne_of_not_mem {c : Char} {u : Text} (hu : c ∉ u) : ∀ d ∈ u, (d != c) = true := by
  intro d hd
  have hne : d ≠ c := by
    rintro rfl
    exact hu hd
  simpa using hne

/-- A text without `c`, and then `c`: reading up to `c` reads the text. -/
theorem takeWhile_bne_append {c : Char} {u : Text} (hu : c ∉ u) (t : Text) :
    (u ++ c :: t).takeWhile (· != c) = u ∧ (u ++ c :: t).dropWhile (· != c) = c :: t := by
  refine takeWhile_append_stop (bne_of_not_mem hu) ?_
  intro d hd
  simpa using (Option.some.inj hd).symm

/-- The part before a character is all that comes before its first occurrence. -/
theorem before_append {c : Char} {u : Text} (hu : c ∉ u) (t : Text) :
    before c (u ++ c :: t) = u := (takeWhile_bne_append hu t).1

theorem before_eq_self {c : Char} {u : Text} (hu : c ∉ u) : before c u = u := by
  rw [before, List.takeWhile_eq_self_iff]
  exact bne_of_not_mem hu

/-- The part after a character is all that comes after its first occurrence. -/
theorem after?_append {c : Char} {u : Text} (hu : c ∉ u) (t : Text) :
    after? c (u ++ c :: t) = some t := by
  rw [after?, (takeWhile_bne_append hu t).2]

theorem after?_append_left {c : Char} {u : Text} (hu : c ∉ u) (t : Text) :
    after? c (u ++ t) = after? c t := by
  rw [after?, after?, List.dropWhile_append_of_pos (bne_of_not_mem hu)]

theorem after?_eq_none {c : Char} {u : Text} (hu : c ∉ u) : after? c u = none := by
  rw [after?, List.dropWhile_eq_nil_iff.mpr (bne_of_not_mem hu)]

/-- A text is its part before a character, and then the character and its part after it. -/
theorem before_append_after? (c : Char) (t : Text) :
    before c t ++ (after? c t).elim [] (c :: ·) = t := by
  rw [before, after?]
  conv_rhs => rw [← List.takeWhile_append_dropWhile (p := (· != c)) (l := t)]
  congr 1
  have hstop := List.head?_dropWhile_not (· != c) t
  cases hrest : t.dropWhile (· != c) with
  | nil => rfl
  | cons d rest =>
    rw [hrest] at hstop
    have hd : d = c := by simpa using hstop
    rw [hd]
    rfl

/-- What stands in front without the character belongs to the part before it. -/
theorem before_append_left {c : Char} {u : Text} (hu : c ∉ u) (t : Text) :
    before c (u ++ t) = u ++ before c t :=
  List.takeWhile_append_of_pos (bne_of_not_mem hu)

/-- What stands behind the character does not belong to the part before it. -/
theorem before_append_cons (c : Char) (u t : Text) : before c (u ++ c :: t) = before c u := by
  have hcut : (c :: t).takeWhile (· != c) = [] := List.takeWhile_cons_of_neg (by simp)
  rw [before, List.takeWhile_append, hcut, List.append_nil]
  split
  · rename_i hlength
    exact ((List.takeWhile_prefix _).eq_of_length hlength).symm
  · rfl

/-- The parts between separators hold all the rest of a text. -/
theorem flatten_splitOn (c : Char) (t : Text) : (t.splitOn c).flatten = t.filter (· != c) := by
  induction t with
  | nil => rfl
  | cons d t ih =>
    rw [List.splitOn_cons_eq_if_modifyHead]
    by_cases h : (d == c) = true
    · rw [if_pos h, List.flatten_cons, List.nil_append, ih,
        List.filter_cons_of_neg (by simpa using h)]
    · obtain ⟨part, parts, hparts⟩ := List.exists_cons_of_ne_nil (List.splitOn_ne_nil c t)
      rw [if_neg h, List.filter_cons_of_pos (by simpa using h), ← ih, hparts]
      rfl

/-- Joined parts are the first of them, and the others with the separator in front of each. -/
theorem join_cons (separator part : Text) (parts : List Text) :
    join separator (part :: parts) = part ++ parts.flatMap (separator ++ ·) := by
  induction parts generalizing part with
  | nil => simp [join]
  | cons next parts ih =>
    show part ++ separator ++ join separator (next :: parts) = _
    rw [ih, List.flatMap_cons, List.append_assoc, List.append_assoc]

/-- Parts that are cut off by a character are read back. -/
theorem splitOn_append_flatMap {c : Char} {part : Text} {parts : List Text} (hpart : c ∉ part)
    (hparts : ∀ p ∈ parts, c ∉ p) :
    (part ++ parts.flatMap (c :: ·)).splitOn c = part :: parts := by
  induction parts generalizing part with
  | nil =>
    rw [List.flatMap_nil, List.append_nil]
    exact List.splitOn_eq_singleton hpart
  | cons next parts ih =>
    rw [List.forall_mem_cons] at hparts
    rw [List.flatMap_cons, List.cons_append, List.splitOn_append_cons_self,
      List.splitOn_eq_singleton hpart, ih hparts.1 hparts.2]
    rfl

/-- A prefix is found exactly where it stands. -/
theorem dropPrefix?_eq_some_iff {start t rest : Text} :
    dropPrefix? start t = some rest ↔ t = start ++ rest := by
  induction start generalizing t with
  | nil => simp [dropPrefix?]
  | cons c start ih =>
    cases t with
    | nil => simp [dropPrefix?]
    | cons d t =>
      unfold dropPrefix?
      split
      · rename_i hcd
        rw [ih, hcd, List.cons_append, List.cons.injEq]
        exact ⟨fun h => ⟨rfl, h⟩, fun h => h.2⟩
      · rename_i hcd
        constructor
        · intro h
          cases h
        · intro h
          exact absurd (List.cons.inj h).1.symm hcd

theorem hasPart_iff {part t : Text} : hasPart part t = true ↔ part <:+: t := by
  induction t with
  | nil => simp [hasPart]
  | cons c t ih =>
    rw [hasPart, Bool.or_eq_true, ih, List.infix_cons_iff]
    apply or_congr_left
    rw [startsWith, Option.isSome_iff_exists]
    simp only [dropPrefix?_eq_some_iff]
    constructor
    · rintro ⟨rest, heq⟩
      exact ⟨rest, heq.symm⟩
    · rintro ⟨rest, heq⟩
      exact ⟨rest, heq.symm⟩

end Text
end WikiMarkup
