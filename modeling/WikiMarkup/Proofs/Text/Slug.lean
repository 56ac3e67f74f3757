import WikiMarkup.Proofs.Text.Folding
import WikiMarkup.Text.Slug

/-!
# Laws of slugs

A slug is in normal form: characters that are kept, with single hyphens between them. A text in
normal form is its own slug, so slugging twice changes nothing. White space around a text adds
nothing to its slug. The slug of a heading, where nothing but letters and digits is kept, is a row
of words.
-/

namespace WikiMarkup
namespace Slug

open Text

/-! ## Collapsing -/

section Collapse

variable {kept : Char → Bool}

/-- Collapsing writes nothing but hyphens and what is kept. -/
theorem mem_collapse {b : Bool} {t : Text} {c : Char} (h : c ∈ collapse kept b t) :
    (kept c = true ∧ c ∈ t) ∨ c = '-' := by
  induction t generalizing b with
  | nil => cases h
  | cons d t ih =>
    have hrest : ∀ b', c ∈ collapse kept b' t → (kept c = true ∧ c ∈ d :: t) ∨ c = '-' := by
      intro b' hc
      rcases ih hc with ⟨hk, hm⟩ | hc
      · exact Or.inl ⟨hk, List.mem_cons_of_mem d hm⟩
      · exact Or.inr hc
    unfold collapse at h
    split at h
    · rename_i hd
      rcases List.mem_cons.mp h with rfl | h
      · exact Or.inl ⟨hd, List.mem_cons_self⟩
      · exact hrest false h
    · split at h
      · exact hrest true h
      · rcases List.mem_cons.mp h with rfl | h
        · exact Or.inr rfl
        · exact hrest true h

/-- In a run no further hyphen is written. -/
theorem head?_collapse_true (hk : kept '-' = false) (t : Text) :
    (collapse kept true t).head? ≠ some '-' := by
  induction t with
  | nil => simp [collapse]
  | cons d t ih =>
    unfold collapse
    split
    · rename_i hd
      intro h
      obtain rfl : d = '-' := by simpa using h
      simp [hk] at hd
    · simpa using ih

/-- Collapsing leaves no two hyphens in a row. -/
theorem not_double_collapse (hk : kept '-' = false) (b : Bool) (t : Text) :
    ¬ ['-', '-'] <:+: collapse kept b t := by
  induction t generalizing b with
  | nil => simp [collapse]
  | cons d t ih =>
    unfold collapse
    split
    · rename_i hd
      rw [List.infix_cons_iff]
      rintro (hpre | hinf)
      · obtain rfl : d = '-' := (List.cons_prefix_cons.mp hpre).1.symm
        simp [hk] at hd
      · exact ih false hinf
    · split
      · exact ih true
      · rw [List.infix_cons_iff]
        rintro (hpre | hinf)
        · have hhead := (List.cons_prefix_cons.mp hpre).2
          obtain ⟨s, hs⟩ := hhead
          exact head?_collapse_true hk t (by rw [← hs]; rfl)
        · exact ih true hinf

/-- A text of kept characters with single hyphens between them is left alone. -/
theorem collapse_eq_self {b : Bool} {t : Text} (hchars : ∀ c ∈ t, kept c = true ∨ c = '-')
    (hsingle : kept '-' = false → ¬ ['-', '-'] <:+: t)
    (hstart : kept '-' = false → b = true → t.head? ≠ some '-') : collapse kept b t = t := by
  induction t generalizing b with
  | nil => rfl
  | cons d t ih =>
    have hchars' : ∀ c ∈ t, kept c = true ∨ c = '-' := fun c hc =>
      hchars c (List.mem_cons_of_mem d hc)
    have hsingle' : kept '-' = false → ¬ ['-', '-'] <:+: t := fun hk hinf =>
      hsingle hk (List.infix_cons_iff.mpr (Or.inr hinf))
    unfold collapse
    split
    · rw [ih hchars' hsingle' (by simp)]
    · rename_i hd
      have hdash : d = '-' := (hchars d List.mem_cons_self).resolve_left (by simpa using hd)
      subst hdash
      have hk : kept '-' = false := by simpa using hd
      have hb : b = false := by
        cases b with
        | false => rfl
        | true => exact absurd rfl (hstart hk rfl)
      have hnext : t.head? ≠ some '-' := by
        intro hhead
        obtain ⟨t', rfl⟩ := List.head?_eq_some_iff.mp hhead
        exact hsingle hk ⟨[], t', rfl⟩
      rw [hb, if_neg (by simp), ih hchars' hsingle' (fun _ _ => hnext)]

/-- Rejected characters in front of a text are a run. -/
theorem collapse_append_left {a : Text} (h : ∀ c ∈ a, kept c = false) (b : Bool) (t : Text) :
    ∃ s, collapse kept b (a ++ t) = s ++ collapse kept (b || !a.isEmpty) t ∧
      ∀ c ∈ s, c = '-' := by
  induction a generalizing b with
  | nil => exact ⟨[], by simp, by simp⟩
  | cons d a ih =>
    have hd : kept d = false := h d List.mem_cons_self
    obtain ⟨s, hs, hdash⟩ := ih (fun c hc => h c (List.mem_cons_of_mem d hc)) true
    cases b with
    | true => exact ⟨s, by simpa [collapse, hd] using hs, hdash⟩
    | false =>
      refine ⟨'-' :: s, by simpa [collapse, hd] using hs, ?_⟩
      intro c hc
      rcases List.mem_cons.mp hc with hc | hc
      · exact hc
      · exact hdash c hc

/-- Rejected characters behind a text leave at most a hyphen. -/
theorem collapse_append_right {a : Text} (h : ∀ c ∈ a, kept c = false) (b : Bool) (t : Text) :
    ∃ s, collapse kept b (t ++ a) = collapse kept b t ++ s ∧ ∀ c ∈ s, c = '-' := by
  induction t generalizing b with
  | nil =>
    obtain ⟨s, hs, hdash⟩ := collapse_append_left h b []
    exact ⟨s, by simpa [collapse] using hs, hdash⟩
  | cons d t ih =>
    rw [List.cons_append]
    unfold collapse
    split
    · obtain ⟨s, hs, hdash⟩ := ih false
      exact ⟨s, by rw [hs, List.cons_append], hdash⟩
    · obtain ⟨s, hs, hdash⟩ := ih true
      refine ⟨s, ?_, hdash⟩
      split
      · exact hs
      · rw [hs, List.cons_append]

/-- Whether a run has begun shows in a leading hyphen only. -/
theorem trim_collapse_true (t : Text) :
    trimChar '-' (collapse kept true t) = trimChar '-' (collapse kept false t) := by
  cases t with
  | nil => rfl
  | cons d t =>
    cases hd : kept d with
    | true => simp [collapse, hd]
    | false =>
      have hleft : ∀ c ∈ ['-'], (c == '-') = true := by simp
      have h := trimBy_append_left (collapse kept true t) hleft
      simpa [collapse, hd, trimChar] using h.symm

/-- Rejected characters around a text make no difference once the hyphens at its ends are gone. -/
theorem trim_collapse_append {a b : Text} (ha : ∀ c ∈ a, kept c = false)
    (hb : ∀ c ∈ b, kept c = false) (t : Text) :
    trimChar '-' (collapse kept false (a ++ t ++ b)) = trimChar '-' (collapse kept false t) := by
  obtain ⟨s, hs, hdash⟩ := collapse_append_right hb false (a ++ t)
  obtain ⟨r, hr, hdash'⟩ := collapse_append_left ha false t
  have hright := trimBy_append_right (p := (· == '-')) (collapse kept false (a ++ t))
    (fun c hc => beq_iff_eq.mpr (hdash c hc))
  have hleft := trimBy_append_left (p := (· == '-')) (collapse kept (false || !a.isEmpty) t)
    (fun c hc => beq_iff_eq.mpr (hdash' c hc))
  rw [hs, trimChar, hright, hr, hleft]
  cases a with
  | nil => rfl
  | cons d a => exact trim_collapse_true t

/-- A character that is kept stays at the end. -/
theorem collapse_concat {c : Char} (hc : kept c = true) (b : Bool) (t : Text) :
    collapse kept b (t ++ [c]) = collapse kept b t ++ [c] := by
  induction t generalizing b with
  | nil => simp [collapse, hc]
  | cons d t ih =>
    rw [List.cons_append]
    unfold collapse
    split
    · rw [ih, List.cons_append]
    · split
      · exact ih true
      · rw [ih, List.cons_append]

theorem beq_hyphen_of_kept (hk : kept '-' = false) {c : Char} (hc : kept c = true) :
    (c == '-') = false := by
  rw [beq_eq_false_iff_ne]
  rintro rfl
  rw [hk] at hc
  cases hc

/-- A slug begins with the first character that is kept. -/
theorem head?_trim_collapse (hk : kept '-' = false) (t : Text) :
    (trimChar '-' (collapse kept false t)).head? = t.find? kept := by
  induction t with
  | nil => rfl
  | cons d t ih =>
    cases hd : kept d with
    | true =>
      have hhyphen := beq_hyphen_of_kept hk hd
      have htrim := trimEnd_cons (p := (· == '-')) hhyphen (collapse kept false t)
      rw [List.find?_cons_of_pos hd, collapse, if_pos hd, trimChar, trimBy,
        List.dropWhile_cons_of_neg (by simp [hhyphen]), htrim, List.head?_cons]
    | false =>
      have hskip := trim_collapse_append (a := [d]) (b := []) (by simpa using hd) (by simp) t
      rw [List.find?_cons_of_neg (by simp [hd]), ← ih, ← hskip, List.append_nil]
      rfl

/-- A slug ends with the last character that is kept. -/
theorem getLast?_trim_collapse (hk : kept '-' = false) (t : Text) :
    (trimChar '-' (collapse kept false t)).getLast? = t.reverse.find? kept := by
  induction t using List.reverseRecOn with
  | nil => rfl
  | append_singleton t d ih =>
    rw [List.reverse_append, List.reverse_singleton, List.singleton_append]
    cases hd : kept d with
    | true =>
      rw [List.find?_cons_of_pos hd, collapse_concat hd]
      exact getLast?_trimBy_concat (p := (· == '-')) (beq_hyphen_of_kept hk hd) _
    | false =>
      have hskip := trim_collapse_append (a := []) (b := [d]) (by simp) (by simpa using hd) t
      rw [List.find?_cons_of_neg (by simp [hd]), ← ih, ← hskip]
      rfl

end Collapse

/-! ## Normal form -/

/-- The form of a slug: ASCII characters that are kept, in lower case if `lower` is set, and hyphens
between them, single ones unless the hyphen is itself kept. -/
structure IsNormal (keep : Text) (lower : Bool) (t : Text) : Prop where
  chars : ∀ c ∈ t, (isAscii c = true ∧ keeps keep c = true ∧
    (lower = true → isUpperLetter c = false)) ∨ c = '-'
  single : keeps keep '-' = false → ¬ ['-', '-'] <:+: t
  head : t.head? ≠ some '-'
  last : t.getLast? ≠ some '-'

/-- Every slug is in normal form. -/
theorem isNormal_ofText (keep : Text) (lower : Bool) (t : Text) :
    IsNormal keep lower (ofText keep lower t) where
  chars c hc := by
    rcases mem_collapse (mem_of_mem_trimBy hc) with ⟨hkeep, hmem⟩ | hdash
    · left
      cases lower with
      | false => exact ⟨Folding.isAscii_of_mem_toAscii hmem, hkeep, by simp⟩
      | true =>
        obtain ⟨d, hd, rfl⟩ := List.mem_map.mp hmem
        exact ⟨isAscii_lowerLetter (Folding.isAscii_of_mem_toAscii hd), hkeep,
          fun _ => isUpperLetter_lowerLetter d⟩
    · exact Or.inr hdash
  single hk hinf := not_double_collapse hk _ _ (hinf.trans (infix_trimBy _ _))
  head hhead := by simpa using head?_trimBy hhead
  last hlast := by simpa using getLast?_trimBy hlast

/-- A sign that is not kept stands in no slug, unless it is the hyphen. -/
theorem not_mem_ofText {keep : Text} {c : Char} (hkeep : keeps keep c = false) (hhyphen : c ≠ '-')
    (lower : Bool) (t : Text) : c ∉ ofText keep lower t := by
  intro hmem
  rcases (isNormal_ofText keep lower t).chars c hmem with hkept | hdash
  · rw [hkept.2.1] at hkeep
    cases hkeep
  · exact hhyphen hdash

/-- A text in normal form is its own slug. -/
theorem IsNormal.ofText_eq_self {keep : Text} {lower : Bool} {t : Text}
    (h : IsNormal keep lower t) : ofText keep lower t = t := by
  have hascii : Folding.toAscii t = t := by
    apply Folding.toAscii_eq_self
    intro c hc
    rcases h.chars c hc with hkept | rfl
    · exact hkept.1
    · rfl
  have hlower : (if lower = true then lowerAscii t else t) = t := by
    cases lower with
    | false => rfl
    | true =>
      apply lowerAscii_eq_self
      intro c hc
      rcases h.chars c hc with hkept | rfl
      · exact hkept.2.2 rfl
      · rfl
  have hcollapse : collapse (keeps keep) false t = t := by
    apply collapse_eq_self _ h.single (by simp)
    intro c hc
    rcases h.chars c hc with hkept | hdash
    · exact Or.inl hkept.2.1
    · exact Or.inr hdash
  rw [ofText, hascii, hlower, hcollapse]
  apply trimBy_eq_self
  · intro c hc
    by_contra hdash
    exact h.head (by simpa [show c = '-' by simpa using hdash] using hc)
  · intro c hc
    by_contra hdash
    exact h.last (by simpa [show c = '-' by simpa using hdash] using hc)

/-- The form of a slug in terms of its characters alone: ASCII letters and digits, hyphens, and ASCII
characters that are to be kept. -/
structure IsSlug (keep : Text) (lower : Bool) (t : Text) : Prop where
  chars : ∀ c ∈ t, isLetterOrDigit c = true ∨ c = '-' ∨ (isAscii c = true ∧ c ∈ keep)
  lowerCase : lower = true → ∀ c ∈ t, isUpperLetter c = false
  single : '-' ∉ keep → ¬ ['-', '-'] <:+: t
  head : t.head? ≠ some '-'
  last : t.getLast? ≠ some '-'

theorem keeps_iff {keep : Text} {c : Char} :
    keeps keep c = true ↔ isLetterOrDigit c = true ∨ c ∈ keep := by
  rw [keeps, Bool.or_eq_true, List.contains_iff_mem]

theorem keeps_hyphen_iff {keep : Text} : keeps keep '-' = false ↔ '-' ∉ keep := by
  rw [← Bool.not_eq_true, keeps_iff, not_or]
  exact and_iff_right Bool.false_ne_true

/-- The characters that are kept are those of the form of a slug. -/
theorem isNormal_iff {keep : Text} {lower : Bool} {t : Text} :
    IsNormal keep lower t ↔ IsSlug keep lower t := by
  constructor
  · intro h
    refine ⟨fun c hc => ?_, fun hlower c hc => ?_, fun hk => h.single (keeps_hyphen_iff.mpr hk),
      h.head, h.last⟩
    · rcases h.chars c hc with ⟨hascii, hkeep, -⟩ | hdash
      · exact (keeps_iff.mp hkeep).imp_right fun hmem => Or.inr ⟨hascii, hmem⟩
      · exact Or.inr (Or.inl hdash)
    · rcases h.chars c hc with hkept | rfl
      · exact hkept.2.2 hlower
      · rfl
  · intro h
    refine ⟨fun c hc => ?_, fun hk => h.single (keeps_hyphen_iff.mp hk), h.head, h.last⟩
    have hcase := fun hlower => h.lowerCase hlower c hc
    rcases h.chars c hc with hletter | hdash | ⟨hascii, hmem⟩
    · exact Or.inl ⟨isAscii_of_isLetterOrDigit hletter, keeps_iff.mpr (Or.inl hletter), hcase⟩
    · exact Or.inr hdash
    · exact Or.inl ⟨hascii, keeps_iff.mpr (Or.inr hmem), hcase⟩

/-- Making a slug is a projection onto the texts that have the form of one. -/
theorem ofText_projection (keep : Text) (lower : Bool) (t : Text) :
    IsSlug keep lower (ofText keep lower t) ∧
      (ofText keep lower t = t ↔ IsSlug keep lower t) ∧
      ofText keep lower (ofText keep lower t) = ofText keep lower t := by
  have hnormal : IsNormal keep lower (ofText keep lower t) := isNormal_ofText keep lower t
  refine ⟨isNormal_iff.mp hnormal, ⟨fun hfixed => ?_, fun hslug => ?_⟩, hnormal.ofText_eq_self⟩
  · rw [hfixed] at hnormal
    exact isNormal_iff.mp hnormal
  · exact (isNormal_iff.mpr hslug).ofText_eq_self

/-- A hyphen that is to be kept is no separator, and is taken away at the ends only. -/
example : ofText "-".toList false "-Fuß -- B-".toList = "Fuss----B".toList := rfl

/-- A slug of a path is its own slug. -/
theorem ofPath_ofPath (t : Text) : ofPath (ofPath t) = ofPath t :=
  (isNormal_ofText ['/'] true t).ofText_eq_self

/-! ## Headings -/

/-- The slug of a heading is made of lower-case letters, digits and hyphens. -/
theorem mem_ofHeading {t : Text} {c : Char} (h : c ∈ ofHeading t) :
    isLowerLetter c = true ∨ isDigit c = true ∨ c = '-' := by
  rcases (isNormal_ofText [] true t).chars c h with ⟨-, hkeep, hcase⟩ | hdash
  · have hupper := hcase rfl
    simp only [keeps, List.contains_nil, Bool.or_false, isLetterOrDigit, isLetter, hupper,
      Bool.or_eq_true] at hkeep
    rcases hkeep with hlower | hdigit
    · exact Or.inl hlower
    · exact Or.inr (Or.inl hdigit)
  · exact Or.inr (Or.inr hdash)

/-- Nothing is left of a heading exactly if its spelling in ASCII has no letter and no digit. -/
theorem ofHeading_eq_nil_iff {t : Text} :
    ofHeading t = [] ↔ ∀ c ∈ Folding.toAscii t, isLetterOrDigit c = false := by
  have hkeeps : ∀ c, keeps [] (lowerLetter c) = isLetterOrDigit c := fun c => by
    simp [keeps, isLetterOrDigit_lowerLetter]
  rw [← List.head?_eq_none_iff, ofHeading, ofText, head?_trim_collapse rfl, List.find?_eq_none,
    if_pos rfl, lowerAscii]
  simp [hkeeps]

/-- A slug of a heading is its own slug. -/
theorem ofHeading_ofHeading (t : Text) : ofHeading (ofHeading t) = ofHeading t :=
  (isNormal_ofText [] true t).ofText_eq_self

/-- A word: one or more lower-case letters and digits. -/
def IsWord (w : Text) : Prop := w ≠ [] ∧ ∀ c ∈ w, isLowerLetter c = true ∨ isDigit c = true

/-- One or more words, with a hyphen between each and the next. -/
def IsWordRow (t : Text) : Prop :=
  ∃ words : List Text, words ≠ [] ∧ (∀ w ∈ words, IsWord w) ∧ t = join ['-'] words

theorem IsWord.isWordRow {w : Text} (h : IsWord w) : IsWordRow w :=
  ⟨[w], by simp, by simpa using h, rfl⟩

/-- A word in front of a row, with a hyphen between them, is a row. -/
theorem IsWordRow.cons {w t : Text} (hw : IsWord w) (ht : IsWordRow t) :
    IsWordRow (w ++ '-' :: t) := by
  obtain ⟨words, hne, hwords, rfl⟩ := ht
  refine ⟨w :: words, by simp, ?_, ?_⟩
  · intro v hv
    rcases List.mem_cons.mp hv with rfl | hv
    · exact hw
    · exact hwords v hv
  · cases words with
    | nil => exact absurd rfl hne
    | cons v words => simp [join]

/-- A letter or digit in front of a row belongs to its first word. -/
theorem IsWordRow.cons_char {c : Char} {t : Text}
    (hc : isLowerLetter c = true ∨ isDigit c = true) (ht : IsWordRow t) : IsWordRow (c :: t) := by
  obtain ⟨words, hne, hwords, rfl⟩ := ht
  cases words with
  | nil => exact absurd rfl hne
  | cons w words =>
    refine ⟨(c :: w) :: words, by simp, ?_, ?_⟩
    · intro v hv
      rcases List.mem_cons.mp hv with rfl | hv
      · refine ⟨by simp, ?_⟩
        intro d hd
        rcases List.mem_cons.mp hd with rfl | hd
        · exact hc
        · exact (hwords w List.mem_cons_self).2 d hd
      · exact hwords v (List.mem_cons_of_mem w hv)
    · cases words <;> simp [join]

/-- A row goes on with a further word behind a hyphen. -/
theorem IsWordRow.concat {w t : Text} (ht : IsWordRow t) (hw : IsWord w) :
    IsWordRow (t ++ '-' :: w) := by
  obtain ⟨words, hne, hwords, rfl⟩ := ht
  induction words with
  | nil => exact absurd rfl hne
  | cons v words ih =>
    have hv := hwords v List.mem_cons_self
    cases words with
    | nil => exact IsWordRow.cons hv hw.isWordRow
    | cons u words =>
      have hrest := ih (by simp) fun x hx => hwords x (List.mem_cons_of_mem v hx)
      simpa [join] using IsWordRow.cons hv hrest

/-- Letters and digits with single hyphens inside are a row of words. -/
theorem isWordRow_of_chars : ∀ {t : Text}, t ≠ [] →
    (∀ c ∈ t, isLowerLetter c = true ∨ isDigit c = true ∨ c = '-') →
    ¬ ['-', '-'] <:+: t → t.head? ≠ some '-' → t.getLast? ≠ some '-' → IsWordRow t
  | [], hne, _, _, _, _ => absurd rfl hne
  | [c], _, hchars, _, hhead, _ => by
    have hdash : c ≠ '-' := by simpa using hhead
    have hc : isLowerLetter c = true ∨ isDigit c = true := by
      simpa [hdash] using hchars c List.mem_cons_self
    exact IsWord.isWordRow ⟨by simp, by simpa using hc⟩
  | c :: d :: t, _, hchars, hsingle, hhead, hlast => by
    have hdash : c ≠ '-' := by simpa using hhead
    have hc : isLowerLetter c = true ∨ isDigit c = true := by
      simpa [hdash] using hchars c List.mem_cons_self
    have hword : IsWord [c] := ⟨by simp, by simpa using hc⟩
    have hchars' : ∀ x ∈ d :: t, isLowerLetter x = true ∨ isDigit x = true ∨ x = '-' :=
      fun x hx => hchars x (List.mem_cons_of_mem c hx)
    have hsingle' : ¬ ['-', '-'] <:+: d :: t := fun hinf =>
      hsingle (List.infix_cons_iff.mpr (Or.inr hinf))
    have hlast' : (d :: t).getLast? ≠ some '-' := by simpa using hlast
    by_cases hd : d = '-'
    · -- a hyphen ends the first word, and the row goes on behind it
      subst hd
      have hne : t ≠ [] := by
        rintro rfl
        exact hlast rfl
      have hnext : t.head? ≠ some '-' := by
        intro hnext
        obtain ⟨t', rfl⟩ := List.head?_eq_some_iff.mp hnext
        exact hsingle' ⟨[], t', rfl⟩
      have hlast'' : t.getLast? ≠ some '-' := by
        intro hl
        apply hlast'
        rw [List.getLast?_cons, hl]
        rfl
      have hrest := isWordRow_of_chars hne
        (fun x hx => hchars' x (List.mem_cons_of_mem _ hx))
        (fun hinf => hsingle' (List.infix_cons_iff.mpr (Or.inr hinf))) hnext hlast''
      exact IsWordRow.cons hword hrest
    · have hrest := isWordRow_of_chars (List.cons_ne_nil d t) hchars' hsingle'
        (by simpa using hd) hlast'
      exact hrest.cons_char hc

/-- The slug of a heading with words in it is a row of words. -/
theorem isWordRow_ofHeading {t : Text} (h : ofHeading t ≠ []) : IsWordRow (ofHeading t) :=
  have hnormal := isNormal_ofText [] true t
  isWordRow_of_chars h (fun _ hc => mem_ofHeading hc) (hnormal.single rfl) hnormal.head
    hnormal.last

/-- What is spelled without letters and digits adds nothing to the slug of a heading that it stands
around. -/
theorem ofHeading_append {a b : Text}
    (ha : ∀ c ∈ Folding.toAscii a, isLetterOrDigit c = false)
    (hb : ∀ c ∈ Folding.toAscii b, isLetterOrDigit c = false) (t : Text) :
    ofHeading (a ++ t ++ b) = ofHeading t := by
  have hreject : ∀ {u : Text}, (∀ c ∈ u, isLetterOrDigit c = false) →
      ∀ c ∈ lowerAscii u, keeps [] c = false := by
    intro u hu c hc
    obtain ⟨d, hd, rfl⟩ := List.mem_map.mp hc
    rw [keeps, isLetterOrDigit_lowerLetter, hu d hd]
    rfl
  have h := trim_collapse_append (hreject ha) (hreject hb) (lowerAscii (Folding.toAscii t))
  have hsplit : lowerAscii (Folding.toAscii (a ++ t ++ b)) =
      lowerAscii (Folding.toAscii a) ++ lowerAscii (Folding.toAscii t) ++
        lowerAscii (Folding.toAscii b) := by
    simp only [Folding.toAscii_append, lowerAscii, List.map_append]
  simp only [ofHeading, ofText, if_true, hsplit, h]

/-- White space around a heading adds nothing to its slug. -/
theorem ofHeading_trim (t : Text) : ofHeading (trim t) = ofHeading t := by
  obtain ⟨a, b, heq, ha, hb⟩ := exists_eq_append_trimBy isBlank t
  have h := ofHeading_append (fun _ hc => Folding.not_letterOrDigit_of_mem_toAscii ha hc)
    (fun _ hc => Folding.not_letterOrDigit_of_mem_toAscii hb hc) (trimBy isBlank t)
  rw [← heq] at h
  exact h.symm

end Slug
end WikiMarkup
