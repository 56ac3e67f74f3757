import WikiMarkup.Proofs.Text.FoldingTable

/-!
# Laws of folding

A folded text is ASCII, and a text in ASCII is left alone. White space has no letter or digit in its
spelling, so it separates the words of a text after folding as it did before.

* `toAscii_eq_filter_normalize`: folding, which goes character by character, gives the ASCII
  characters of the decomposed text.
* `toAscii_compositional`: the spelling of a text is put together from those of its parts, although
  its decomposition is not.
-/

namespace WikiMarkup
namespace Folding

open Text Decomposition

theorem fold_eq_self {c : Char} (h : isAscii c = true) : fold c = [c] := by
  simp [fold, h]

theorem toAscii_append (s t : Text) : toAscii (s ++ t) = toAscii s ++ toAscii t := by
  simp [toAscii]

/-- A text in ASCII is its own spelling. -/
theorem toAscii_eq_self {t : Text} (h : ∀ c ∈ t, isAscii c = true) : toAscii t = t := by
  induction t with
  | nil => rfl
  | cons c t ih =>
    have hc : fold c = [c] := fold_eq_self (h c List.mem_cons_self)
    have ht : toAscii t = t := ih fun d hd => h d (List.mem_cons_of_mem c hd)
    rw [toAscii, List.flatMap_cons, hc, ← toAscii, ht]
    rfl

/-! ## Folding and decomposition -/

/-- A character is folded to the ASCII characters that its customary spelling is built from. -/
theorem fold_eq_flatMap (c : Char) :
    fold c = (customarySpelling c).flatMap fun d => (expand d).filter isAscii := by
  unfold fold customarySpelling
  cases hcustom : customary.lookup c with
  | some letters =>
    have hletters : ∀ d ∈ letters.toList, (expand d).filter isAscii = [d] := by
      intro d hd
      have hascii := isAscii_of_mem_customary hcustom hd
      simp [expand_eq_self_of_isAscii hascii, hascii]
    rw [not_isAscii_of_customary hcustom, if_neg Bool.false_ne_true, spelling_of_customary hcustom,
      List.flatMap_congr hletters, List.flatMap_singleton']
  | none =>
    cases hascii : isAscii c with
    | true => simp [expand_eq_self_of_isAscii hascii, hascii]
    | false => simp [spelling_eq_filter_expand hascii hcustom]

/-- The ASCII spelling of a text is what its decomposition has of ASCII, once the letters that are
built from no others have their customary spelling. -/
theorem toAscii_eq_filter_normalize (t : Text) :
    toAscii t = (normalize (spellOut t)).filter isAscii := by
  calc toAscii t = t.flatMap fun c => (customarySpelling c).flatMap fun d =>
        (expand d).filter isAscii := List.flatMap_congr fun c _ => fold_eq_flatMap c
    _ = (spellOut t).flatMap fun d => (expand d).filter isAscii := List.flatMap_assoc.symm
    _ = (normalize (spellOut t)).filter isAscii := (filter_isAscii_normalize _).symm

theorem isAscii_of_mem_toAscii {t : Text} {d : Char} (h : d ∈ toAscii t) : isAscii d = true := by
  rw [toAscii_eq_filter_normalize] at h
  exact (List.mem_filter.mp h).2

/-- The ASCII spellings of two texts make up the spelling of the whole, and a text in ASCII is its own
spelling. The decomposition that the spelling is taken from has the first law only where no marks
change places across the seam: the marks that do are beyond ASCII, and are left out. -/
theorem toAscii_compositional :
    (∀ t, toAscii t = (normalize (spellOut t)).filter isAscii) ∧
      (∀ s t, toAscii (s ++ t) = toAscii s ++ toAscii t) ∧
      (∀ t, (∀ c ∈ t, isAscii c = true) → toAscii t = t) ∧
      (∀ s t, normalize (s ++ t) = normalize s ++ normalize t ↔
        ∀ c ∈ (normalize s).getLast?, ∀ d ∈ (normalize t).head?, isReorderable c d = false) ∧
      ∃ s t, normalize (s ++ t) ≠ normalize s ++ normalize t := by
  refine ⟨toAscii_eq_filter_normalize, toAscii_append, fun t => toAscii_eq_self,
    fun s t => normalize_append_iff, ?_⟩
  -- an acute accent changes places with a dot below
  refine ⟨['e', '\u0301'], ['\u0323'], fun h => ?_⟩
  have hs : normalize ['e', '\u0301'] = ['e', '\u0301'] := rfl
  have ht : normalize ['\u0323'] = ['\u0323'] := rfl
  have hpair : isReorderable '\u0301' '\u0323' = true := rfl
  rw [normalize_append_iff, hs, ht] at h
  have hseam : isReorderable '\u0301' '\u0323' = false := h _ rfl _ rfl
  rw [hpair] at hseam
  cases hseam

/-- A letter is spelled, and the marks that change places behind it are left out. -/
theorem toAscii_compositional_marks :
    toAscii (['e', '\u0301'] ++ ['\u0323', 'ß']) = ['e'] ++ ['s', 's'] ∧
      normalize (['e', '\u0301'] ++ ['\u0323', 'ß']) = ['e', '\u0323', '\u0301', 'ß'] ∧
      (∀ c ∈ ['\x00', 'A', '\x7f'], isAscii c = true) ∧
      toAscii ['\x00', 'A', '\x7f'] = ['\x00', 'A', '\x7f'] := by
  obtain ⟨hspelling, happend, hself, -, -⟩ := toAscii_compositional
  have hascii : ∀ c ∈ ['\x00', 'A', '\x7f'], isAscii c = true := by simp [isAscii]
  refine ⟨?_, rfl, hascii, hself _ hascii⟩
  rw [happend, hspelling, hspelling]
  rfl

/-! ## White space -/

theorem customary_all_not_blank : (customary.all fun e => !isBlank e.1) = true := by
  decide

/-- The white space beyond ASCII. -/
def wideBlanks : List Nat :=
  List.range' 0x2000 11 ++ [0x85, 0xA0, 0x1680, 0x2028, 0x2029, 0x202F, 0x205F, 0x3000]

theorem mem_wideBlanks {c : Char} (hc : isBlank c = true) (hascii : isAscii c = false) :
    c.toNat ∈ wideBlanks := by
  rw [Bool.eq_false_iff, ne_eq, isAscii_iff] at hascii
  simp only [isBlank, Bool.or_eq_true, Bool.and_eq_true, decide_eq_true_eq, beq_iff_eq] at hc
  simp only [wideBlanks, List.mem_append, List.mem_range'_1, List.mem_cons, List.not_mem_nil,
    or_false]
  omega

theorem wideBlanks_all_signs :
    (wideBlanks.all fun n =>
      ((expand (Char.ofNat n)).filter isAscii).all fun d => !isLetterOrDigit d) = true := by
  rfl

/-- A white space character beyond ASCII is spelled by signs, if it is spelled at all. -/
theorem not_letterOrDigit_of_mem_spelling {c d : Char} (hc : isBlank c = true)
    (hascii : isAscii c = false) (h : d ∈ spelling c) : isLetterOrDigit d = false := by
  have hcustom : customary.lookup c = none := by
    rw [Option.eq_none_iff_forall_ne_some]
    intro letters hlook
    have hall := List.all_eq_true.mp customary_all_not_blank _ (mem_of_lookup hlook)
    simp [hc] at hall
  rw [spelling_eq_filter_expand hascii hcustom] at h
  have hall := List.all_eq_true.mp wideBlanks_all_signs _ (mem_wideBlanks hc hascii)
  rw [Char.ofNat_toNat] at hall
  simpa using List.all_eq_true.mp hall d h

/-- White space has no letter and no digit in its spelling. -/
theorem not_letterOrDigit_of_mem_toAscii {t : Text} (h : ∀ c ∈ t, isBlank c = true) {d : Char}
    (hd : d ∈ toAscii t) : isLetterOrDigit d = false := by
  obtain ⟨c, hc, hdc⟩ := List.mem_flatMap.mp hd
  have hblank := h c hc
  unfold fold at hdc
  split at hdc
  · rw [List.mem_singleton] at hdc
    subst hdc
    simp only [isBlank, Bool.or_eq_true, Bool.and_eq_true, decide_eq_true_eq, beq_iff_eq]
      at hblank
    rw [Bool.eq_false_iff, ne_eq, isLetterOrDigit, isLetter, Bool.or_eq_true, Bool.or_eq_true,
      isLowerLetter_iff, isUpperLetter_iff, isDigit_iff]
    omega
  · rename_i hascii
    exact not_letterOrDigit_of_mem_spelling hblank (Bool.eq_false_iff.mpr hascii) hdc

end Folding
end WikiMarkup
