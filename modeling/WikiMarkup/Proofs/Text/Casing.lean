import WikiMarkup.Proofs.Text.Folding
import WikiMarkup.Text.Casing

/-!
# Laws of letter case

Case is a matter of letters. A few characters beyond ASCII have a lower-case form in ASCII, and each of
these forms is a letter; so a sign of ASCII that is no letter stands in a text in lower case if and only
if it stood in the text before.
-/

namespace WikiMarkup
namespace Casing

open Text

/-! ## The tables -/

theorem lowerExpansions_all_letters :
    (lowerExpansions.all fun entry =>
      entry.2.toList.all fun c => !isAscii c || isLetter c) = true := by
  decide

/-- A run of letters is in ASCII, or leads to characters beyond ASCII, or is one letter that leads to a
letter. -/
theorem lowerRuns_all_letters :
    (lowerRuns.all fun (first, last, _, shift) =>
      decide (last < 128) ||
        (decide (128 ≤ first + shift) &&
          (decide (last + shift < 0xD800) ||
            (decide (0xDFFF < first + shift) && decide (last + shift < 0x110000)))) ||
        (first == last && isLetter (Char.ofNat (first + shift).toNat))) = true := by
  decide

/-! ## Signs that are no letters -/

/-- The form in the runs of a character beyond ASCII is beyond ASCII too, or it is a letter. -/
theorem isLetter_of_shifted? {c d : Char} (hd : isAscii d = false)
    (h : shifted? lowerRuns d = some c) (hc : isAscii c = true) : isLetter c = true := by
  obtain ⟨⟨first, last, step, shift⟩, hfind, rfl⟩ := Option.map_eq_some_iff.mp h
  have hrange := List.find?_some hfind
  have hrun := List.all_eq_true.mp lowerRuns_all_letters _ (List.mem_of_find?_eq_some hfind)
  simp only [Bool.and_eq_true, Bool.or_eq_true, decide_eq_true_eq, beq_iff_eq] at hrange hrun
  have hcode : ¬ d.toNat < 128 := by
    rw [← isAscii_iff, hd]
    exact Bool.false_ne_true
  dsimp only at hc ⊢
  rcases hrun with (hascii | ⟨hlow, hhigh⟩) | ⟨hsingle, hletter⟩
  · omega
  · -- the form is a character of its own, with the code that the run gives it
    have hvalid : ((d.toNat : Int) + shift).toNat.isValidChar := by
      rcases hhigh with h | ⟨h, h'⟩
      · left
        omega
      · right
        constructor <;> omega
    rw [isAscii_iff, Char.toNat_ofNat, if_pos hvalid] at hc
    omega
  · have heq : d.toNat = first := by omega
    rw [heq]
    exact hletter

/-- What a character beyond ASCII becomes in lower case is beyond ASCII, or letters. -/
theorem isLetter_of_mem_convert {c d : Char} (hd : isAscii d = false)
    (h : c ∈ convert lowerExpansions lowerRuns d) (hc : isAscii c = true) : isLetter c = true := by
  rw [convert] at h
  split at h
  · rename_i form hform
    have hentry := List.all_eq_true.mp lowerExpansions_all_letters _ (Folding.mem_of_lookup hform)
    have hletter := List.all_eq_true.mp hentry c h
    simpa [hc] using hletter
  · rw [List.mem_singleton] at h
    cases hshift : shifted? lowerRuns d with
    | none =>
      rw [hshift, Option.getD_none] at h
      rw [h, hd] at hc
      cases hc
    | some form =>
      rw [hshift, Option.getD_some] at h
      exact isLetter_of_shifted? hd (h ▸ hshift) hc

/-- A sign is in the lower-case form of a character only if it is the character. -/
theorem mem_lowerChar_iff {c d : Char} (hascii : isAscii c = true) (hletter : isLetter c = false) :
    c ∈ lowerChar d ↔ c = d := by
  rw [lowerChar]
  split
  · rw [List.mem_singleton, eq_comm, lowerLetter_eq_iff hletter, eq_comm]
  · rename_i hd
    rw [Bool.not_eq_true] at hd
    constructor
    · intro h
      rw [isLetter_of_mem_convert hd h hascii] at hletter
      cases hletter
    · rintro rfl
      rw [hascii] at hd
      cases hd

theorem mem_lowerFrom_iff {c : Char} (hascii : isAscii c = true) (hletter : isLetter c = false)
    (past t : Text) : c ∈ lowerFrom past t ↔ c ∈ t := by
  induction t generalizing past with
  | nil => rfl
  | cons d t ih =>
    rw [lowerFrom, List.mem_append, List.mem_cons, ih]
    apply or_congr_left
    split
    · -- neither sigma is in ASCII, and the capital one is not either
      rename_i hd
      have hne : ∀ sigma, isAscii sigma = false → c ≠ sigma := by
        rintro sigma hsigma rfl
        rw [hascii] at hsigma
        cases hsigma
      rw [beq_iff_eq.mp hd]
      constructor
      · intro h
        split at h <;> exact absurd (List.mem_singleton.mp h) (hne _ rfl)
      · intro h
        exact absurd h (hne _ rfl)
    · exact mem_lowerChar_iff hascii hletter

/-- Lower case neither makes a sign of ASCII that is no letter nor takes one away. -/
theorem mem_lower_iff {c : Char} (hascii : isAscii c = true) (hletter : isLetter c = false)
    (t : Text) : c ∈ lower t ↔ c ∈ t :=
  mem_lowerFrom_iff hascii hletter [] t

end Casing
end WikiMarkup
