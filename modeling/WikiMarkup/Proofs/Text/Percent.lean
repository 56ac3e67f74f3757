import WikiMarkup.Proofs.Text.Basic
import WikiMarkup.Text.Percent

/-!
# Laws of percent encoding

Without a percent sign nothing is decoded: such a text stands for itself, and decoding goes past it.
What is encoded as a word is written in the characters that are safe in a URL.
-/

namespace WikiMarkup
namespace Percent

open Text

/-- Outside an encoded character, any character but a percent sign stands for itself. -/
theorem decode_cons {c : Char} (hc : c ≠ '%') (t : Text) : decode (c :: t) = c :: decode t := by
  rw [decode, decodeFrom, if_neg (by simpa using hc)]
  by_cases hascii : isAscii c = true
  · have hbyte : Utf8.step none c.toNat = ([c], none) := by
      have hsmall : c.toNat < 0x80 := isAscii_iff.mp hascii
      simp [Utf8.step, Utf8.begin, Utf8.start, hsmall]
    simp only [hascii, hbyte, if_true]
    rfl
  · simp only [hascii, Utf8.finish]
    rfl

/-- Decoding goes past a text without a percent sign. -/
theorem decode_append {u : Text} (h : '%' ∉ u) (t : Text) : decode (u ++ t) = u ++ decode t := by
  induction u with
  | nil => rfl
  | cons c u ih =>
    rw [List.mem_cons, not_or] at h
    rw [List.cons_append, decode_cons (Ne.symm h.1), ih h.2, List.cons_append]

/-- A text without a percent sign stands for itself. -/
theorem decode_eq_self {t : Text} (h : '%' ∉ t) : decode t = t := by
  have happend := decode_append h []
  rw [List.append_nil] at happend
  rw [happend]
  exact List.append_nil t

/-! ## Words -/

theorem isLetterOrDigit_hexDigit {n : Nat} (h : n < 16) : isLetterOrDigit (hexDigit n) = true := by
  have hall : ((List.range 16).all fun n => isLetterOrDigit (hexDigit n)) = true := by decide
  exact List.all_eq_true.mp hall n (List.mem_range.mpr h)

/-- A byte is written with a percent sign and two hexadecimal digits. -/
theorem mem_encodeByte {b : Nat} (h : b < 256) {c : Char} (hc : c ∈ encodeByte b) :
    c = '%' ∨ isLetterOrDigit c = true := by
  simp only [encodeByte, List.mem_cons, List.not_mem_nil, or_false] at hc
  rcases hc with rfl | rfl | rfl
  · exact Or.inl rfl
  · exact Or.inr (isLetterOrDigit_hexDigit (by omega))
  · exact Or.inr (isLetterOrDigit_hexDigit (by omega))

/-- A word has only safe characters, but for the percent signs of bytes and the plus signs of
spaces. -/
theorem mem_encodeWord {t : Text} {c : Char} (h : c ∈ encodeWord t) :
    isUnreserved c = true ∨ c = '%' ∨ c = '+' := by
  obtain ⟨d, -, hc⟩ := List.mem_flatMap.mp h
  split at hc
  · exact Or.inr (Or.inr (List.mem_singleton.mp hc))
  · unfold encodeChar at hc
    split at hc
    · rename_i hsafe
      rw [List.mem_singleton.mp hc]
      exact Or.inl (by simpa using hsafe)
    · obtain ⟨b, hb, hc⟩ := List.mem_flatMap.mp hc
      obtain ⟨byte, -, rfl⟩ := List.mem_map.mp hb
      rcases mem_encodeByte byte.toNat_lt hc with hpercent | hchar
      · exact Or.inr (Or.inl hpercent)
      · left
        rw [isUnreserved, hchar, Bool.true_or]

end Percent
end WikiMarkup
