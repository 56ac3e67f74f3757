import WikiMarkup.Proofs.Text.Basic
import WikiMarkup.Text.Digit

/-!
# Laws of decimal numbers

A number is read back from its decimal digits, so no two numbers are written alike.
-/

namespace WikiMarkup
namespace Digit

open Text

/-- The decimal writing of a number is made of ASCII digits. -/
theorem isDigit_of_mem_write {n : Nat} {c : Char} (h : c ∈ write n) : isDigit c = true := by
  have hdigit : c.isDigit = true := Nat.isDigit_of_mem_toDigits (by decide) (by decide) h
  have hcode := Char.isDigit_iff_toNat.mp hdigit
  exact isDigit_iff.mpr hcode

/-- The writing of an integer is made of ASCII digits and perhaps a sign. -/
theorem isDigit_or_of_mem_writeInt {n : Int} {c : Char} (h : c ∈ writeInt n) :
    isDigit c = true ∨ c = '-' := by
  cases n with
  | ofNat n => exact Or.inl (isDigit_of_mem_write h)
  | negSucc n =>
    rcases List.mem_cons.mp h with rfl | hdigit
    · exact Or.inr rfl
    · exact Or.inl (isDigit_of_mem_write hdigit)

/-- An ASCII digit stands for its distance from zero. -/
theorem value?_of_isDigit {c : Char} (h : isDigit c = true) : value? c = some (c.toNat - 48) := by
  have hcode := isDigit_iff.mp h
  have hzero : (decide (0x30 ≤ c.toNat) && decide (c.toNat ≤ 0x30 + 9)) = true := by
    simp only [Bool.and_eq_true, decide_eq_true_eq]
    omega
  rw [value?, zeros, List.find?_cons, hzero]
  rfl

theorem isDecimal_of_isDigit {c : Char} (h : isDigit c = true) : isDecimal c = true := by
  rw [isDecimal, value?_of_isDigit h]
  rfl

theorem isDecimal_of_mem_write {n : Nat} {c : Char} (h : c ∈ write n) : isDecimal c = true :=
  isDecimal_of_isDigit (isDigit_of_mem_write h)

theorem write_ne_nil (n : Nat) : write n ≠ [] := Nat.toDigits_ne_nil

/-- A digit stands for its distance from the zero of its script. -/
theorem value?_eq_some {c : Char} {v : Nat} (h : value? c = some v) :
    ∃ first ∈ zeros, c.toNat = first + v ∧ v < 10 := by
  obtain ⟨first, hfind, rfl⟩ := Option.map_eq_some_iff.mp h
  have hrange := List.find?_some hfind
  rw [Bool.and_eq_true, decide_eq_true_eq, decide_eq_true_eq] at hrange
  exact ⟨first, List.mem_of_find?_eq_some hfind, by omega, by omega⟩

/-- The digits of every script lie between the characters that are white space. -/
theorem zeros_all_not_blank :
    (zeros.all fun first =>
      (0x20 < first && first + 9 < 0x85) || (0xA0 < first && first + 9 < 0x1680) ||
        (0x1680 < first && first + 9 < 0x2000) || (0x205F < first && first + 9 < 0x3000) ||
        decide (0x3000 < first)) = true := by
  decide

/-- A decimal digit is no white space. -/
theorem isBlank_of_isDecimal {c : Char} (h : isDecimal c = true) : isBlank c = false := by
  obtain ⟨v, hvalue⟩ := Option.isSome_iff_exists.mp h
  obtain ⟨first, hfirst, hcode, hlt⟩ := value?_eq_some hvalue
  have hplace := List.all_eq_true.mp zeros_all_not_blank _ hfirst
  simp only [Bool.or_eq_true, Bool.and_eq_true, decide_eq_true_eq] at hplace
  rw [Bool.eq_false_iff, ne_eq]
  simp only [isBlank, Bool.or_eq_true, Bool.and_eq_true, decide_eq_true_eq, beq_iff_eq]
  omega

theorem zeros_all_not_lower :
    (zeros.all fun first => decide (first + 9 < 97) || decide (122 < first)) = true := by
  decide

/-- A decimal digit is no letter of a language. -/
theorem isLowerLetter_of_isDecimal {c : Char} (h : isDecimal c = true) :
    isLowerLetter c = false := by
  obtain ⟨v, hvalue⟩ := Option.isSome_iff_exists.mp h
  obtain ⟨first, hfirst, hcode, hlt⟩ := value?_eq_some hvalue
  have hplace := List.all_eq_true.mp zeros_all_not_lower _ hfirst
  rw [Bool.or_eq_true, decide_eq_true_eq, decide_eq_true_eq] at hplace
  rw [Bool.eq_false_iff, ne_eq, isLowerLetter_iff]
  omega

/-- A row of ASCII digits stands for the number that they are the digits of. -/
theorem number_eq_ofDigitChars {digits : Text} (h : ∀ c ∈ digits, isDigit c = true) :
    number digits = Nat.ofDigitChars 10 digits 0 := by
  rw [number, Nat.ofDigitChars]
  apply List.foldl_ext
  intro n c hc
  rw [value?_of_isDigit (h c hc)]
  rfl

/-- The decimal writing of a number stands for the number. -/
theorem number_write (n : Nat) : number (write n) = n := by
  rw [number_eq_ofDigitChars fun c hc => isDigit_of_mem_write hc, write]
  exact Nat.ofDigitChars_ten_toDigits

theorem write_injective : Function.Injective write := by
  intro m n h
  rw [← number_write m, h, number_write]

/-- A number has at most `k` digits exactly if it is below the `k`-th power of ten. -/
theorem length_write_le_iff {n k : Nat} (hk : 0 < k) : (write n).length ≤ k ↔ n < 10 ^ k :=
  Nat.length_toDigits_le_iff (by decide) hk

/-! ## Ways of writing a number -/

/-- Whether a row of digits is a way of writing a number: from its end on it has the digits of the
number, each in any script, and then nothing but zeros. -/
def Writes (digits : Text) (n : Nat) : Prop :=
  digits ≠ [] ∧ ∃ zeros, digits.reverse.map value? =
    (Nat.digits 10 n ++ List.replicate zeros 0).map some

/-- Whether a sign and a row of digits are a way of writing a whole number. Zero takes any sign. -/
def WritesInt (sign digits : Text) (n : Int) : Prop :=
  Writes digits n.natAbs ∧ (sign = ['-'] ∧ n ≤ 0 ∨ (sign = [] ∨ sign = ['+']) ∧ 0 ≤ n)

theorem WritesInt.sign {sign digits : Text} {n : Int} (h : WritesInt sign digits n) :
    sign = [] ∨ sign = ['+'] ∨ sign = ['-'] := by
  rcases h.2 with ⟨rfl, -⟩ | ⟨rfl | rfl, -⟩
  · exact Or.inr (Or.inr rfl)
  · exact Or.inl rfl
  · exact Or.inr (Or.inl rfl)

/-- A row of digits stands for the number whose digits, from the last on, are theirs. -/
theorem number_eq_ofDigits (digits : Text) :
    number digits = Nat.ofDigits 10 (digits.reverse.map fun c => (value? c).getD 0) := by
  rw [number, Nat.ofDigits_eq_foldr, List.foldr_map, List.foldr_reverse]
  apply List.foldl_ext
  intro n c _
  exact Nat.add_comm _ _

/-- A row of decimal digits is a way of writing the number that it stands for, and no other. -/
theorem writes_iff {digits : Text} {n : Nat} :
    Writes digits n ↔
      digits ≠ [] ∧ (∀ c ∈ digits, isDecimal c = true) ∧ number digits = n := by
  constructor
  · rintro ⟨hne, zeros, hvalues⟩
    refine ⟨hne, fun c hc => ?_, ?_⟩
    · have hmem : value? c ∈ digits.reverse.map value? :=
        List.mem_map_of_mem (List.mem_reverse.mpr hc)
      rw [hvalues] at hmem
      obtain ⟨v, -, hv⟩ := List.mem_map.mp hmem
      rw [isDecimal, ← hv, Option.isSome_some]
    · have hdigits : (digits.reverse.map fun c => (value? c).getD 0) =
          Nat.digits 10 n ++ List.replicate zeros 0 := by
        have hgot := congrArg (List.map fun v? : Option Nat => v?.getD 0) hvalues
        simpa [Function.comp_def] using hgot
      rw [number_eq_ofDigits, hdigits, Nat.ofDigits_append_replicate_zero, Nat.ofDigits_digits]
  · rintro ⟨hne, hdecimal, rfl⟩
    -- a list of digits is told by its length and its number, so it ends with zeros
    let values : List Nat := digits.reverse.map fun c => (value? c).getD 0
    have hvalues : digits.reverse.map value? = values.map some := by
      rw [List.map_map]
      apply List.map_congr_left
      intro c hc
      obtain ⟨v, hv⟩ := Option.isSome_iff_exists.mp (hdecimal c (List.mem_reverse.mp hc))
      simp [hv]
    have hsmall : ∀ v ∈ values, v < 10 := by
      intro v hv
      obtain ⟨c, hc, rfl⟩ := List.mem_map.mp hv
      obtain ⟨v, hv⟩ := Option.isSome_iff_exists.mp (hdecimal c (List.mem_reverse.mp hc))
      obtain ⟨-, -, -, hlt⟩ := value?_eq_some hv
      simpa [hv] using hlt
    have hpadded : Nat.digitsAppend 10 values.length (Nat.ofDigits 10 values) = values :=
      (Nat.setInvOn_digitsAppend_ofDigits (by decide) values.length).1 ⟨rfl, hsmall⟩
    rw [Nat.digitsAppend] at hpadded
    exact ⟨hne, _, by rw [hvalues, number_eq_ofDigits, hpadded]⟩

end Digit
end WikiMarkup
