import WikiMarkup.Proofs.Text.Decomposition

/-!
# The tables of spellings

The tables that a character is folded by hold the ASCII characters among the parts of the composed
characters. That none of these is left out is checked on sets of code points, which are compared by
their binary digits.

* `spelling_eq_filter_expand`: the spelling of a character is what its decomposition has of ASCII.
-/

namespace WikiMarkup
namespace Folding

open Text Decomposition

/-- What a table gives for a key is the value of one of its entries. -/
theorem mem_of_lookup {α β : Type} [BEq α] [LawfulBEq α] {k : α} {v : β} :
    ∀ {l : List (α × β)}, l.lookup k = some v → (k, v) ∈ l
  | [], h => by cases h
  | (k', v') :: l, h => by
    rw [List.lookup_cons] at h
    split at h
    · rename_i heq
      obtain rfl := beq_iff_eq.mp heq
      cases h
      exact List.mem_cons_self
    · exact List.mem_cons_of_mem _ (mem_of_lookup h)

/-! ## Customary spellings -/

theorem customary_all_ascii : (customary.all fun e => e.2.toList.all isAscii) = true := by
  decide

theorem customary_all_beyond : (customary.all fun e => !isAscii e.1) = true := by
  decide

theorem spelling_of_customary {c : Char} {letters : String}
    (h : customary.lookup c = some letters) : spelling c = letters.toList := by
  simp [spelling, h]

theorem isAscii_of_mem_customary {c d : Char} {letters : String}
    (h : customary.lookup c = some letters) (hd : d ∈ letters.toList) : isAscii d = true := by
  have hall := List.all_eq_true.mp customary_all_ascii _ (mem_of_lookup h)
  exact List.all_eq_true.mp hall d hd

theorem not_isAscii_of_customary {c : Char} {letters : String}
    (h : customary.lookup c = some letters) : isAscii c = false := by
  simpa using List.all_eq_true.mp customary_all_beyond _ (mem_of_lookup h)

/-! ## The other tables -/

theorem alphabets_all_expand :
    (alphabets.all fun e => (List.range (e.2.1 + 1 - e.1)).all fun i =>
      (expand (Char.ofNat (e.1 + i))).filter isAscii == [Char.ofNat (e.2.2.toNat + i)]) = true := by
  decide +kernel

theorem supplementary_all_expand :
    (supplementary.all fun e =>
      (expand (Char.ofNat e.1)).filter isAscii == e.2.toList) = true := by
  decide +kernel

/-- Whether a table of texts holds the given rows, character by character. -/
def HasRows (table : List (String × String)) (rows : List (Text × Text)) : Prop :=
  table = rows.map fun row => (String.ofList row.1, String.ofList row.2)

theorem HasRows.nil : HasRows [] [] := rfl

theorem HasRows.cons {letters forms : Text} {table : List (String × String)}
    {rows : List (Text × Text)} (h : HasRows table rows) :
    HasRows ((String.ofList letters, String.ofList forms) :: table) ((letters, forms) :: rows) := by
  rw [HasRows, List.map_cons, h]

/-- The code points with a spelling, for the rows of `variants`. -/
def spelledPoints (rows : List (Text × Text)) : List Nat :=
  (alphabets.flatMap fun e => List.range' e.1 (e.2.1 + 1 - e.1)) ++
    (rows.flatMap fun row => row.2.map Char.toNat) ++ supplementary.map (·.1)

/-- A set of numbers, as the number whose binary digits tell its members. -/
def bits (l : List Nat) : Nat := l.foldr (fun n m => 1 <<< n ||| m) 0

theorem testBit_bits {l : List Nat} {n : Nat} : (bits l).testBit n = true ↔ n ∈ l := by
  induction l with
  | nil => simp [bits]
  | cons m l ih =>
    have hcons : bits (m :: l) = 1 <<< m ||| bits l := rfl
    rw [hcons, Nat.testBit_or, Bool.or_eq_true, ih, List.mem_cons, Nat.one_shiftLeft,
      Nat.testBit_two_pow, decide_eq_true_eq, eq_comm]

set_option maxRecDepth 4000 in
/-- The rows of `variants` agree with the decompositions, and no composed character with an ASCII
part is left out of the tables. -/
theorem exists_variantRows :
    ∃ rows, HasRows variants rows ∧
      (rows.all fun row => row.2.all fun c => (expand c).filter isAscii == row.1) = true ∧
      (entries.all fun e =>
        (e.2.all fun m => Nat.ble 128 m) || (bits (spelledPoints rows)).testBit e.1) = true := by
  apply Exists.intro
  refine ⟨?rows, ?agree, ?covered⟩
  case rows =>
    -- the rows are read off the literals, as decoding these in the kernel takes long
    dsimp only [variants]
    repeat first | exact HasRows.nil | apply HasRows.cons
  case agree => decide +kernel
  case covered => decide +kernel

theorem filter_expand_of_alphabet {first last : Nat} {letter c : Char}
    (he : (first, last, letter) ∈ alphabets) (hc : first ≤ c.toNat ∧ c.toNat ≤ last) :
    (expand c).filter isAscii = [Char.ofNat (letter.toNat + (c.toNat - first))] := by
  have hplace : c.toNat - first ∈ List.range (last + 1 - first) := by
    rw [List.mem_range]
    omega
  have hall := List.all_eq_true.mp alphabets_all_expand _ he
  have h := List.all_eq_true.mp hall _ hplace
  rwa [Nat.add_sub_cancel' hc.1, Char.ofNat_toNat, beq_iff_eq] at h

theorem filter_expand_of_variant {letters forms : String} {c : Char}
    (he : (letters, forms) ∈ variants) (hc : c ∈ forms.toList) :
    (expand c).filter isAscii = letters.toList := by
  obtain ⟨rows, hrows, hagree, -⟩ := exists_variantRows
  rw [hrows] at he
  obtain ⟨row, hrow, heq⟩ := List.mem_map.mp he
  obtain ⟨rfl, rfl⟩ := Prod.mk.inj heq
  rw [String.toList_ofList] at hc ⊢
  have hall := List.all_eq_true.mp hagree row hrow
  exact beq_iff_eq.mp (List.all_eq_true.mp hall c hc)

theorem filter_expand_of_supplementary {letters : String} {c : Char}
    (he : (c.toNat, letters) ∈ supplementary) : (expand c).filter isAscii = letters.toList := by
  simpa [Char.ofNat_toNat] using List.all_eq_true.mp supplementary_all_expand _ he

/-- A character beyond ASCII that has ASCII characters among its parts is in one of the tables. -/
theorem isSpelled_of_filter_expand {c : Char} (hc : isAscii c = false)
    (h : (expand c).filter isAscii ≠ []) :
    (∃ e ∈ alphabets, e.1 ≤ c.toNat ∧ c.toNat ≤ e.2.1) ∨ (∃ e ∈ variants, c ∈ e.2.toList) ∨
      ∃ e ∈ supplementary, e.1 = c.toNat := by
  obtain ⟨parts, hparts, m, hm, hlt⟩ := exists_ascii_part hc h
  obtain ⟨rows, hrows, -, hcovered⟩ := exists_variantRows
  have hentry := List.all_eq_true.mp hcovered _ (mem_entries_of_parts? hparts)
  have hpart : (parts.all fun m => Nat.ble 128 m) = false := by
    rw [List.all_eq_false]
    exact ⟨m, hm, by simpa using hlt⟩
  rw [hpart, Bool.false_or, testBit_bits, spelledPoints, List.mem_append, List.mem_append] at hentry
  rcases hentry with (halphabet | hvariant) | hsupplementary
  · obtain ⟨e, he, hn⟩ := List.mem_flatMap.mp halphabet
    rw [List.mem_range'_1] at hn
    exact .inl ⟨e, he, by omega⟩
  · obtain ⟨row, hrow, hn⟩ := List.mem_flatMap.mp hvariant
    obtain ⟨d, hd, hdc⟩ := List.mem_map.mp hn
    obtain rfl : d = c := Char.toNat_inj.mp hdc
    refine .inr (.inl ⟨(String.ofList row.1, String.ofList row.2), ?_, ?_⟩)
    · rw [hrows]
      exact List.mem_map_of_mem hrow
    · rwa [String.toList_ofList]
  · obtain ⟨e, he, hn⟩ := List.mem_map.mp hsupplementary
    exact .inr (.inr ⟨e, he, hn⟩)

/-- The spelling of a character is what its decomposition has of ASCII. -/
theorem spelling_eq_filter_expand {c : Char} (hc : isAscii c = false)
    (hcustom : customary.lookup c = none) : spelling c = (expand c).filter isAscii := by
  simp only [spelling, hcustom]
  split
  · rename_i first last letter hfind
    have hin := List.find?_some hfind
    rw [filter_expand_of_alphabet (List.mem_of_find?_eq_some hfind) (by simpa using hin)]
  · rename_i halphabet
    split
    · rename_i letters forms hfind
      have hin := List.find?_some hfind
      rw [filter_expand_of_variant (List.mem_of_find?_eq_some hfind) (List.contains_iff_mem.mp hin)]
    · rename_i hvariant
      split
      · rename_i letters hlook
        rw [filter_expand_of_supplementary (mem_of_lookup hlook)]
      · rename_i hsupplementary
        -- a character that no table has is left out, and has no part of ASCII
        by_contra hne
        rcases isSpelled_of_filter_expand hc (Ne.symm hne) with ⟨e, he, hn⟩ | ⟨e, he, hn⟩ | ⟨e, he, hn⟩
        · simpa [hn] using List.find?_eq_none.mp halphabet e he
        · simpa [hn] using List.find?_eq_none.mp hvariant e he
        · simpa [hn] using List.lookup_eq_none_iff.mp hsupplementary e he

end Folding
end WikiMarkup
