import WikiMarkup.Proofs.Text.Basic
import WikiMarkup.Text.Decomposition

/-!
# Laws of decomposition

Putting marks in order is a series of exchanges of two marks beside each other, and it ends where no
two are left to exchange. Only marks change places, so the letters stay where they are.

* `normalize_append_iff`: the decompositions of two texts make up the decomposition of the whole
  exactly if the marks on both sides of the seam are in order.
* `filter_isAscii_normalize`: the ASCII characters of the decomposition are those of the parts of
  each character, in the order of the text.
-/

namespace WikiMarkup
namespace Decomposition

open Text Relation

/-! ## Parts -/

/-- The composed characters of all blocks, each with its parts. -/
def entries : List (Nat × List Nat) :=
  areas.flatMap fun area => area.2.flatMap fun block => block.2

theorem mem_entries_of_parts? {n : Nat} {parts : List Nat} (h : parts? n = some parts) :
    (n, parts) ∈ entries := by
  rw [parts?, Option.bind_eq_some_iff] at h
  obtain ⟨area, harea, h⟩ := h
  obtain ⟨block, hblock, h⟩ := Option.bind_eq_some_iff.mp h
  obtain ⟨⟨point, parts'⟩, hentry, rfl⟩ := Option.map_eq_some_iff.mp h
  have hpoint := List.find?_some hentry
  obtain rfl : point = n := Nat.eq_of_beq_eq_true hpoint
  exact List.mem_flatMap.mpr ⟨area, List.mem_of_find?_eq_some harea,
    List.mem_flatMap.mpr ⟨block, List.mem_of_find?_eq_some hblock,
      List.mem_of_find?_eq_some hentry⟩⟩

/-- No character of ASCII is composed. -/
theorem entries_all_beyond : (entries.all fun e => Nat.ble 128 e.1) = true := by
  decide +kernel

theorem parts?_eq_none {n : Nat} (h : n < 128) : parts? n = none := by
  rw [Option.eq_none_iff_forall_ne_some]
  intro parts hparts
  have hbeyond := List.all_eq_true.mp entries_all_beyond _ (mem_entries_of_parts? hparts)
  exact absurd h (Nat.not_lt.mpr (Nat.le_of_ble_eq_true hbeyond))

theorem expand_of_syllable {c : Char} (h : isSyllable c.toNat = true) :
    expand c = (jamo c.toNat).map Char.ofNat := by
  rw [expand, if_pos h]

theorem expand_of_parts {c : Char} {parts : List Nat} (hnot : isSyllable c.toNat = false)
    (h : parts? c.toNat = some parts) : expand c = parts.map Char.ofNat := by
  simp [expand, hnot, h]

theorem expand_of_no_parts {c : Char} (hnot : isSyllable c.toNat = false)
    (h : parts? c.toNat = none) : expand c = [c] := by
  simp [expand, hnot, h]

theorem not_isSyllable_of_lt {n : Nat} (h : n < 0xAC00) : isSyllable n = false := by
  simp only [isSyllable, Bool.and_eq_false_iff, decide_eq_false_iff_not]
  omega

theorem expand_eq_self_of_isAscii {c : Char} (h : isAscii c = true) : expand c = [c] := by
  rw [isAscii_iff] at h
  exact expand_of_no_parts (not_isSyllable_of_lt (by omega)) (parts?_eq_none h)

theorem mem_jamo {n m : Nat} (hn : isSyllable n = true) (hm : m ∈ jamo n) :
    0x1100 ≤ m ∧ m < 0x1200 := by
  simp only [isSyllable, Bool.and_eq_true, decide_eq_true_eq] at hn
  simp only [jamo] at hm
  split at hm
  · simp only [List.mem_cons, List.not_mem_nil, or_false] at hm
    omega
  · simp only [List.mem_append, List.mem_cons, List.not_mem_nil, or_false] at hm
    omega

/-- The parts of a composed character are characters. -/
theorem entries_all_valid :
    (entries.all fun e => e.2.all fun m =>
      m.blt 0xD800 || (Nat.ble 0xE000 m && m.blt 0x110000)) = true := by
  decide +kernel

theorem part_isValidChar {n m : Nat} {parts : List Nat} (h : parts? n = some parts)
    (hm : m ∈ parts) : m.isValidChar := by
  have hall := List.all_eq_true.mp entries_all_valid _ (mem_entries_of_parts? h)
  have hpart := List.all_eq_true.mp hall m hm
  simp only [Bool.and_eq_true, Bool.or_eq_true, Nat.ble_eq, Nat.blt_eq] at hpart
  unfold Nat.isValidChar
  omega

/-- A part is a consonant or a vowel of a Hangul syllable, the character itself, or one of the parts
in the tables. -/
theorem mem_expand_cases {c d : Char} (h : d ∈ expand c) :
    (0x1100 ≤ d.toNat ∧ d.toNat < 0x1200) ∨ d = c ∨
      ∃ parts, parts? c.toNat = some parts ∧ d.toNat ∈ parts := by
  cases hsyllable : isSyllable c.toNat with
  | true =>
    rw [expand_of_syllable hsyllable] at h
    obtain ⟨m, hm, rfl⟩ := List.mem_map.mp h
    obtain ⟨hfirst, hlast⟩ := mem_jamo hsyllable hm
    have hvalid : m.isValidChar := .inl (by omega)
    rw [Char.toNat_ofNat, if_pos hvalid]
    exact .inl ⟨hfirst, hlast⟩
  | false =>
    cases hparts : parts? c.toNat with
    | none =>
      rw [expand_of_no_parts hsyllable hparts, List.mem_singleton] at h
      exact .inr (.inl h)
    | some parts =>
      rw [expand_of_parts hsyllable hparts] at h
      obtain ⟨m, hm, rfl⟩ := List.mem_map.mp h
      rw [Char.toNat_ofNat, if_pos (part_isValidChar hparts hm)]
      exact .inr (.inr ⟨parts, rfl, hm⟩)

/-- A character beyond ASCII that has an ASCII character among its parts is in the tables. -/
theorem exists_ascii_part {c : Char} (hc : isAscii c = false)
    (h : (expand c).filter isAscii ≠ []) :
    ∃ parts, parts? c.toNat = some parts ∧ ∃ m ∈ parts, m < 128 := by
  obtain ⟨d, hd⟩ := List.exists_mem_of_ne_nil _ h
  obtain ⟨hmem, hascii⟩ := List.mem_filter.mp hd
  have hlt : d.toNat < 128 := isAscii_iff.mp hascii
  rcases mem_expand_cases hmem with hjamo | rfl | ⟨parts, hparts, hd⟩
  · omega
  · rw [hc] at hascii
    cases hascii
  · exact ⟨parts, hparts, d.toNat, hd, hlt⟩

/-! ## Exchanges -/

/-- Two marks beside each other in the wrong order change places. -/
inductive Exchange : Text → Text → Prop
  | swap (left : Text) {c d : Char} (right : Text) (h : isReorderable c d = true) :
      Exchange (left ++ c :: d :: right) (left ++ d :: c :: right)

/-- Whether no two marks beside each other are in the wrong order. -/
def IsOrdered (t : Text) : Prop := t.IsChain fun c d => isReorderable c d = false

theorem isReorderable_iff {c d : Char} :
    isReorderable c d = true ↔ 0 < combiningClass d ∧ combiningClass d < combiningClass c := by
  simp [isReorderable]

theorem isReorderable_flip {c d : Char} (h : isReorderable c d = true) :
    isReorderable d c = false := by
  rw [isReorderable_iff] at h
  rw [Bool.eq_false_iff, ne_eq, isReorderable_iff]
  omega

theorem isReorderable_trans {c d e : Char} (hcd : isReorderable c d = true)
    (hde : isReorderable d e = true) : isReorderable c e = true := by
  rw [isReorderable_iff] at hcd hde ⊢
  omega

theorem place_cons_of_reorderable {c d : Char} (h : isReorderable c d = true) (t : Text) :
    place c (d :: t) = d :: place c t := by
  simp [place, h]

theorem place_cons_of_not {c d : Char} (h : isReorderable c d = false) (t : Text) :
    place c (d :: t) = c :: d :: t := by
  simp [place, h]

theorem Exchange.cons (c : Char) {t u : Text} (h : Exchange t u) :
    Exchange (c :: t) (c :: u) := by
  obtain ⟨left, right, hpair⟩ := h
  exact Exchange.swap (c :: left) right hpair

theorem exchanges_cons (c : Char) {t u : Text} (h : ReflTransGen Exchange t u) :
    ReflTransGen Exchange (c :: t) (c :: u) :=
  h.lift (c :: ·) fun _ _ => Exchange.cons c

/-- A character goes to its place by exchanges. -/
theorem exchanges_place (c : Char) (t : Text) :
    ReflTransGen Exchange (c :: t) (place c t) := by
  -- the induction is on the text that `c` goes into, one exchange for each mark that it passes
  induction t with
  | nil => exact .refl
  | cons d t ih =>
    cases h : isReorderable c d with
    | false => rw [place_cons_of_not h]
    | true =>
      rw [place_cons_of_reorderable h]
      have hswap : Exchange (c :: d :: t) (d :: c :: t) := Exchange.swap [] t h
      exact .head hswap (exchanges_cons d ih)

theorem exchanges_reorder (t : Text) : ReflTransGen Exchange t (reorder t) := by
  induction t with
  | nil => exact .refl
  | cons c t ih => exact (exchanges_cons c ih).trans (exchanges_place c (reorder t))

/-- What each exchange leaves as it is, a series of them leaves as it is. -/
theorem eq_of_exchanges {α : Type} {f : Text → α} (hstep : ∀ {t u}, Exchange t u → f t = f u)
    {t u : Text} (h : ReflTransGen Exchange t u) : f t = f u := by
  induction h with
  | refl => rfl
  | tail _ hlast ih => rw [ih, hstep hlast]

/-! ## The order -/

theorem mem_head?_place {c d : Char} {t : Text} (h : d ∈ (place c t).head?) :
    d = c ∨ d ∈ t.head? := by
  cases t with
  | nil => exact .inl (Option.some.inj h).symm
  | cons e t =>
    cases hpair : isReorderable c e with
    | false =>
      rw [place_cons_of_not hpair] at h
      exact .inl (Option.some.inj h).symm
    | true =>
      rw [place_cons_of_reorderable hpair] at h
      exact .inr h

/-- In an ordered text a character is put where it does not disturb the order. -/
theorem isOrdered_place (c : Char) {t : Text} (h : IsOrdered t) : IsOrdered (place c t) := by
  induction t with
  | nil => exact .singleton c
  | cons d t ih =>
    cases hpair : isReorderable c d with
    | false =>
      rw [place_cons_of_not hpair]
      exact List.isChain_cons_cons.mpr ⟨hpair, h⟩
    | true =>
      rw [place_cons_of_reorderable hpair]
      obtain ⟨hhead, htail⟩ := List.isChain_cons.mp h
      refine List.isChain_cons.mpr ⟨fun e he => ?_, ih htail⟩
      rcases mem_head?_place he with rfl | he
      · exact isReorderable_flip hpair
      · exact hhead e he

theorem isOrdered_reorder (t : Text) : IsOrdered (reorder t) := by
  induction t with
  | nil => exact .nil
  | cons c t ih => exact isOrdered_place c ih

theorem place_eq_cons {c : Char} {t : Text} (h : IsOrdered (c :: t)) : place c t = c :: t := by
  cases t with
  | nil => rfl
  | cons d t => exact place_cons_of_not (List.isChain_cons_cons.mp h).1 t

/-- An ordered text is left as it is. -/
theorem reorder_eq_self {t : Text} (h : IsOrdered t) : reorder t = t := by
  induction t with
  | nil => rfl
  | cons c t ih =>
    have hrest : reorder t = t := ih (List.isChain_cons.mp h).2
    calc reorder (c :: t) = place c (reorder t) := rfl
      _ = c :: t := by rw [hrest, place_eq_cons h]

/-- Two marks in the wrong order come to the same places, whichever of them is put in first. -/
theorem place_place {c d : Char} (h : isReorderable c d = true) (t : Text) :
    place c (place d t) = place d (place c t) := by
  induction t with
  | nil =>
    calc place c [d] = [d, c] := place_cons_of_reorderable h []
      _ = place d [c] := (place_cons_of_not (isReorderable_flip h) []).symm
  | cons e t ih =>
    cases hde : isReorderable d e with
    | true =>
      have hce : isReorderable c e = true := isReorderable_trans h hde
      simp only [place_cons_of_reorderable hde, place_cons_of_reorderable hce, ih]
    | false =>
      rw [place_cons_of_not hde, place_cons_of_reorderable h]
      -- `d` stays in front of `e`, and in front of `c` if that does not go behind `e`
      cases hce : isReorderable c e with
      | true => rw [place_cons_of_reorderable hce, place_cons_of_not hde]
      | false => rw [place_cons_of_not hce, place_cons_of_not (isReorderable_flip h)]

theorem reorder_append (t u : Text) : reorder (t ++ u) = t.foldr place (reorder u) := by
  simp [reorder]

/-- An exchange does not change what the text is ordered to. -/
theorem Exchange.foldr_place {t u : Text} (h : Exchange t u) (rest : Text) :
    t.foldr place rest = u.foldr place rest := by
  obtain ⟨left, right, hpair⟩ := h
  simp only [List.foldr_append, List.foldr_cons, place_place hpair]

theorem foldr_place_of_exchanges {t u : Text} (h : ReflTransGen Exchange t u) (rest : Text) :
    t.foldr place rest = u.foldr place rest :=
  eq_of_exchanges (fun hstep => hstep.foldr_place rest) h

/-! ## Two texts -/

/-- What is in order already may be put in order before the rest comes to it. -/
theorem reorder_append_reorder (t u : Text) :
    reorder (t ++ u) = reorder (reorder t ++ reorder u) := by
  rw [reorder_append, reorder_append, reorder_eq_self (isOrdered_reorder u),
    foldr_place_of_exchanges (exchanges_reorder t)]

theorem normalize_append (t u : Text) :
    normalize (t ++ u) = reorder (normalize t ++ normalize u) := by
  rw [normalize, List.flatMap_append, reorder_append_reorder]
  rfl

/-- The decompositions of two texts make up the decomposition of the whole exactly if the mark at the
end of the first and the one at the beginning of the second are not in the wrong order. -/
theorem normalize_append_iff {t u : Text} :
    normalize (t ++ u) = normalize t ++ normalize u ↔
      ∀ c ∈ (normalize t).getLast?, ∀ d ∈ (normalize u).head?, isReorderable c d = false := by
  have ht : IsOrdered (normalize t) := isOrdered_reorder _
  have hu : IsOrdered (normalize u) := isOrdered_reorder _
  rw [normalize_append]
  constructor
  · intro h
    have hordered : IsOrdered (normalize t ++ normalize u) := h ▸ isOrdered_reorder _
    exact (List.isChain_append.mp hordered).2.2
  · intro hseam
    exact reorder_eq_self (List.isChain_append.mpr ⟨ht, hu, hseam⟩)

/-! ## ASCII characters -/

theorem classes_all_beyond : (classes.all fun e => decide (128 ≤ e.1)) = true := by
  decide +kernel

theorem combiningClass_eq_zero {c : Char} (h : isAscii c = true) : combiningClass c = 0 := by
  rw [isAscii_iff] at h
  unfold combiningClass
  split
  · rename_i first last number hfind
    have hin := List.find?_some hfind
    have hall := List.all_eq_true.mp classes_all_beyond _ (List.mem_of_find?_eq_some hfind)
    simp only [Bool.and_eq_true, decide_eq_true_eq] at hin hall
    omega
  · rfl

/-- Both marks that change places are beyond ASCII. -/
theorem not_isAscii_of_reorderable {c d : Char} (h : isReorderable c d = true) :
    isAscii c = false ∧ isAscii d = false := by
  rw [isReorderable_iff] at h
  constructor
  · refine Bool.eq_false_iff.mpr fun hc => ?_
    have hzero := combiningClass_eq_zero hc
    omega
  · refine Bool.eq_false_iff.mpr fun hd => ?_
    have hzero := combiningClass_eq_zero hd
    omega

/-- An exchange leaves the ASCII characters as they are. -/
theorem Exchange.filter_isAscii {t u : Text} (h : Exchange t u) :
    t.filter isAscii = u.filter isAscii := by
  obtain ⟨left, right, hpair⟩ := h
  obtain ⟨hc, hd⟩ := not_isAscii_of_reorderable hpair
  simp [hc, hd]

theorem filter_isAscii_of_exchanges {t u : Text} (h : ReflTransGen Exchange t u) :
    t.filter isAscii = u.filter isAscii :=
  eq_of_exchanges Exchange.filter_isAscii h

/-- The ASCII characters of a decomposed text come from the parts of each character by itself. -/
theorem filter_isAscii_normalize (t : Text) :
    (normalize t).filter isAscii = t.flatMap fun c => (expand c).filter isAscii := by
  calc (normalize t).filter isAscii
      = (t.flatMap expand).filter isAscii :=
        (filter_isAscii_of_exchanges (exchanges_reorder _)).symm
    _ = t.flatMap fun c => (expand c).filter isAscii := List.filter_flatMap ..

end Decomposition
end WikiMarkup
