import WikiMarkup.Proofs.Text.Tag
import WikiMarkup.Text.Entity

/-!
# Laws of character references

A text that has been escaped for HTML holds no tags, and reading its references gives the text back.
-/

namespace WikiMarkup
namespace Entity

open Text

/-- The characters that are escaped. -/
def isEscaped (c : Char) : Bool := c == '&' || c == '<' || c == '>' || c == '"' || c == '\''

theorem escapeChar_eq_self {c : Char} (h : isEscaped c = false) : escapeChar c = [c] := by
  simp only [isEscaped, Bool.or_eq_false_iff] at h
  simp [escapeChar, h]

theorem eq_of_isEscaped {c : Char} (h : isEscaped c = true) :
    c = '&' ∨ c = '<' ∨ c = '>' ∨ c = '"' ∨ c = '\'' := by
  simpa [isEscaped, or_assoc] using h

theorem escape_cons (c : Char) (t : Text) : escape (c :: t) = escapeChar c ++ escape t := by
  simp [escape]

/-- Of the characters that are escaped, an escaped text holds only the ampersand. -/
theorem not_mem_escape {c : Char} (hc : isEscaped c = true) (hamp : c ≠ '&') (t : Text) :
    c ∉ escape t := by
  intro h
  obtain ⟨d, -, hd⟩ := List.mem_flatMap.mp h
  cases hesc : isEscaped d with
  | false =>
    rw [escapeChar_eq_self hesc, List.mem_singleton] at hd
    rw [hd, hesc] at hc
    cases hc
  | true =>
    -- the references are made of letters, digits, a number sign and the two marks around them
    have hall : (escapeChar d).all (fun x => !isEscaped x || x == '&') = true := by
      rcases eq_of_isEscaped hesc with rfl | rfl | rfl | rfl | rfl <;> rfl
    have hmark := List.all_eq_true.mp hall c hd
    rw [hc, Bool.not_true, Bool.false_or, beq_iff_eq] at hmark
    exact hamp hmark

/-- Stripping tags leaves an escaped text alone. -/
theorem strip_escape (t : Text) : Tag.strip (escape t) = escape t := by
  rw [Tag.strip_eq_self_iff]
  rintro ⟨tag, ⟨body, -, -, rfl⟩, hpart⟩
  exact not_mem_escape rfl (by decide) t (hpart.subset List.mem_cons_self)

/-- Scanning an escaped text finds the reference of each character that is escaped, and nothing
else. -/
theorem scanFrom_escape {α : Type} {find : Recogniser α} {value : Char → α}
    (hfound : ∀ prev c rest, isEscaped c = true →
      find prev (escapeChar c ++ rest) = some (value c, (escapeChar c).length))
    (hnone : ∀ prev c rest, c ≠ '&' → find prev (c :: rest) = none) (prev : Option Char)
    (t : Text) :
    scanFrom find prev 0 (escape t) =
      t.map fun c => if isEscaped c then .found (value c) else .plain c := by
  induction t generalizing prev with
  | nil => rfl
  | cons c t ih =>
    rw [escape_cons, List.map_cons]
    cases hesc : isEscaped c with
    | false =>
      have hne : c ≠ '&' := by
        rintro rfl
        cases hesc
      rw [escapeChar_eq_self hesc, List.cons_append, List.nil_append,
        scanFrom_plain (hnone prev c _ hne), ih]
      rfl
    | true =>
      have hnonempty : escapeChar c ≠ [] := by
        rcases eq_of_isEscaped hesc with rfl | rfl | rfl | rfl | rfl <;> decide
      rw [scanFrom_found hnonempty (hfound prev c _ hesc), ih]
      rfl

theorem lenient_escapeChar (prev : Option Char) (c : Char) (rest : Text)
    (h : isEscaped c = true) :
    lenient prev (escapeChar c ++ rest) = some ([c], (escapeChar c).length) := by
  rcases eq_of_isEscaped h with rfl | rfl | rfl | rfl | rfl <;> rfl

theorem lenient_eq_none (prev : Option Char) (c : Char) (rest : Text) (h : c ≠ '&') :
    lenient prev (c :: rest) = none := by
  unfold lenient
  split
  · rename_i heq
    exact absurd (List.cons.inj heq).1 h
  · rename_i heq
    exact absurd (List.cons.inj heq).1 h
  · rfl

/-- No number in an escaped text is too long. -/
theorem overlong?_escape (t : Text) : overlong? (escape t) = none := by
  simp only [overlong?, scan]
  rw [scanFrom_escape (fun prev c rest h => ?_) (fun prev c rest h => ?_) none t]
  · rw [List.findSome?_eq_none_iff]
    intro piece hpiece
    obtain ⟨c, -, rfl⟩ := List.mem_map.mp hpiece
    cases isEscaped c <;> rfl
  · rcases eq_of_isEscaped h with rfl | rfl | rfl | rfl | rfl <;> rfl
  · rw [lenient_eq_none prev c rest h]
    rfl

/-- Reading the references of an escaped text gives the text back. -/
theorem unescape_escape (t : Text) : unescape (escape t) = .ok t := by
  have hpieces : (t.map fun c => if isEscaped c then Piece.found [c] else .plain c).flatMap
      (Piece.text id) = t := by
    induction t with
    | nil => rfl
    | cons c t ih =>
      rw [List.map_cons, List.flatMap_cons, ih]
      cases isEscaped c <;> rfl
  have hscan := scanFrom_escape lenient_escapeChar lenient_eq_none none t
  rw [unescape, overlong?_escape, replaceEach, scan, hscan, hpieces]

end Entity
end WikiMarkup
