import WikiMarkup.Conversion.Reference
import WikiMarkup.Conversion.Script
import WikiMarkup.Proofs.Text.Scan

/-!
# Laws of scripts and references

The form of a script, and where the parts of a script or a reference come from: all that a command is
given, and all of a target, is text of the page.
-/

namespace WikiMarkup

open Text

/-! ## Commands -/

namespace Command

theorem isNameChar_of_read {body : Text} {c : Command} (h : read body = some c) {d : Char}
    (hd : d ∈ c.name) : isNameChar d = true := by
  unfold read at h
  dsimp only at h
  split at h
  · cases h
  · split at h
    · obtain ⟨raw, -, rfl⟩ := Option.map_eq_some_iff.mp h
      exact List.mem_takeWhile_imp hd
    · cases h

theorem mem_of_readRaw {t raw : Text} (h : readRaw t = some raw) {d : Char} (hd : d ∈ raw) :
    d ∈ t := by
  unfold readRaw at h
  split at h
  · cases h
    cases hd
  · rename_i rest htrim
    cases h
    exact mem_of_mem_trimBy (htrim ▸ List.mem_cons_of_mem ':' hd)
  · rename_i rest htrim
    obtain ⟨-, heq⟩ := Option.ite_none_right_eq_some.mp h
    cases heq
    exact mem_of_mem_trimBy (htrim ▸ List.mem_cons_of_mem '(' (List.dropLast_subset rest hd))
  · cases h

/-- What a command is given is a part of the script. -/
theorem mem_of_mem_raw {body : Text} {c : Command} (h : read body = some c) {d : Char}
    (hd : d ∈ c.raw) : d ∈ body := by
  unfold read at h
  dsimp only at h
  split at h
  · cases h
  · split at h
    · obtain ⟨raw, hraw, rfl⟩ := Option.map_eq_some_iff.mp h
      have hdrop := mem_of_readRaw hraw (mem_of_mem_trimBy hd)
      exact mem_of_mem_trimBy (List.drop_subset _ _ hdrop)
    · cases h

theorem mem_of_mem_argument {raw arg : Text} (h : arg ∈ arguments raw) {d : Char} (hd : d ∈ arg) :
    d ∈ raw := by
  rw [arguments] at h
  split at h
  · cases h
  · obtain ⟨part, hpart, rfl⟩ := List.mem_map.mp h
    have hflat := List.mem_flatten.mpr ⟨part, hpart, mem_of_mem_trimBy hd⟩
    rw [flatten_splitOn] at hflat
    exact (List.mem_filter.mp hflat).1

/-- The arguments of a command hold all that it is given, but for commas and white space. -/
theorem mem_arguments_iff {raw : Text} {d : Char} (hblank : isBlank d = false) (hcomma : d ≠ ',') :
    (∃ arg ∈ arguments raw, d ∈ arg) ↔ d ∈ raw := by
  constructor
  · rintro ⟨arg, harg, hd⟩
    exact mem_of_mem_argument harg hd
  · intro hd
    have hflat : d ∈ (raw.splitOn ',').flatten := by
      rw [flatten_splitOn]
      exact List.mem_filter.mpr ⟨hd, by simpa using hcomma⟩
    obtain ⟨part, hpart, hmem⟩ := List.mem_flatten.mp hflat
    refine ⟨trim part, ?_, (mem_trimBy_iff hblank).mpr hmem⟩
    rw [arguments, if_neg (by simp [List.ne_nil_of_mem hd])]
    exact List.mem_map_of_mem hpart

end Command

/-! ## Scripts -/

namespace Script

/-- A script is a text of its own in braces, with neither braces nor line feeds in it. -/
theorem recognise_eq_some_iff {prev : Option Char} {t : Text} {s : Script} {n : Nat} :
    recognise prev t = some (s, n) ↔
      s.body ≠ [] ∧ (∀ c ∈ s.body, isBodyChar c = true) ∧
        s.source = '\x7b' :: '\x7b' :: s.body ++ ['\x7d', '\x7d'] ∧
        n = s.source.length ∧ s.source <+: t := by
  constructor
  · intro h
    unfold recognise at h
    split at h
    · rename_i rest
      dsimp only at h
      have hbody : ∀ c ∈ rest.takeWhile isBodyChar, isBodyChar c = true := fun c hc =>
        List.mem_takeWhile_imp hc
      obtain ⟨after, hafter⟩ : rest.takeWhile isBodyChar <+: rest := List.takeWhile_prefix isBodyChar
      generalize rest.takeWhile isBodyChar = body at h hbody hafter
      rw [← hafter, List.drop_left] at h
      split at h
      · rename_i c body after
        cases h
        have hscript : '\x7b' :: '\x7b' :: rest =
            ('\x7b' :: '\x7b' :: (c :: body) ++ ['\x7d', '\x7d']) ++ after := by
          rw [← hafter]
          simp
        have hsource : ('\x7b' :: '\x7b' :: rest).take ((c :: body).length + 4) =
            '\x7b' :: '\x7b' :: (c :: body) ++ ['\x7d', '\x7d'] := by
          rw [hscript, List.take_left' (by simp)]
        rw [hafter, hsource]
        exact ⟨List.cons_ne_nil c body, hbody, rfl, by simp, after, hscript.symm⟩
      · cases h
    · cases h
  · rintro ⟨hne, hbody, hsource, rfl, rest, rfl⟩
    obtain ⟨source, body⟩ := s
    dsimp only at hne hbody hsource ⊢
    subst hsource
    have hread := (takeWhile_append_stop (t := '\x7d' :: '\x7d' :: rest) hbody
      (by simp [isBodyChar])).1
    have htext : '\x7b' :: '\x7b' :: body ++ ['\x7d', '\x7d'] ++ rest =
        '\x7b' :: '\x7b' :: (body ++ '\x7d' :: '\x7d' :: rest) := by simp
    have htake : ('\x7b' :: '\x7b' :: body ++ ['\x7d', '\x7d'] ++ rest).take (body.length + 4) =
        '\x7b' :: '\x7b' :: body ++ ['\x7d', '\x7d'] := List.take_left' (by simp)
    rw [htext] at htake ⊢
    rw [recognise, hread, List.drop_left, htake]
    obtain ⟨c, body, rfl⟩ := List.exists_cons_of_ne_nil hne
    simp

theorem recognise_eq_none {c : Char} (h : c ≠ '\x7b') (prev : Option Char) (rest : Text) :
    recognise prev (c :: rest) = none := by
  unfold recognise
  split
  · rename_i heq
    exact absurd (List.cons.inj heq).1 h
  · rfl

theorem source_eq_take {prev : Option Char} {t : Text} {s : Script} {n : Nat}
    (h : recognise prev t = some (s, n)) : s.source = t.take n := by
  obtain ⟨-, -, -, rfl, hprefix⟩ := recognise_eq_some_iff.mp h
  exact List.prefix_iff_eq_take.mp hprefix

theorem mem_of_mem_body {prev : Option Char} {t : Text} {s : Script} {n : Nat}
    (h : recognise prev t = some (s, n)) {d : Char} (hd : d ∈ s.body) : d ∈ t := by
  obtain ⟨-, -, hsource, -, hprefix⟩ := recognise_eq_some_iff.mp h
  apply hprefix.subset
  rw [hsource]
  exact List.mem_append_left _ (List.mem_cons_of_mem _ (List.mem_cons_of_mem _ hd))

end Script

/-! ## References -/

/-- The token of a reference. -/
def Reference.token (r : Reference) : Text := trim r.target

/-- A reference as it is written. -/
def Reference.source (r : Reference) : Text :=
  "[[".toList ++ (r.target ++ (r.label.elim [] ('|' :: ·) ++ "]]".toList))

/-- A reference is found where it is written. -/
theorem Reference.source_of_recognise {prev : Option Char} {t : Text} {r : Reference} {n : Nat}
    (h : recognise prev t = some (r, n)) : r.source <+: t ∧ n = r.source.length := by
  unfold recognise at h
  split at h
  · rename_i rest
    dsimp only at h
    obtain ⟨behind, hbehind⟩ : rest.takeWhile (fun c => c != ']' && c != '|') <+: rest :=
      List.takeWhile_prefix _
    generalize rest.takeWhile (fun c => c != ']' && c != '|') = target at h hbehind
    subst hbehind
    rw [List.drop_left] at h
    split at h
    · cases h
    -- behind the target the reference is closed, or a bar opens the label
    · split at h
      · rename_i rest
        cases h
        refine ⟨⟨rest, ?_⟩, ?_⟩
        · simp [source]
        · simp [source]
      · rename_i rest
        obtain ⟨behind, hbehind⟩ : before ']' rest <+: rest := List.takeWhile_prefix _
        generalize before ']' rest = label at h hbehind
        subst hbehind
        rw [List.drop_left] at h
        split at h
        · rename_i c label rest
          cases h
          refine ⟨⟨rest, ?_⟩, ?_⟩
          · simp [source]
          · simp [source]
            omega
        · cases h
      · cases h
  · cases h

theorem Reference.recognise_eq_none {c : Char} (h : c ≠ '[') (prev : Option Char) (rest : Text) :
    recognise prev (c :: rest) = none := by
  unfold recognise
  split
  · rename_i heq
    exact absurd (List.cons.inj heq).1 h
  · rfl

theorem Reference.mem_of_mem_token {prev : Option Char} {t : Text} {r : Reference} {n : Nat}
    (h : recognise prev t = some (r, n)) {d : Char} (hd : d ∈ r.token) : d ∈ t := by
  have htarget : d ∈ r.target := mem_of_mem_trimBy hd
  exact (source_of_recognise h).1.subset
    (List.mem_append_right _ (List.mem_append_left _ htarget))

end WikiMarkup
