import WikiMarkup.Proofs.Text.Scan
import WikiMarkup.Text.Entity

/-!
# Laws of tags

Tags are stripped in one pass from left to right, and the text on both sides of a tag comes together
when the tag goes. No tag comes up there: a `<` that stays either has its `>` directly behind it, which
stays as well, or there is no `>` behind it at all.

* `strip_eq_iff`: what is stripped are whole tags, each at the first place where one begins.
* `strip_eq_self_iff`: a text without tags, and no other, is left as it is.
* `strip_leaves_no_tag`: nothing is left to strip.
-/

namespace WikiMarkup

namespace Tag

open Text

/-! ## Tags -/

/-- Whether a text is a tag: `<` and `>` with something in between that has no `>`. -/
def IsTag (tag : Text) : Prop := ∃ body, body ≠ [] ∧ '>' ∉ body ∧ tag = '<' :: (body ++ ['>'])

/-- Whether a tag stands somewhere in a text. -/
def HasTag (t : Text) : Prop := ∃ tag, IsTag tag ∧ tag <:+: t

/-- Whether a text begins with no tag. -/
def IsBlocked (t : Text) : Prop := ∀ tag, IsTag tag → ¬ tag <+: t

theorem IsTag.ne_nil {tag : Text} (h : IsTag tag) : tag ≠ [] := by
  obtain ⟨body, -, -, rfl⟩ := h
  exact List.cons_ne_nil _ _

theorem IsTag.head? {tag : Text} (h : IsTag tag) (rest : Text) :
    (tag ++ rest).head? = some '<' := by
  obtain ⟨body, -, -, rfl⟩ := h
  rfl

/-- The tag at the beginning of a text is measured. -/
theorem length?_eq_some_iff {t : Text} {n : Nat} :
    length? t = some n ↔ ∃ tag rest, IsTag tag ∧ t = tag ++ rest ∧ n = tag.length := by
  constructor
  · intro h
    unfold length? at h
    split at h
    · rename_i rest
      obtain ⟨hcond, hn⟩ := Option.ite_none_left_eq_some.mp h
      simp only [Bool.or_eq_true, List.isEmpty_iff, not_or] at hcond
      obtain ⟨hbody, hclosed⟩ := hcond
      -- there is something behind the part before the first `>`, so there is a `>`
      have hmem : '>' ∈ rest := by
        by_contra hopen
        rw [before_eq_self hopen, List.drop_length] at hclosed
        exact hclosed rfl
      obtain ⟨body, after, rfl, hopen⟩ := List.eq_append_cons_of_mem hmem
      rw [before_append hopen] at hbody hn
      refine ⟨'<' :: (body ++ ['>']), after, ⟨body, hbody, hopen, rfl⟩, by simp, ?_⟩
      simpa using (Option.some.inj hn).symm
    · cases h
  · rintro ⟨tag, rest, ⟨body, hne, hopen, rfl⟩, rfl, rfl⟩
    simp [length?, hne, before_append hopen]

theorem length?_eq_none_iff {t : Text} : length? t = none ↔ IsBlocked t := by
  rw [Option.eq_none_iff_forall_ne_some]
  constructor
  · rintro h tag htag ⟨rest, rfl⟩
    exact h tag.length (length?_eq_some_iff.mpr ⟨tag, rest, htag, rfl, rfl⟩)
  · intro h n hlength
    obtain ⟨tag, rest, htag, rfl, -⟩ := length?_eq_some_iff.mp hlength
    exact h tag htag (List.prefix_append tag rest)

/-- A `<` begins no tag if there is no `>` behind it or one directly behind it, and else it does. -/
theorem isBlocked_open_iff {t : Text} :
    IsBlocked ('<' :: t) ↔ '>' ∉ t ∨ t.head? = some '>' := by
  constructor
  · intro h
    by_contra hnot
    rw [not_or, not_not] at hnot
    obtain ⟨hclose, hhead⟩ := hnot
    obtain ⟨body, rest, rfl, hopen⟩ := List.eq_append_cons_of_mem hclose
    have hbody : body ≠ [] := by
      rintro rfl
      exact hhead rfl
    exact h ('<' :: (body ++ ['>'])) ⟨body, hbody, hopen, rfl⟩ ⟨rest, by simp⟩
  · rintro h tag ⟨body, hbody, hopen, rfl⟩ ⟨rest, hrest⟩
    obtain rfl : body ++ ['>'] ++ rest = t := (List.cons.inj hrest).2
    rcases h with hclose | hhead
    · exact hclose (by simp)
    · obtain ⟨c, body, rfl⟩ := List.exists_cons_of_ne_nil hbody
      cases hhead
      exact hopen List.mem_cons_self

/-! ## Stripping -/

/-- One pass from left to right: a tag is taken out where the text begins with one, and elsewhere a
character stays. -/
inductive Strips : Text → Text → Prop
  | nil : Strips [] []
  | keep {c : Char} {t s : Text} (h : IsBlocked (c :: t)) (rest : Strips t s) :
    Strips (c :: t) (c :: s)
  | drop {tag t s : Text} (h : IsTag tag) (rest : Strips t s) : Strips (tag ++ t) s

theorem strip_append {tag : Text} (h : IsTag tag) (t : Text) : strip (tag ++ t) = strip t := by
  have hlength : length? (tag ++ t) = some tag.length :=
    length?_eq_some_iff.mpr ⟨tag, t, h, rfl, rfl⟩
  have hfound : (length? (tag ++ t)).map (fun n => (([] : Text), n)) = some ([], tag.length) := by
    rw [hlength, Option.map_some]
  rw [strip, strip, replaceEach, replaceEach, scan, scan, scanFrom_found h.ne_nil hfound,
    List.flatMap_cons, scanFrom_congr_prev (fun _ _ _ => rfl) _ none]
  rfl

theorem strip_cons {c : Char} {t : Text} (h : IsBlocked (c :: t)) :
    strip (c :: t) = c :: strip t := by
  have hnone : (length? (c :: t)).map (fun n => (([] : Text), n)) = none := by
    rw [length?_eq_none_iff.mpr h, Option.map_none]
  rw [strip, strip, replaceEach, replaceEach, scan, scan, scanFrom_plain hnone,
    List.flatMap_cons, scanFrom_congr_prev (fun _ _ _ => rfl) _ none]
  rfl

theorem strips_strip (t : Text) : Strips t (strip t) := by
  induction hn : t.length using Nat.strong_induction_on generalizing t with
  | _ n ih =>
    cases t with
    | nil => exact .nil
    | cons c t =>
      cases hlength : length? (c :: t) with
      | none =>
        rw [length?_eq_none_iff] at hlength
        rw [strip_cons hlength]
        exact .keep hlength (ih t.length (by simp [← hn]) t rfl)
      | some m =>
        obtain ⟨tag, rest, htag, heq, -⟩ := length?_eq_some_iff.mp hlength
        have hpositive : 0 < tag.length := List.length_pos_of_ne_nil htag.ne_nil
        have hsum : n = tag.length + rest.length := by rw [← hn, heq, List.length_append]
        rw [heq, strip_append htag]
        exact .drop htag (ih rest.length (by omega) rest rfl)

/-- A text is stripped in one pass from left to right. -/
theorem strip_eq_iff {t s : Text} : strip t = s ↔ Strips t s := by
  constructor
  · rintro rfl
    exact strips_strip t
  · intro h
    induction h with
    | nil => rfl
    | keep hblocked _ ih => rw [strip_cons hblocked, ih]
    | drop htag _ ih => rw [strip_append htag, ih]

namespace Strips

variable {t s : Text}

theorem mem (h : Strips t s) {c : Char} (hc : c ∈ s) : c ∈ t := by
  induction h with
  | nil => exact hc
  | keep _ _ ih =>
    rcases List.mem_cons.mp hc with rfl | hrest
    · exact List.mem_cons_self
    · exact List.mem_cons_of_mem _ (ih hrest)
  | drop _ _ ih => exact List.mem_append_right _ (ih hc)

/-- A `>` at the beginning belongs to no tag. -/
theorem head?_close (h : Strips t s) (ht : t.head? = some '>') : s.head? = some '>' := by
  cases h with
  | nil => exact ht
  | keep _ _ => exact ht
  | drop htag _ =>
    rw [htag.head?] at ht
    cases ht

/-- Where no tag begins, none begins when what follows has been stripped. -/
theorem isBlocked (h : Strips t s) {c : Char} (hblocked : IsBlocked (c :: t)) :
    IsBlocked (c :: s) := by
  by_cases hc : c = '<'
  · subst hc
    rw [isBlocked_open_iff] at hblocked ⊢
    exact hblocked.imp (fun hopen hclose => hopen (h.mem hclose)) h.head?_close
  · rintro tag htag ⟨rest, hrest⟩
    have hhead := htag.head? rest
    rw [hrest] at hhead
    exact hc (Option.some.inj hhead)

/-- What is stripped has no tag. By induction on the pass: a tag that came up would begin with a
character that stays, and there none begins. -/
theorem not_hasTag (h : Strips t s) : ¬ HasTag s := by
  induction h with
  | nil =>
    rintro ⟨tag, htag, hpart⟩
    exact htag.ne_nil (List.eq_nil_of_infix_nil hpart)
  | keep hblocked rest ih =>
    rintro ⟨tag, htag, hpart⟩
    rcases List.infix_cons_iff.mp hpart with hstart | hlater
    · exact rest.isBlocked hblocked tag htag hstart
    · exact ih ⟨tag, htag, hlater⟩
  | drop _ _ ih => exact ih

end Strips

/-- A text without tags is all that stripping leaves alone. -/
theorem strip_eq_self_iff {t : Text} : strip t = t ↔ ¬ HasTag t := by
  constructor
  · intro h
    exact (strip_eq_iff.mp h).not_hasTag
  · intro h
    induction t with
    | nil => rfl
    | cons c t ih =>
      have hblocked : IsBlocked (c :: t) := fun tag htag hstart =>
        h ⟨tag, htag, hstart.isInfix⟩
      have hrest : ¬ HasTag t := by
        rintro ⟨tag, htag, hpart⟩
        exact h ⟨tag, htag, hpart.trans (List.suffix_cons c t).isInfix⟩
      rw [strip_cons hblocked, ih hrest]

/-- Stripping takes out whole tags, each where the pass comes upon one, and nothing else. No tag is
left then, not even one that has come up around a tag that went, so that there is nothing to strip a
second time. -/
theorem strip_leaves_no_tag (t : Text) :
    (∀ s, strip t = s ↔ Strips t s) ∧ ¬ HasTag (strip t) ∧ strip (strip t) = strip t := by
  have hnone : ¬ HasTag (strip t) := (strips_strip t).not_hasTag
  exact ⟨fun s => strip_eq_iff, hnone, strip_eq_self_iff.mpr hnone⟩

/-- Tags within tags, an empty pair of brackets, and a `<` without its `>`. -/
example : strip "<<a>b> <><b>x> <a".toList = "b> <>x> <a".toList := by decide

end Tag
end WikiMarkup
