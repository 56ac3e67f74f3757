import WikiMarkup.Link.Resolve
import WikiMarkup.Proofs.Text.Slug

/-!
# Laws of anchors

An anchor is the common mark and a row of words. The heading of a section, the name by which another
page links to it and a link on the page itself each have a way to the anchor of their own; those of the
two links are the same, and an anchor is the name of its own section.
-/

namespace WikiMarkup

open Text

namespace Anchor

/-- A link to a section of the same page leads to the anchor of the section that it names. -/
theorem ofLink_cons (name : Text) : ofLink ('#' :: name) = ofSection name := by
  have hdrop : dropPrefix? ('#' :: mark) ('#' :: name) = dropPrefix? mark name := if_pos rfl
  rw [ofLink, ofSection, hdrop]
  cases dropPrefix? mark name with
  | some rest => rfl
  | none =>
    -- without the mark the link is made a slug together with its number sign
    have hsign : ∀ c ∈ Folding.toAscii ['#'], isLetterOrDigit c = false := by
      intro c hc
      obtain rfl : c = '#' := List.mem_singleton.mp hc
      rfl
    have hslug := Slug.ofHeading_append hsign (b := []) nofun name
    rw [List.append_nil, List.singleton_append] at hslug
    rw [Option.getD_none, Option.getD_none, hslug]

end Anchor

namespace Link

/-- An anchor is made of lower-case letters, digits and hyphens. -/
theorem mem_anchor {title : Text} {c : Char} (h : c ∈ Anchor.mark ++ Slug.ofHeading title) :
    isLowerLetter c = true ∨ isDigit c = true ∨ c = '-' := by
  rcases List.mem_append.mp h with hmark | hslug
  · have hall : Anchor.mark.all (fun c => isLowerLetter c || c == '-') = true := rfl
    have hc := List.all_eq_true.mp hall c hmark
    rw [Bool.or_eq_true, beq_iff_eq] at hc
    exact hc.imp_right Or.inr
  · exact Slug.mem_ofHeading hslug

/-- A sign that is neither a letter nor a digit nor a hyphen stands in no anchor. -/
theorem not_mem_anchor {c : Char} (hsign : isLetterOrDigit c = false) (hhyphen : c ≠ '-')
    (title : Text) : c ∉ Anchor.mark ++ Slug.ofHeading title := by
  intro hmem
  rcases mem_anchor hmem with hlower | hdigit | hdash
  · simp [isLetterOrDigit, isLetter, hlower] at hsign
  · simp [isLetterOrDigit, hdigit] at hsign
  · exact hhyphen hdash

/-- An anchor names its section again. -/
theorem ofSection_ofSection (title : Text) :
    Anchor.ofSection (Anchor.ofSection title) = Anchor.ofSection title := by
  have hdrop : Text.dropPrefix? Anchor.mark (Anchor.ofSection title) = some _ :=
    dropPrefix?_eq_some_iff.mpr rfl
  rw [Anchor.ofSection, hdrop, Option.getD_some, Slug.ofHeading_ofHeading]
  rfl

/-- An anchor is the mark and a slug of lower-case words. -/
theorem ofSection_form (title : Text) : ∃ slug, Anchor.ofSection title = Anchor.mark ++ slug ∧
    (∀ c ∈ slug, isLowerLetter c = true ∨ isDigit c = true ∨ c = '-') ∧
    slug.head? ≠ some '-' ∧ slug.getLast? ≠ some '-' ∧ ¬ ['-', '-'] <:+: slug := by
  have hnormal := Slug.isNormal_ofText [] true ((dropPrefix? Anchor.mark title).getD title)
  exact ⟨_, rfl, fun c hc => Slug.mem_ofHeading hc, hnormal.head, hnormal.last, hnormal.single rfl⟩

end Link
end WikiMarkup
