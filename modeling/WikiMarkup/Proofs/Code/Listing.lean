import WikiMarkup.Code.Listing
import WikiMarkup.Proofs.Text.Casing
import WikiMarkup.Proofs.Text.Entity

/-!
# Listings and their elements

The code of a listing and its description may be any texts. Code in a language that the highlighter
does not know is escaped and stays in its element. The name of the language is written into an attribute
as it stands, in lower case: what such a listing may do to the page is a matter of the first word of its
description. Which languages there are is up to the highlighter, and may be any.
-/

namespace WikiMarkup
namespace Listing

open Text

/-! ## The element of a listing -/

/-- The HTML of a listing whose language has some name. -/
def frame (name content : Text) : Text :=
  "<pre class=\"src-".toList ++ name ++ "\"><code>".toList ++ content ++ "</code></pre>\n".toList

/-- The signs that end an attribute, begin a tag and end one. -/
def delimiters : Text := ['<', '>', '"']

/-- The HTML is one listing of the code: neither the name of its language nor its content has a
delimiter, and a browser reads the code in it. -/
def IsContained (html code : Text) : Prop :=
  ∃ name content, html = frame name content ∧ (∀ c ∈ delimiters, c ∉ name ∧ c ∉ content) ∧
    Entity.unescape content = .ok code

/-- The description names no language that the highlighter knows. -/
def IsUnknown (highlighter : Highlighter) (description : Text) : Prop :=
  ∀ word ∈ (words description).head?, highlighter (languageName word) = none

theorem mem_delimiters_iff {c : Char} : c ∈ delimiters ↔ c = '<' ∨ c = '>' ∨ c = '"' := by
  simp [delimiters]

theorem not_mem_escape_of_mem_delimiters {c : Char} (h : c ∈ delimiters) (t : Text) :
    c ∉ Entity.escape t := by
  rcases mem_delimiters_iff.mp h with rfl | rfl | rfl
  all_goals exact Entity.not_mem_escape rfl (by decide) t

/-- A frame is the name between its beginning and a quote, and all the rest. -/
theorem frame_eq (name content : Text) :
    frame name content = "<pre class=\"src-".toList ++
      (name ++ '"' :: ("><code>".toList ++ (content ++ "</code></pre>\n".toList))) := by
  have hquote : "\"><code>".toList = '"' :: "><code>".toList := rfl
  unfold frame
  rw [hquote]
  simp only [List.append_assoc, List.cons_append]

/-- A name and a content without quotes are read back: no other name gives this frame. -/
theorem name_eq_of_frame_eq {name name' content content' : Text} (hname : '"' ∉ name)
    (hcontent : '"' ∉ content) (h : frame name content = frame name' content') : name = name' := by
  have hquote : '"' ∉ "><code>".toList ++ (content ++ "</code></pre>\n".toList) := by
    simp only [List.mem_append, not_or]
    exact ⟨by decide, hcontent, by decide⟩
  rw [frame_eq, frame_eq, List.append_cancel_left_eq] at h
  exact ((List.append_cons_inj_of_notMem hname hquote).mp h).1

/-- Escaped code stays in its element, so it is the name that can get out. -/
theorem isContained_frame_iff {name code : Text} :
    IsContained (frame name (Entity.escape code)) code ↔ ∀ c ∈ delimiters, c ∉ name := by
  constructor
  · rintro ⟨name', content, heq, hclean, -⟩
    have hquote := hclean '"' (by decide)
    have hname : name' = name := name_eq_of_frame_eq hquote.1 hquote.2 heq.symm
    intro c hc
    exact hname ▸ (hclean c hc).1
  · intro hname
    refine ⟨name, Entity.escape code, rfl, fun c hc => ?_, Entity.unescape_escape code⟩
    exact ⟨hname c hc, not_mem_escape_of_mem_delimiters hc code⟩

/-! ## The name of a language -/

theorem aliases_all_letters :
    (aliases.all fun entry => entry.1.toList.all isLetter && entry.2.toList.all isLetter) = true := by
  decide

/-- The name of a language has the signs of the language, of those that are no letters. -/
theorem mem_languageName_iff {c : Char} (hascii : isAscii c = true) (hletter : isLetter c = false)
    (language : Text) : c ∈ languageName language ↔ c ∈ language := by
  rw [← Casing.mem_lower_iff hascii hletter language, languageName]
  split
  · rename_i entry usual hfind
    have hkey := List.find?_some hfind
    have hentry := List.all_eq_true.mp aliases_all_letters _ (List.mem_of_find?_eq_some hfind)
    rw [Bool.and_eq_true] at hentry
    rw [← beq_iff_eq.mp hkey]
    have hnone : ∀ t : Text, t.all isLetter = true → c ∉ t := by
      intro t ht hc
      rw [List.all_eq_true.mp ht c hc] at hletter
      cases hletter
    exact iff_of_false (hnone _ hentry.2) (hnone _ hentry.1)
  · rfl

theorem delimiters_free_iff {language : Text} :
    (∀ c ∈ delimiters, c ∉ languageName language) ↔ ∀ c ∈ delimiters, c ∉ language := by
  refine forall₂_congr fun c hc => not_congr ?_
  rcases mem_delimiters_iff.mp hc with rfl | rfl | rfl
  all_goals exact mem_languageName_iff rfl rfl language

/-! ## Listings with a description -/

variable {highlighter : Highlighter}

/-- Code in a language that is not known is escaped, and the name of the language is not. -/
theorem render_of_unknown {language : Text} (h : highlighter (languageName language) = none)
    (code : Text) :
    render highlighter code language = frame (languageName language) (Entity.escape code) := by
  have hnone : (if (languageName language).isEmpty then none
      else highlighter (languageName language)) = none := by
    rw [h, ite_self]
  unfold render
  dsimp only
  rw [hnone]
  rfl

/-- A description without a word names no language, and there is no listing for it. -/
theorem ofBlock_blank (highlighter : Highlighter) {description : Text} (hne : description ≠ [])
    (hwords : words description = []) (code : Text) :
    ofBlock highlighter code description = .error .blankLanguage := by
  obtain ⟨first, rest, rfl⟩ := List.exists_cons_of_ne_nil hne
  simp only [ofBlock, language, hwords]
  rfl

/-- The first word of a description is the language. -/
theorem ofBlock_word (highlighter : Highlighter) {description word : Text} {others : List Text}
    (hwords : words description = word :: others) (code : Text) :
    ofBlock highlighter code description = .ok (render highlighter code word) := by
  cases description with
  | nil => cases hwords
  | cons first rest =>
    simp only [ofBlock, language, hwords]
    rfl

/-- Whatever languages a highlighter knows, a block of code with a description that names none of them
comes out as one listing of the code if and only if it has no description, or the description has a
first word and this word is free of delimiters. White space alone is a description without a word, and
there is no listing for it. -/
theorem ofBlock_contained_iff {description : Text} (hunknown : IsUnknown highlighter description)
    (code : Text) :
    (∃ html, ofBlock highlighter code description = .ok html ∧ IsContained html code) ↔
      description = [] ∨
        ∃ word, (words description).head? = some word ∧ ∀ c ∈ delimiters, c ∉ word := by
  by_cases hne : description = []
  · subst hne
    refine iff_of_true ⟨frame [] (Entity.escape code), rfl, ?_⟩ (Or.inl rfl)
    exact isContained_frame_iff.mpr fun c _ => List.not_mem_nil
  cases hwords : words description with
  | nil =>
    have herror := ofBlock_blank highlighter hne hwords code
    constructor
    · rintro ⟨html, hhtml, -⟩
      rw [herror] at hhtml
      cases hhtml
    · rintro (hnil | ⟨word, hword, -⟩)
      · exact absurd hnil hne
      · cases hword
  | cons word others =>
    have hname : highlighter (languageName word) = none :=
      hunknown word (by rw [hwords, List.head?_cons, Option.mem_some_iff])
    have hblock := ofBlock_word highlighter hwords code
    rw [render_of_unknown hname] at hblock
    constructor
    · rintro ⟨html, hhtml, hcontained⟩
      obtain rfl := Except.ok.inj (hblock.symm.trans hhtml)
      exact Or.inr ⟨word, rfl, delimiters_free_iff.mp (isContained_frame_iff.mp hcontained)⟩
    · rintro (hnil | ⟨word', hword, hfree⟩)
      · exact absurd hnil hne
      · cases hword
        exact ⟨_, hblock, isContained_frame_iff.mpr (delimiters_free_iff.mpr hfree)⟩

/-- A word in upper case with an apostrophe and an ampersand, which are no delimiters, and code that
closes the element and holds a reference. -/
theorem ofBlock_contained_apostrophe :
    IsUnknown setLines "O'Caml&amp; x".toList ∧
      ∃ html, ofBlock setLines "</code>\"&lt;".toList "O'Caml&amp; x".toList = .ok html ∧
        IsContained html "</code>\"&lt;".toList := by
  have hunknown : IsUnknown setLines "O'Caml&amp; x".toList := by
    rintro word hword
    have hfirst : (words "O'Caml&amp; x".toList).head? = some "O'Caml&amp;".toList := by
      rfl
    have hlower : languageName "O'Caml&amp;".toList = "o'caml&amp;".toList := rfl
    cases hfirst ▸ hword
    rw [hlower]
    rfl
  refine ⟨hunknown, (ofBlock_contained_iff hunknown _).mpr (Or.inr ?_)⟩
  refine ⟨"O'Caml&amp;".toList, rfl, fun c hc => ?_⟩
  rcases mem_delimiters_iff.mp hc with rfl | rfl | rfl <;> decide

/-- A word that ends the attribute and begins a tag gets out of the element, and a description of a
space is a fault. -/
theorem ofBlock_not_contained :
    ofBlock setLines ['x'] " ".toList = .error .blankLanguage ∧
      IsUnknown setLines "\"><b>".toList ∧
      ofBlock setLines ['x'] "\"><b>".toList =
        .ok "<pre class=\"src-\"><b>\"><code>x</code></pre>\n".toList ∧
      ¬ ∃ html, ofBlock setLines ['x'] "\"><b>".toList = .ok html ∧ IsContained html ['x'] := by
  have hblock : ofBlock setLines ['x'] "\"><b>".toList =
      .ok (frame "\"><b>".toList (Entity.escape ['x'])) := by
    rfl
  refine ⟨rfl, ?_, hblock, ?_⟩
  · rintro word hword
    have hfirst : (words "\"><b>".toList).head? = some "\"><b>".toList := by
      rfl
    have hlower : languageName "\"><b>".toList = "\"><b>".toList := rfl
    cases hfirst ▸ hword
    rw [hlower]
    rfl
  · rintro ⟨html, hhtml, hcontained⟩
    obtain rfl := Except.ok.inj (hblock.symm.trans hhtml)
    exact isContained_frame_iff.mp hcontained '"' (by decide) (by decide)

end Listing
end WikiMarkup
