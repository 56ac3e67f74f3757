import WikiMarkup.Proofs.Link.Reference
import WikiMarkup.Proofs.Page.Address

/-!
# Names in the index

A page is recorded under the slug of its name. A slug has no character without a spelling in ASCII,
and no hyphens at its ends, so of a name that is a path it need not leave one: it does exactly if
something of the first segment of the name is left, and something of the last.
-/

namespace WikiMarkup

open Text

theorem isPath_iff {name : Text} : IsPath name ↔
    (∃ c, name.head? = some c ∧ c ≠ '/') ∧ ∃ c, name.getLast? = some c ∧ c ≠ '/' := by
  constructor
  · intro h
    refine ⟨⟨name.head h.ne_nil, List.head?_eq_some_head h.ne_nil, ?_⟩,
      name.getLast h.ne_nil, List.getLast?_eq_some_getLast h.ne_nil, ?_⟩
    · intro heq
      exact h.head (by rw [List.head?_eq_some_head h.ne_nil, heq])
    · intro heq
      exact h.last (by rw [List.getLast?_eq_some_getLast h.ne_nil, heq])
  · rintro ⟨⟨c, hhead, hc⟩, d, hlast, hd⟩
    refine ⟨?_, ?_, ?_⟩
    · rintro rfl
      cases hhead
    · rw [hhead]
      simpa using hc
    · rw [hlast]
      simpa using hd

namespace Slug

/-- Whether the ASCII spelling of a name has a letter or a digit in its first segment, and in its
last. -/
structure IsSpelled (name : Text) : Prop where
  first : ∃ c ∈ before '/' (Folding.toAscii name), isLetterOrDigit c = true
  last : ∃ c ∈ lastSegment (Folding.toAscii name), isLetterOrDigit c = true

/-- The first character that is kept of a path is a letter or a digit of its first segment, or else
the slash behind that. -/
theorem find?_keeps_iff (t : Text) : (∃ c, t.find? (keeps ['/']) = some c ∧ c ≠ '/') ↔
    ∃ c ∈ before '/' t, isLetterOrDigit c = true := by
  induction t with
  | nil => simp [before]
  | cons d t ih =>
    by_cases hslash : d = '/'
    · have hkeeps : keeps ['/'] '/' = true := rfl
      simp [before, hslash, hkeeps]
    · have hbefore : before '/' (d :: t) = d :: before '/' t :=
        List.takeWhile_cons_of_pos (by simpa using hslash)
      have hkeeps : keeps ['/'] d = isLetterOrDigit d := by simp [keeps, hslash]
      rw [hbefore]
      cases hd : isLetterOrDigit d with
      | true => simp [List.find?_cons_of_pos, hkeeps, hd, hslash]
      | false => rw [List.find?_cons_of_neg (by simp [hkeeps, hd]), ih]; simp [hd]

theorem keeps_lowerLetter (c : Char) : keeps ['/'] (lowerLetter c) = keeps ['/'] c := by
  have hslash : (lowerLetter c == '/') = (c == '/') := by
    rw [Bool.eq_iff_iff, beq_iff_eq, beq_iff_eq, lowerLetter_eq_iff rfl]
  simp only [keeps, isLetterOrDigit_lowerLetter, List.contains_cons, List.contains_nil, hslash]

theorem find?_lowerAscii (t : Text) :
    (lowerAscii t).find? (keeps ['/']) = (t.find? (keeps ['/'])).map lowerLetter := by
  have hsame : keeps ['/'] ∘ lowerLetter = keeps ['/'] := funext keeps_lowerLetter
  rw [lowerAscii, List.find?_map, hsame]

theorem head?_ofPath (name : Text) : (ofPath name).head? =
    ((Folding.toAscii name).find? (keeps ['/'])).map lowerLetter := by
  rw [← find?_lowerAscii]
  exact head?_trim_collapse rfl _

theorem getLast?_ofPath (name : Text) : (ofPath name).getLast? =
    ((Folding.toAscii name).reverse.find? (keeps ['/'])).map lowerLetter := by
  rw [← find?_lowerAscii, lowerAscii, List.map_reverse]
  exact getLast?_trim_collapse rfl _

/-- Lower case makes a slash of nothing else. -/
theorem exists_map_lowerLetter_iff {c? : Option Char} :
    (∃ c, c?.map lowerLetter = some c ∧ c ≠ '/') ↔ ∃ c, c? = some c ∧ c ≠ '/' := by
  cases c? with
  | none => simp
  | some d =>
    have hslash : lowerLetter d = '/' ↔ d = '/' := lowerLetter_eq_iff rfl
    simp [hslash]

theorem isPath_ofPath_iff (name : Text) : IsPath (ofPath name) ↔ IsSpelled name := by
  have hlast : (∃ c ∈ before '/' (Folding.toAscii name).reverse, isLetterOrDigit c = true) ↔
      ∃ c ∈ lastSegment (Folding.toAscii name), isLetterOrDigit c = true := by
    simp only [before, lastSegment, List.mem_reverse]
  rw [isPath_iff, head?_ofPath, getLast?_ofPath, exists_map_lowerLetter_iff,
    exists_map_lowerLetter_iff, find?_keeps_iff, find?_keeps_iff, hlast]
  exact ⟨fun h => ⟨h.1, h.2⟩, fun h => ⟨h.first, h.last⟩⟩

end Slug

namespace Link

/-- The name of a page that a token leads to is a path, and so is the name under which the page is
recorded exactly if something of its first and of its last segment is spelled in ASCII. The page is
linked to as the first page exactly if it is recorded under the first page's name, or under none. -/
theorem indexEntry_name_iff {files : FileSystem} {site : Site} {page : Page} {token : Text}
    {r : Resolution} {ref : PageRef} (hresolve : resolve files site page token = .ok r)
    (hpage : r.destination = .page ref) :
    IsPath ref.name ∧
      (IsPath (Address.indexEntry ref).name ↔ Slug.IsSpelled ref.name) ∧
      (Address.ofPage ref page site = Address.ofPage { ref with name := homepage } page site ↔
        (Address.indexEntry ref).name = [] ∨ (Address.indexEntry ref).name = homepage) := by
  obtain ⟨target, hread, -, href⟩ := resolve_page hresolve hpage
  obtain ⟨parts, -, htarget⟩ := Option.map_eq_some_iff.mp hread
  have hpath : IsPath ref.name := by
    rw [href, ← htarget]
    exact (Token.isPageName_pageName parts page).isPath
  exact ⟨hpath, Slug.isPath_ofPath_iff ref.name, Address.ofPage_eq_home_iff ref page site⟩

/-- A name with something that is spelled in ASCII in both of its segments. -/
theorem indexEntry_name_spelled :
    let page : Page := ⟨"doc".toList, "en".toList, homepage⟩
    let ref : PageRef := ⟨"doc".toList, "en".toList, "Straße/- 2".toList, none⟩
    resolve .empty {} page "Straße/- 2".toList = .ok { destination := .page ref } ∧
      Slug.IsSpelled ref.name ∧ IsPath (Address.indexEntry ref).name := by
  intro page ref
  have hresolve : resolve .empty {} page "Straße/- 2".toList =
      .ok { destination := .page ref } := by rfl
  have hascii : Folding.toAscii ref.name = "Strasse/- 2".toList := by rfl
  have hspelled : Slug.IsSpelled ref.name := by
    refine ⟨⟨'S', ?_, rfl⟩, '2', ?_, rfl⟩
    · rw [hascii]
      decide
    · rw [hascii]
      decide
  exact ⟨hresolve, hspelled, (indexEntry_name_iff hresolve rfl).2.1.mpr hspelled⟩

/-- A name of which nothing is left in the last segment, and one of which nothing is left at all. -/
theorem indexEntry_name_unspelled :
    let record : Reader.Fields := ⟨[],
      [("book".toList, .text "doc".toList), ("lang".toList, .text "en".toList)]⟩
    let request : ConvertRequest := { book := "doc".toList, lang := "en".toList }
    let below : PageRef := ⟨"doc".toList, "en".toList, "guide/-".toList, none⟩
    let top : PageRef := ⟨"doc".toList, "en".toList, "-".toList, none⟩
    ConvertRequest.ofFields record = .ok request ∧
      resolve .empty {} request.page "guide/-".toList =
        .ok { destination := .page below } ∧
      (Address.indexEntry below).name = "guide/".toList ∧
      resolve .empty {} request.page "-".toList = .ok { destination := .page top } ∧
      (Address.indexEntry top).name = [] ∧
      Address.ofPage top request.page {} =
        Address.ofPage { top with name := homepage } request.page {} := by
  intro record request below top
  have hempty : Slug.ofPath top.name = [] := by rfl
  exact ⟨by rfl, by rfl, by rfl, by rfl, hempty,
    (Address.ofPage_eq_home_iff top request.page {}).mpr (Or.inl hempty)⟩

end Link
end WikiMarkup
