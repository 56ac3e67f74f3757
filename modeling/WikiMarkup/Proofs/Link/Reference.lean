import WikiMarkup.Proofs.Link.Canonical
import WikiMarkup.Proofs.Link.Context
import WikiMarkup.Proofs.Link.Resolve
import WikiMarkup.Proofs.Schema.Request

/-!
# References that are well formed

The form of the pages that tokens lead to, on the pages that are accepted for conversion. What a token
says is cut and rewritten until only the directory that a name is below can still have signs in it
that are none of a name's. A section is found under the same anchor from its own page and from every
other.
-/

namespace WikiMarkup

open Text

namespace Token

theorem IsPageName.isPath {name : Text} (h : IsPageName name) : IsPath name where
  ne_nil := h.ne_nil
  head := fun hslash => absurd (h.head '/' hslash) (by decide)
  last := fun hslash => absurd (h.last '/' hslash) (by decide)

/-- In a plain name stands no sign that cuts a token. -/
theorem not_mem_plainName {token : Text} {parts : Parts} (hsplit : split token = some parts) :
    ':' ∉ plainName parts.name ∧ '#' ∉ plainName parts.name := by
  constructor
  · intro hmem
    rcases mem_plainName hmem with heq | hletter | ⟨-, hne⟩
    · cases heq
    · exact absurd hletter (by decide)
    · exact hne rfl
  · intro hmem
    rcases mem_plainName hmem with heq | hletter | ⟨hname, -⟩
    · cases heq
    · exact absurd hletter (by decide)
    · obtain ⟨front, rest, -, -, hbefore, -⟩ := split_eq_some hsplit
      rw [hbefore] at hname
      exact absurd (List.mem_takeWhile_imp hname) (by decide)

/-- Nothing is trimmed from a relative name below the directory of a page without a slash in front. -/
theorem trimChar_base_append {page : Page} (hhead : page.name.head? ≠ some '/') {name : Text}
    (hslash : name.head? ≠ some '/') (hne : name ≠ [])
    (hlast : ∀ c, name.getLast? = some c → (c == '/') = false) :
    trimChar '/' (base page ++ name) = base page ++ name := by
  apply trimBy_eq_self
  · intro c hc
    rw [beq_eq_false_iff_ne]
    rintro rfl
    rw [base] at hc
    split at hc
    · rename_i hlength
      -- the directory begins as the name of the page does
      obtain ⟨rest, hrest⟩ : directory page.name <+: page.name := List.rdropWhile_prefix _ _
      have hnonempty : directory page.name ≠ [] := List.ne_nil_of_length_pos (by omega)
      rw [List.head?_append_of_ne_nil _ hnonempty] at hc
      rw [← hrest, List.head?_append_of_ne_nil _ hnonempty] at hhead
      exact hhead hc
    · exact hslash hc
  · intro c hc
    rw [List.getLast?_append_of_ne_nil _ hne] at hc
    exact hlast c hc

/-- A page name is a name of its own, in which no sign stands that cuts a token, perhaps below the
directory of the page. -/
theorem pageName_eq_append {token : Text} {parts : Parts} (hsplit : split token = some parts)
    {page : Page} (hhead : page.name.head? ≠ some '/') :
    ∃ own, ':' ∉ own ∧ '#' ∉ own ∧
      (pageName parts page = own ∨ pageName parts page = directory page.name ++ own) := by
  obtain ⟨hcolon, hhash⟩ := not_mem_plainName hsplit
  by_cases habsolute : parts.book ≠ none ∨ parts.lang ≠ none ∨
      (plainName parts.name).head? = some '/'
  · refine ⟨trimChar '/' (plainName parts.name), ?_, ?_, Or.inl (pageName_absolute habsolute page)⟩
    · exact fun hmem => hcolon (mem_of_mem_trimBy hmem)
    · exact fun hmem => hhash (mem_of_mem_trimBy hmem)
  · simp only [ne_eq, not_or, not_not] at habsolute
    obtain ⟨hbook, hlang, hslash⟩ := habsolute
    obtain ⟨hne, hlast, -⟩ := plainName_spec parts.name
    refine ⟨plainName parts.name, hcolon, hhash, ?_⟩
    rw [pageName_relative hbook hlang hslash, trimChar_base_append hhead hslash hne hlast, base]
    split
    · exact Or.inr rfl
    · exact Or.inl rfl

end Token

namespace Link

/-- The form of the pages that a token on a page leads to. -/
structure IsWellFormed (page : Page) (token : Text) (ref : PageRef) : Prop where
  book : ref.book = page.book ∨ ref.book = "www".toList ∨ Token.IsBook ref.book
  ordinary : ∀ entry ∈ Namespace.named, ref.book ≠ entry.1.toList
  lang : isLangCode ref.lang = true
  name : IsPath ref.name
  /-- A colon or a number sign can only come from the directory of the page. -/
  ownName : ∃ own, ':' ∉ own ∧ '#' ∉ own ∧
    (ref.name = own ∨ ref.name = directory page.name ++ own)
  noFragment : ref.fragment = none ↔ (after? '#' token).getD [] = []
  fragment : ∀ f, ref.fragment = some f → ∃ slug, f = Anchor.mark ++ slug ∧
    (∀ c ∈ slug, isLowerLetter c = true ∨ isDigit c = true ∨ c = '-') ∧
    slug.head? ≠ some '-' ∧ slug.getLast? ≠ some '-' ∧ ¬ ['-', '-'] <:+: slug

/-- The book of a page is that of the token, or else that of the page it is on or the main book. -/
theorem book_cases {token : Text} {parts : Token.Parts} (hsplit : Token.split token = some parts)
    (page : Page) : parts.book.getD (Token.defaultBook page) = page.book ∨
      parts.book.getD (Token.defaultBook page) = "www".toList ∨
      Token.IsBook (parts.book.getD (Token.defaultBook page)) := by
  cases hbook : parts.book with
  | none =>
    rw [Option.getD_none, Token.defaultBook]
    split
    · exact Or.inr (Or.inl rfl)
    · exact Or.inl rfl
  | some book => exact Or.inr (Or.inr ((Token.split_parts hsplit).1 book hbook))

/-- Every page that a token leads to, on a page that is accepted for conversion, is well formed. -/
theorem resolve_wellFormed {record : Reader.Fields} {request : ConvertRequest}
    (hrequest : ConvertRequest.ofFields record = .ok request) {files : FileSystem} {site : Site}
    {token : Text} {r : Resolution} {ref : PageRef}
    (hresolve : resolve files site request.page token = .ok r)
    (hpage : r.destination = .page ref) : IsWellFormed request.page token ref := by
  have haccepted := ConvertRequest.isAccepted_of_ofFields hrequest
  obtain ⟨target, hread, hkind, rfl⟩ := resolve_page hresolve hpage
  obtain ⟨parts, hsplit, rfl⟩ := Option.map_eq_some_iff.mp hread
  have hheading := Token.heading_of_split hsplit
  constructor
  case book => exact book_cases hsplit request.page
  case ordinary =>
    intro entry hentry hbook
    have hspecial : ∀ entry ∈ Namespace.named, Namespace.ofBook entry.1.toList ≠ .ordinary := by
      decide
    apply hspecial entry hentry
    rw [← hbook]
    exact hkind
  case lang =>
    show isLangCode (parts.lang.getD request.lang) = true
    cases hlang : parts.lang with
    | none => exact haccepted.lang
    | some lang => exact (Token.split_parts hsplit).2 lang hlang
  case name => exact (Token.isPageName_pageName parts request.page).isPath
  case ownName => exact Token.pageName_eq_append hsplit haccepted.name.head
  case noFragment =>
    rw [← hheading]
    simp [targetRef]
  case fragment =>
    intro f hf
    simp only [targetRef] at hf
    split at hf
    · cases hf
    · cases hf
      exact ofSection_form parts.heading

/-- A section on a page below the directory of a page whose name has a colon. -/
theorem resolve_wellFormed_below :
    let record : Reader.Fields := ⟨[],
      [("book".toList, .text "doc-2.0".toList), ("lang".toList, .text "en".toList),
       ("name".toList, .text "/a:b/setup/".toList)]⟩
    let request : ConvertRequest :=
      { book := "doc-2.0".toList, lang := "en".toList, name := "a:b/setup".toList }
    let ref : PageRef :=
      ⟨"doc-2.0".toList, "en".toList, "a:b/Intro/c".toList, some "toc-first-steps".toList⟩
    ConvertRequest.ofFields record = .ok request ∧
      resolve .empty {} request.page "Intro:c/#First Steps".toList =
        .ok { destination := .page ref } ∧
      IsWellFormed request.page "Intro:c/#First Steps".toList ref := by
  intro record request ref
  have hrequest : ConvertRequest.ofFields record = .ok request := by rfl
  have hresolve : resolve .empty {} request.page "Intro:c/#First Steps".toList =
      .ok { destination := .page ref } := by rfl
  exact ⟨hrequest, hresolve, resolve_wellFormed hrequest hresolve rfl⟩

/-! ## Sections -/

/-- A token with a section that leads to a page leads to the anchor of the section there. -/
theorem fragment_of_resolve {files : FileSystem} {site : Site} {page : Page} {token title : Text}
    (hhash : '#' ∉ token) (hne : title ≠ []) {r : Resolution} {ref : PageRef}
    (hresolve : resolve files site page (token ++ '#' :: title) = .ok r)
    (hpage : r.destination = .page ref) : ref.fragment = some (Anchor.ofSection title) := by
  obtain ⟨target, hread, -, rfl⟩ := resolve_page hresolve hpage
  obtain ⟨parts, hsplit, rfl⟩ := Option.map_eq_some_iff.mp hread
  have hheading : parts.heading = title := by
    rw [Token.heading_of_split hsplit, after?_append hhash, Option.getD_some]
  simp [targetRef, hheading, hne]

/-- A link on the page of a section leads to the anchor that a link from another page has as its
fragment, and the anchor is a name of the section too. -/
theorem resolve_section_agrees {files : FileSystem} {site : Site} {page : Page}
    {token title : Text} (hhash : '#' ∉ token) (hne : title ≠ []) (hat : '@' ∉ title)
    {r : Resolution} {ref : PageRef}
    (hresolve : resolve files site page (token ++ '#' :: title) = .ok r)
    (hpage : r.destination = .page ref) :
    ∃ anchor, ref.fragment = some anchor ∧
      (∀ files' site' page', resolve files' site' page' ('#' :: title) =
        .ok { destination := .url ('#' :: anchor) }) ∧
      Anchor.ofSection anchor = anchor := by
  refine ⟨Anchor.ofSection title, fragment_of_resolve hhash hne hresolve hpage, ?_,
    ofSection_ofSection title⟩
  intro files' site' page'
  exact resolve_section (Token.isExternal_section hat) files' site' page'

/-- A section whose name begins like an anchor twice, and has letters beyond ASCII. -/
theorem resolve_section_agrees_marked :
    let page : Page := ⟨"nette-2.0".toList, "cs".toList, "forms/intro".toList⟩
    let title : Text := "toc-toc-Große Łuk?".toList
    let anchor : Text := "toc-toc-grosse-luk".toList
    let ref : PageRef :=
      ⟨"nette-2.0".toList, "cs".toList, "forms/Rules".toList, some anchor⟩
    ('#' ∉ "Rules".toList ∧ title ≠ [] ∧ '@' ∉ title ∧
        resolve .empty {} page ("Rules".toList ++ '#' :: title) =
          .ok { destination := .page ref }) ∧
      resolve .empty {} page ('#' :: title) =
        .ok { destination := .url ('#' :: anchor) } ∧
      Anchor.ofSection anchor = anchor := by
  intro page title anchor ref
  have hhash : '#' ∉ "Rules".toList := by decide
  have hne : title ≠ [] := List.cons_ne_nil _ _
  have hat : '@' ∉ title := by decide +kernel
  have hresolve : resolve .empty {} page ("Rules".toList ++ '#' :: title) =
      .ok { destination := .page ref } := by decide +kernel
  obtain ⟨anchor', hfragment, hsame, hanchor⟩ :=
    resolve_section_agrees hhash hne hat hresolve rfl
  obtain rfl : anchor = anchor' := Option.some.inj hfragment
  exact ⟨⟨hhash, hne, hat, hresolve⟩, hsame _ _ _, hanchor⟩

end Link
end WikiMarkup
