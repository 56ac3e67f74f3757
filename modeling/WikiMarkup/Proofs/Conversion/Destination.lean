import WikiMarkup.Proofs.Code.Intact
import WikiMarkup.Proofs.Conversion.Safety
import WikiMarkup.Proofs.Link.Grammar
import WikiMarkup.Proofs.Text.Percent

/-!
# Marks in destinations

A token may have marks in it, and they get into the URL or the page that it leads to. A token is cut
at colons, slashes and number signs only, and what is made of its parts is put together with names of
the wiki, encoded or made into a slug. Nothing of this goes through a mark, so the marks that are in
the destination are whole marks of the token.
-/

namespace WikiMarkup

open Shield Text

variable {count : Nat}

/-! ## Names -/

namespace Token

theorem edge_not_mem_of_isBook {book : Text} (h : IsBook book) : edge ∉ book :=
  h.not_mem rfl (by decide) (by decide) (by decide)

theorem edge_not_mem_of_isLangCode {lang : Text} (h : isLangCode lang = true) : edge ∉ lang :=
  not_mem_of_isLangCode h rfl

theorem IsLangEnd.not_isMarkChar {rest : Text} (h : IsLangEnd rest) {c : Char}
    (hc : rest.head? = some c) : isMarkChar c = false := by
  rcases h with rfl | rfl | ⟨d, hd, hsign⟩
  · cases hc
  · cases hc
    rfl
  · rw [hc] at hd
    cases hd
    rcases hsign with rfl | rfl | rfl <;> rfl

theorem Taken.isIntact_behindBook {token rest : Text} {book? : Option Text}
    (h : Taken BeginsWithBook token book? rest) (ht : IsIntact count token) :
    IsIntact count rest := by
  cases h with
  | given hbegins =>
    obtain ⟨-, rfl⟩ := hbegins
    exact (ht.cut_cons rfl).2
  | missing => exact ht

theorem Taken.isIntact_behindLang {t rest : Text} {lang? : Option Text}
    (h : Taken BeginsWithLang t lang? rest) (ht : IsIntact count t) : IsIntact count rest := by
  cases h with
  | given hbegins =>
    obtain ⟨sign, -, rfl⟩ := hbegins.text
    rw [← List.append_assoc] at ht
    exact (ht.cut fun c hc => hbegins.ends.not_isMarkChar hc).2
  | missing => exact ht

/-- A token is cut into its parts at signs that are none of marks. -/
theorem IsSplit.isIntact {token : Text} {parts : Parts} (h : IsSplit token parts)
    (ht : IsIntact count token) : IsIntact count parts.name ∧ IsIntact count parts.heading := by
  obtain ⟨behindBook, behindLang, hbook, hlang, hname⟩ := h.cuts
  rw [hname, h.heading]
  exact ⟨(hlang.isIntact_behindLang (hbook.isIntact_behindBook ht)).before rfl, ht.after rfl⟩

theorem isIntact_plainName {written : Text} (h : IsIntact count written) :
    IsIntact count (plainName written) := by
  unfold plainName
  dsimp only
  split
  · exact isIntact_of_not_mem (by decide)
  · refine IsIntact.trimEnd (fun c hc => ?_) (h.exchange rfl (by decide))
    rw [beq_iff_eq.mp hc]
    rfl

theorem isIntact_pageName {parts : Parts} {page : Page} (hpage : edge ∉ page.name)
    (h : IsIntact count parts.name) : IsIntact count (pageName parts page) := by
  have hplain := isIntact_plainName h
  unfold pageName
  refine IsIntact.trimBy (fun c hc => ?_) ?_
  · rw [beq_iff_eq.mp hc]
    rfl
  · split
    · have hdirectory : edge ∉ directory page.name := fun hmem =>
        hpage ((List.rdropWhile_prefix _ _).subset hmem)
      exact (isIntact_of_not_mem hdirectory).append hplain
    · exact hplain

/-- Whether a page token as it is read has whole marks, and none in its book and its language. -/
structure Target.IsIntact (count : Nat) (target : Target) : Prop where
  book : edge ∉ target.book
  lang : edge ∉ target.lang
  name : Shield.IsIntact count target.name
  writtenName : Shield.IsIntact count target.writtenName
  heading : Shield.IsIntact count target.heading

theorem isIntact_of_read {token : Text} {page : Page} {target : Target} (hbook : edge ∉ page.book)
    (hlang : edge ∉ page.lang) (hname : edge ∉ page.name) (ht : IsIntact count token)
    (h : read token page = some target) : target.IsIntact count := by
  obtain ⟨parts, hsplit, rfl⟩ := Option.map_eq_some_iff.mp h
  obtain ⟨hpartsBook, hpartsLang⟩ := split_parts hsplit
  obtain ⟨hwritten, hheading⟩ := (isSplit_of_split hsplit).isIntact ht
  constructor
  case name => exact isIntact_pageName hname hwritten
  case writtenName => exact hwritten
  case heading => exact hheading
  case book =>
    show edge ∉ parts.book.getD (defaultBook page)
    cases hgiven : parts.book with
    | some book => exact edge_not_mem_of_isBook (hpartsBook book hgiven)
    | none =>
      unfold defaultBook
      split
      · decide
      · exact hbook
  case lang =>
    show edge ∉ parts.lang.getD page.lang
    cases hgiven : parts.lang with
    | some lang => exact edge_not_mem_of_isLangCode (hpartsLang lang hgiven)
    | none => exact hlang

end Token

/-! ## Destinations -/

theorem isIntact_apiPage {name : Text} (h : IsIntact count name) :
    IsIntact count (Link.apiPage name) := by
  have hpath : IsIntact count (name.map fun c => if c == '\\' then '.' else c) :=
    h.exchange rfl (by decide)
  have hcolons : ∀ {new t : Text}, edge ∉ new → IsIntact count t →
      IsIntact count (replaceAll "::".toList new t) := by
    intro new t hnew ht
    refine ht.replaceAll hnew (fun c hc => ?_) (List.cons_ne_nil _ _) fun c hc => ?_
    · cases hc
      rfl
    · cases hc
      rfl
  have hparentheses : ∀ {t : Text}, IsIntact count t →
      IsIntact count (replaceAll "()".toList [] t) := by
    intro t ht
    refine ht.replaceAll List.not_mem_nil (fun c hc => ?_) (List.cons_ne_nil _ _) fun c hc => ?_
    · cases hc
      rfl
    · cases hc
      rfl
  unfold Link.apiPage
  dsimp only
  split
  · exact hcolons (by decide) (hparentheses hpath)
  · split
    · exact hcolons (by decide) hpath
    · exact hpath.append (isIntact_of_not_mem (by decide))

theorem edge_not_mem_encodeWord (t : Text) : edge ∉ Percent.encodeWord t := by
  intro hmem
  rcases Percent.mem_encodeWord hmem with hsafe | hpercent | hplus
  · cases hsafe
  · cases hpercent
  · cases hplus

theorem edge_not_mem_writeInt (number : Int) : edge ∉ Digit.writeInt number := by
  intro hmem
  rcases Digit.isDigit_or_of_mem_writeInt hmem with hdigit | hsign
  · cases hdigit
  · cases hsign

theorem edge_not_mem_anchor (title : Text) : edge ∉ Anchor.mark ++ Slug.ofHeading title :=
  Link.not_mem_anchor rfl (by decide) title

namespace Conversion

/-- Whether nothing that a conversion is given, but for the text, has the character that marks begin
with. -/
structure Setup.IsClean (setup : Setup) : Prop where
  book : edge ∉ setup.page.book
  lang : edge ∉ setup.page.lang
  name : edge ∉ setup.page.name
  media : edge ∉ setup.site.mediaUrl
  download : edge ∉ setup.site.downloadUrl
  api : edge ∉ setup.site.apiUrl
  profile : edge ∉ setup.site.profileUrl
  domain : edge ∉ setup.site.domain

variable {setup : Setup} (hsetup : setup.IsClean)
include hsetup

/-- The URL of a page has marks only where its book, its language or its section has. -/
theorem edge_not_mem_ofPage {ref : PageRef} (hbook : edge ∉ ref.book) (hlang : edge ∉ ref.lang)
    (hfragment : edge ∉ ref.fragment.getD []) :
    edge ∉ Address.ofPage ref setup.page setup.site := by
  have hname : edge ∉ Address.namePart ref.name :=
    Address.not_mem_namePart (by decide) (by decide) ref.name
  have hhost : edge ∉ if ref.book == setup.page.book then []
      else "http://".toList ++ (Address.subdomain ref.book ++ setup.site.domain) := by
    split
    · exact List.not_mem_nil
    · have hscheme : edge ∉ "http://".toList := by decide
      simp only [List.mem_append, not_or]
      exact ⟨hscheme, Address.not_mem_subdomain (by decide) hbook, hsetup.domain⟩
  rw [Address.ofPage_eq, Address.location]
  simp only [List.mem_append, List.mem_cons, not_or]
  exact ⟨hhost, by decide, hlang, by decide, Address.not_mem_versionPart (by decide) hbook, hname,
    Address.not_mem_fragmentPart (by decide) hfragment⟩

/-- A page token with whole marks leads to a URL and a page with whole marks. -/
theorem isIntact_resolveTarget {target : Token.Target} (ht : target.IsIntact count)
    {r : Link.Resolution}
    (h : Link.resolveTarget setup.files setup.site setup.page target = .ok r) :
    IsIntact count (destinationUrl setup r.destination) ∧
      ∀ ref, r.destination = .page ref → IsIntact count ref.name := by
  have hbelow : ∀ {base name : Text}, edge ∉ base → IsIntact count name →
      IsIntact count (base ++ '/' :: name) := fun hbase hname =>
    (isIntact_of_not_mem hbase).append (.plain (by decide) hname)
  unfold Link.resolveTarget at h
  cases hkind : Namespace.ofBook target.book with
  | download =>
    rw [hkind] at h
    cases h
    exact ⟨hbelow hsetup.download ht.name, nofun⟩
  | attachment =>
    rw [hkind] at h
    obtain ⟨found, -, rfl⟩ := Link.map_eq_ok_iff.mp h
    refine ⟨hbelow ?_ ht.name, nofun⟩
    simp only [List.mem_append, List.mem_cons, not_or]
    exact ⟨hsetup.media, by decide, hsetup.book⟩
  | api =>
    rw [hkind] at h
    cases h
    exact ⟨hbelow hsetup.api (isIntact_apiPage ht.writtenName), nofun⟩
  | user =>
    rw [hkind] at h
    obtain ⟨number, -, rfl⟩ := Link.map_eq_ok_iff.mp h
    refine ⟨isIntact_of_not_mem ?_, nofun⟩
    show edge ∉ setup.site.profileUrl ++ Digit.writeInt number
    rw [List.mem_append, not_or]
    exact ⟨hsetup.profile, edge_not_mem_writeInt number⟩
  | php =>
    rw [hkind] at h
    cases h
    have hmanual : IsIntact count ("http://php.net/".toList ++
        Percent.encodeWord target.writtenName) := by
      refine (isIntact_of_not_mem ?_).append
        (isIntact_of_not_mem (edge_not_mem_encodeWord target.writtenName))
      decide
    refine ⟨?_, nofun⟩
    simp only [destinationUrl]
    split
    · exact hmanual
    · exact hmanual.append (.plain (by decide) ht.heading)
  | ordinary =>
    rw [hkind] at h
    cases h
    refine ⟨isIntact_of_not_mem (edge_not_mem_ofPage hsetup ht.book ht.lang ?_), ?_⟩
    · dsimp only
      split
      · exact List.not_mem_nil
      · exact edge_not_mem_anchor _
    · rintro ref heq
      cases heq
      exact ht.name

/-- A token with whole marks leads to a URL and a page with whole marks. -/
theorem isIntact_resolve {token : Text} (ht : IsIntact count token) {r : Link.Resolution}
    (h : Link.resolve setup.files setup.site setup.page token = .ok r) :
    IsIntact count (destinationUrl setup r.destination) ∧
      ∀ ref, r.destination = .page ref → IsIntact count ref.name := by
  rcases Token.final_or_section_or_reads token setup.page with
    hfinal | ⟨hexternal, name, rfl⟩ | ⟨target, hreads⟩
  · rw [Link.resolve_of_isFinal hfinal] at h
    cases h
    exact ⟨ht, nofun⟩
  · rw [Link.resolve_section hexternal] at h
    cases h
    exact ⟨.plain (by decide) (isIntact_of_not_mem (edge_not_mem_anchor _)), nofun⟩
  · rw [Link.resolve_of_reads hreads] at h
    exact isIntact_resolveTarget hsetup
      (Token.isIntact_of_read hsetup.book hsetup.lang hsetup.name ht hreads.2.2) h

end Conversion
end WikiMarkup
