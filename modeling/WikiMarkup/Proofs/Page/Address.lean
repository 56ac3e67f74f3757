import WikiMarkup.Page.Basic
import WikiMarkup.Proofs.Link.Token
import WikiMarkup.Proofs.Text.Slug

/-!
# Laws of addresses

No two places of the wiki share a URL. A URL is cut at its signs: what stands before the first slash
behind the scheme tells the book from every other, whatever the domain looks like, because the same
domain follows in every URL; a dot tells a version from a page name, which has none; and the first
number sign ends the page name.
-/

namespace WikiMarkup
namespace Address

open Text

/-! ## The parts of a URL -/

/-- What stands before the domain: the book without its version, unless it is the main book. -/
def subdomain (book : Text) : Text :=
  if baseBook book == "www".toList then [] else baseBook book ++ ['.']

/-- The version of a book as a directory. -/
def versionPart (book : Text) : Text := (after? '-' book).elim [] (· ++ ['/'])

/-- The slug of a page; the first page has an empty one. -/
def namePart (name : Text) : Text := if Slug.ofPath name == homepage then [] else Slug.ofPath name

/-- The section of a page, if it has a name. -/
def fragmentPart (fragment : Option Text) : Text :=
  match fragment.getD [] with
  | [] => []
  | section' => '#' :: section'

/-- What stands behind the language. -/
def location (ref : PageRef) : Text :=
  versionPart ref.book ++ (namePart ref.name ++ fragmentPart ref.fragment)

/-- The URL of a page: a host, unless the page is of the book that it is linked from, the language,
and the location. -/
theorem ofPage_eq (ref : PageRef) (page : Page) (site : Site) :
    ofPage ref page site =
      (if ref.book == page.book then []
        else "http://".toList ++ (subdomain ref.book ++ site.domain)) ++
        '/' :: (ref.lang ++ '/' :: location ref) := by
  obtain ⟨book, lang, name, fragment⟩ := ref
  unfold ofPage location versionPart namePart fragmentPart bookHost subdomain
  -- both sides are the same parts, only grouped in another way, whatever the texts are
  generalize "http://".toList = scheme
  generalize "www".toList = main
  generalize after? '-' book = version
  cases version <;> rcases fragment with _ | _ | ⟨c, rest⟩ <;>
    simp only [Option.elim_none, Option.elim_some, Option.getD_none, Option.getD_some,
      List.append_assoc, List.cons_append, List.nil_append]

theorem namePart_eq_nil_iff {name : Text} :
    namePart name = [] ↔ Slug.ofPath name = [] ∨ Slug.ofPath name = homepage := by
  rw [namePart]
  split
  · rename_i hhome
    simp [beq_iff_eq.mp hhome]
  · rename_i hhome
    simpa using fun heq => absurd (beq_iff_eq.mpr heq) hhome

/-- A page is linked to as the first page of its book and language exactly if its slug is that of the
first page, or empty. -/
theorem ofPage_eq_home_iff (ref : PageRef) (page : Page) (site : Site) :
    ofPage ref page site = ofPage { ref with name := homepage } page site ↔
      Slug.ofPath ref.name = [] ∨ Slug.ofPath ref.name = homepage := by
  have hhome : namePart homepage = [] := namePart_eq_nil_iff.mpr (Or.inr rfl)
  rw [ofPage_eq, ofPage_eq, ← namePart_eq_nil_iff]
  simp only [location, hhome, List.append_cancel_left_eq, List.cons.injEq, true_and,
    List.nil_append, List.append_left_eq_self]

/-! ## Entries of an index -/

/-- The entry of an entry is the entry. -/
theorem indexEntry_indexEntry (ref : PageRef) : indexEntry (indexEntry ref) = indexEntry ref := by
  simp only [indexEntry, Slug.ofPath_ofPath]

/-- A page has the URL of its entry, with its section behind it. A slug is its own slug, so the entry
is taken for the first page exactly if the page is. -/
theorem ofPage_indexEntry (ref : PageRef) (page : Page) (site : Site) :
    ofPage (indexEntry ref) page site ++ fragmentPart ref.fragment = ofPage ref page site := by
  have hname : namePart (Slug.ofPath ref.name) = namePart ref.name := by
    simp only [namePart, Slug.ofPath_ofPath]
  have hlocation : location ref = location (indexEntry ref) ++ fragmentPart ref.fragment := by
    show versionPart ref.book ++ (namePart ref.name ++ _) =
      versionPart ref.book ++ (namePart (Slug.ofPath ref.name) ++ []) ++ _
    rw [hname, List.append_nil, List.append_assoc]
  rw [ofPage_eq, ofPage_eq, hlocation, List.append_assoc, List.cons_append, List.append_assoc,
    List.cons_append]
  rfl

/-! ## Books -/

/-- A book is a row of letters, and perhaps a version of two digits and a dot. -/
theorem isBook_parts {book : Text} (h : Token.IsBook book) :
    (∀ c ∈ baseBook book, isLowerLetter c = true) ∧
      (after? '-' book = none ∨ ∃ major minor, Digit.isDecimal major = true ∧
        Digit.isDecimal minor = true ∧ after? '-' book = some [major, '.', minor]) := by
  obtain ⟨letters, version, rfl, -, hletters, hversion⟩ := h
  have hhyphen : '-' ∉ letters := by
    intro hmem
    cases hletters '-' hmem
  rcases hversion with rfl | ⟨major, minor, hmajor, hminor, rfl⟩
  · rw [List.append_nil, baseBook, before_eq_self hhyphen]
    exact ⟨hletters, Or.inl (after?_eq_none hhyphen)⟩
  · rw [baseBook, before_append hhyphen]
    exact ⟨hletters, Or.inr ⟨major, minor, hmajor, hminor, after?_append hhyphen _⟩⟩

/-- A book is known by its name without the version, and the version. -/
theorem book_eq {book book' : Text} (hbase : baseBook book = baseBook book')
    (hversion : after? '-' book = after? '-' book') : book = book' := by
  rw [← before_append_after? '-' book, ← before_append_after? '-' book', hversion]
  exact congrArg (· ++ _) hbase

/-! ## Hosts -/

/-- A sign stands in a subdomain only if it stands in the book, but for the dot. -/
theorem not_mem_subdomain {book : Text} {c : Char} (hdot : c ≠ '.') (h : c ∉ book) :
    c ∉ subdomain book := by
  unfold subdomain
  split
  · exact List.not_mem_nil
  · rw [List.mem_append, List.mem_singleton, not_or]
    exact ⟨fun hmem => h ((List.takeWhile_prefix _).subset hmem), hdot⟩

theorem slash_not_mem_subdomain {book : Text} (h : Token.IsBook book) : '/' ∉ subdomain book :=
  not_mem_subdomain (by decide) (h.not_mem rfl rfl (by decide) (by decide))

theorem baseBook_eq_of_subdomain {book book' : Text} (h : subdomain book = subdomain book') :
    baseBook book = baseBook book' := by
  unfold subdomain at h
  -- the main book is the one with an empty subdomain; every other one ends with a dot
  split at h <;> split at h
  · rename_i hmain hmain'
    rw [beq_iff_eq] at hmain hmain'
    rw [hmain, hmain']
  · exact absurd h.symm (by simp)
  · exact absurd h (by simp)
  · exact List.append_cancel_right h

/-- The same domain behind two subdomains, and a slash: up to the slash the texts differ in their
subdomains only, so no domain makes them equal. -/
theorem subdomain_cut {book book' domain t t' : Text} (h : Token.IsBook book)
    (h' : Token.IsBook book')
    (heq : subdomain book ++ (domain ++ '/' :: t) = subdomain book' ++ (domain ++ '/' :: t')) :
    baseBook book = baseBook book' ∧ t = t' := by
  have hcut := congrArg (before '/') heq
  rw [before_append_left (slash_not_mem_subdomain h), before_append_cons,
    before_append_left (slash_not_mem_subdomain h'), before_append_cons] at hcut
  -- what the domain has before its own first slash is the same on both sides
  have hsubdomain : subdomain book = subdomain book' := List.append_cancel_right hcut
  rw [hsubdomain] at heq
  have hrest := List.append_cancel_left (List.append_cancel_left heq)
  exact ⟨baseBook_eq_of_subdomain hsubdomain, (List.cons.inj hrest).2⟩

/-! ## Locations -/

/-- A sign that no slug has stands in no page name of a URL. -/
theorem not_mem_namePart {c : Char} (hkeep : Slug.keeps ['/'] c = false) (hhyphen : c ≠ '-')
    (name : Text) : c ∉ namePart name := by
  unfold namePart
  split
  · exact List.not_mem_nil
  · exact Slug.not_mem_ofText hkeep hhyphen true name

/-- Only the first page has no name in its URL, if no slug is empty. -/
theorem ofPath_eq_of_namePart {name name' : Text} (hslug : Slug.ofPath name ≠ [])
    (hslug' : Slug.ofPath name' ≠ []) (h : namePart name = namePart name') :
    Slug.ofPath name = Slug.ofPath name' := by
  unfold namePart at h
  -- the name of the first page is left out, and no other slug is empty
  split at h <;> split at h
  · rename_i hhome hhome'
    rw [beq_iff_eq] at hhome hhome'
    rw [hhome, hhome']
  · exact absurd h.symm hslug'
  · exact absurd h hslug
  · exact h

/-- The section is what follows the first number sign. -/
theorem fragmentPart_cut {t : Text} (h : '#' ∉ t) (fragment : Option Text) :
    before '#' (t ++ fragmentPart fragment) = t ∧
      (after? '#' (t ++ fragmentPart fragment)).getD [] = fragment.getD [] := by
  unfold fragmentPart
  split
  · rename_i hnone
    rw [List.append_nil, before_eq_self h, after?_eq_none h, hnone]
    exact ⟨rfl, rfl⟩
  · rw [before_append h, after?_append h]
    exact ⟨rfl, rfl⟩

/-- A sign stands in the directory of a version only if it stands in the book, but for the slash. -/
theorem not_mem_versionPart {book : Text} {c : Char} (hslash : c ≠ '/') (h : c ∉ book) :
    c ∉ versionPart book := by
  unfold versionPart
  cases hafter : after? '-' book with
  | none => exact List.not_mem_nil
  | some version =>
    rw [Option.elim_some, List.mem_append, List.mem_singleton, not_or]
    refine ⟨fun hmem => h ?_, hslash⟩
    rw [← before_append_after? '-' book, hafter]
    exact List.mem_append_right _ (List.mem_cons_of_mem _ hmem)

/-- A sign stands in the section of a URL only if it stands in the fragment, but for the number
sign. -/
theorem not_mem_fragmentPart {fragment : Option Text} {c : Char} (hhash : c ≠ '#')
    (h : c ∉ fragment.getD []) : c ∉ fragmentPart fragment := by
  unfold fragmentPart
  split
  · exact List.not_mem_nil
  · rw [List.mem_cons, not_or]
    exact ⟨hhash, h⟩

/-- A version has a dot, and a page name has none, so what is a version in one URL is one in the
other. -/
theorem versionPart_cut {book book' name name' : Text} (h : Token.IsBook book)
    (h' : Token.IsBook book')
    (heq : versionPart book ++ namePart name = versionPart book' ++ namePart name') :
    after? '-' book = after? '-' book' ∧ namePart name = namePart name' := by
  have hdot : ∀ t, '.' ∉ namePart t := not_mem_namePart rfl (by decide)
  unfold versionPart at heq
  -- a version on one side only would put its dot into the page name on the other
  rcases (isBook_parts h).2 with hnone | ⟨major, minor, -, -, hsome⟩ <;>
    rcases (isBook_parts h').2 with hnone' | ⟨major', minor', -, -, hsome'⟩
  · rw [hnone, hnone'] at heq
    exact ⟨hnone.trans hnone'.symm, heq⟩
  · rw [hnone, hsome'] at heq
    exact absurd (by simpa using congrArg ('.' ∈ ·) heq) (hdot name)
  · rw [hsome, hnone'] at heq
    exact absurd (by simpa using congrArg ('.' ∈ ·) heq) (hdot name')
  · rw [hsome, hsome'] at heq
    have hsame : major = major' ∧ minor = minor' ∧ namePart name = namePart name' := by
      simpa using heq
    obtain ⟨rfl, rfl, hname⟩ := hsame
    exact ⟨hsome.trans hsome'.symm, hname⟩

/-! ## Places -/

/-- A page with a place in the wiki: in a book, in a language, and under a name that has a slug. -/
structure IsPlaced (ref : PageRef) : Prop where
  book : Token.IsBook ref.book
  lang : isLangCode ref.lang = true
  slug : Slug.ofPath ref.name ≠ []

/-- What stands behind the language tells the version, the slug and the section. -/
theorem location_cut {ref ref' : PageRef} (h : IsPlaced ref) (h' : IsPlaced ref')
    (heq : location ref = location ref') :
    after? '-' ref.book = after? '-' ref'.book ∧ Slug.ofPath ref.name = Slug.ofPath ref'.name ∧
      ref.fragment.getD [] = ref'.fragment.getD [] := by
  have hhash : ∀ {r : PageRef}, IsPlaced r → '#' ∉ versionPart r.book ++ namePart r.name := by
    intro r hr
    rw [List.mem_append, not_or]
    exact ⟨not_mem_versionPart (by decide) hr.book.hash_not_mem,
      not_mem_namePart rfl (by decide) r.name⟩
  obtain ⟨hbefore, hafter⟩ := fragmentPart_cut (hhash h) ref.fragment
  obtain ⟨hbefore', hafter'⟩ := fragmentPart_cut (hhash h') ref'.fragment
  rw [location, location, ← List.append_assoc, ← List.append_assoc] at heq
  rw [heq, hbefore'] at hbefore
  rw [heq, hafter'] at hafter
  obtain ⟨hversion, hname⟩ := versionPart_cut h.book h'.book hbefore.symm
  exact ⟨hversion, ofPath_eq_of_namePart h.slug h'.slug hname, hafter.symm⟩

/-- Two languages have the same length, so what stands behind them begins at the same place. -/
theorem lang_cut {lang lang' t t' : Text} (h : isLangCode lang = true)
    (h' : isLangCode lang' = true) (heq : lang ++ '/' :: t = lang' ++ '/' :: t') :
    lang = lang' ∧ t = t' := by
  obtain ⟨a, b, -, -, rfl⟩ := Token.isLangCode_iff.mp h
  obtain ⟨a', b', -, -, rfl⟩ := Token.isLangCode_iff.mp h'
  simpa [and_assoc] using heq

/-- Two places that share a URL are of one book, and agree in all that stands behind the host. -/
theorem host_cut {ref ref' : PageRef} (h : IsPlaced ref) (h' : IsPlaced ref') {page : Page}
    {site : Site} (heq : ofPage ref page site = ofPage ref' page site) :
    baseBook ref.book = baseBook ref'.book ∧
      ref.lang ++ '/' :: location ref = ref'.lang ++ '/' :: location ref' := by
  rw [ofPage_eq, ofPage_eq] at heq
  -- a URL with a host begins with a letter, and one without it with a slash
  split at heq <;> split at heq
  · rename_i hbook hbook'
    rw [beq_iff_eq] at hbook hbook'
    exact ⟨by rw [hbook, hbook'], (List.cons.inj heq).2⟩
  · exact absurd (List.cons.inj heq).1 (by decide)
  · exact absurd (List.cons.inj heq).1 (by decide)
  · generalize "http://".toList = scheme at heq
    simp only [List.append_assoc] at heq
    exact subdomain_cut h.book h'.book (List.append_cancel_left heq)

/-- Two places of the wiki have the same URL, seen from any page and under any domain, exactly if
they are the same place: the same book, language, slug and section. -/
theorem ofPage_eq_iff {ref ref' : PageRef} (h : IsPlaced ref) (h' : IsPlaced ref') (page : Page)
    (site : Site) :
    ofPage ref page site = ofPage ref' page site ↔
      ref.book = ref'.book ∧ ref.lang = ref'.lang ∧
        Slug.ofPath ref.name = Slug.ofPath ref'.name ∧
        ref.fragment.getD [] = ref'.fragment.getD [] := by
  constructor
  · intro heq
    obtain ⟨hbase, hpath⟩ := host_cut h h' heq
    obtain ⟨hlang, hlocation⟩ := lang_cut h.lang h'.lang hpath
    obtain ⟨hversion, hslug, hfragment⟩ := location_cut h h' hlocation
    exact ⟨book_eq hbase hversion, hlang, hslug, hfragment⟩
  · rintro ⟨hbook, hlang, hslug, hfragment⟩
    have hlocation : location ref = location ref' := by
      simp only [location, namePart, fragmentPart, hbook, hslug, hfragment]
    rw [ofPage_eq, ofPage_eq, hbook, hlang, hlocation]

/-- A section of a page of the main book, and a page of a version of another book whose URL is as
close as it can be: the domain begins like the subdomain. -/
theorem ofPage_ne_version :
    let page : Page := ⟨"forum".toList, "en".toList, homepage⟩
    let site : Site := { domain := "doc.doc.example".toList }
    let ref : PageRef := ⟨"www".toList, "en".toList, "2-0/Intro".toList, some "toc-x".toList⟩
    let ref' : PageRef := ⟨"doc-2.0".toList, "en".toList, "intro".toList, some "toc-x".toList⟩
    (IsPlaced ref ∧ IsPlaced ref') ∧ ofPage ref page site ≠ ofPage ref' page site := by
  intro page site ref ref'
  have hplaced : IsPlaced ref :=
    ⟨⟨"www".toList, [], rfl, by decide, List.all_eq_true.mp rfl, Or.inl rfl⟩, rfl,
      by decide⟩
  have hplaced' : IsPlaced ref' :=
    ⟨⟨"doc".toList, "-2.0".toList, rfl, by decide, List.all_eq_true.mp rfl,
      Or.inr ⟨'2', '0', rfl, rfl, rfl⟩⟩, rfl, by decide⟩
  refine ⟨⟨hplaced, hplaced'⟩, fun heq => ?_⟩
  have hbook := ((ofPage_eq_iff hplaced hplaced' page site).mp heq).1
  exact absurd hbook (by simp [ref, ref'])

end Address
end WikiMarkup
