import WikiMarkup.Conversion.Link
import WikiMarkup.Proofs.Link.Anchor
import WikiMarkup.Proofs.Link.Token

/-!
# Canonical tokens

A page that a token leads to can be named in full, by its book, its language, its name and its
anchor. Such a token leads to the same page from every page: resolving is a projection onto the
tokens in that form.
-/

namespace WikiMarkup
namespace Token

open Text

/-! ## Page names -/

/-- The names that a link can lead to: not empty, without slashes at their ends, and with only one
name for the first page. -/
structure IsPageName (name : Text) : Prop where
  ne_nil : name ≠ []
  head : ∀ c, name.head? = some c → (c == '/') = false
  last : ∀ c, name.getLast? = some c → (c == '/') = false
  home : lowerAscii name = homepage → name = homepage

/-- What is left of a name without the slashes around it, if it does not end with one. -/
theorem isPageName_trimChar {name : Text} (hne : name ≠ [])
    (hlast : ∀ c, name.getLast? = some c → (c == '/') = false)
    (hhome : lowerAscii (trimChar '/' name) = homepage → trimChar '/' name = homepage) :
    IsPageName (trimChar '/' name) where
  ne_nil := by
    rw [trimChar, trimBy_eq_dropWhile hlast, ne_eq, List.dropWhile_eq_nil_iff]
    intro hall
    have hslash := hall _ (List.getLast_mem hne)
    have hnot := hlast _ (List.getLast?_eq_getLast_of_ne_nil hne)
    rw [hslash] at hnot
    cases hnot
  head := fun _ hc => head?_trimBy (p := (· == '/')) hc
  last := fun _ hc => getLast?_trimBy (p := (· == '/')) hc
  home := hhome

/-- A plain name is the first page's, or no other spelling of it; it does not end with a slash. -/
theorem plainName_spec (written : Text) :
    plainName written ≠ [] ∧
      (∀ c, (plainName written).getLast? = some c → (c == '/') = false) ∧
      (plainName written = homepage ∨
        trimChar '/' (lowerAscii (plainName written)) ≠ homepage) := by
  simp only [plainName]
  split
  · refine ⟨by decide, ?_, Or.inl rfl⟩
    intro c hc
    have hend : homepage.getLast? = some 'e' := rfl
    rw [hend] at hc
    cases hc
    rfl
  · rename_i hother
    rw [Bool.or_eq_true, not_or, List.isEmpty_iff, beq_iff_eq] at hother
    exact ⟨hother.1, fun _ hc => getLast?_trimEnd (p := (· == '/')) hc, Or.inr hother.2⟩

/-- A plain name without the slashes around it is a page name. -/
theorem isPageName_plainName (written : Text) : IsPageName (trimChar '/' (plainName written)) := by
  obtain ⟨hne, hlast, hhome⟩ := plainName_spec written
  apply isPageName_trimChar hne hlast
  intro h
  rcases hhome with heq | hother
  · rw [heq]
    rfl
  · rw [lowerAscii_trimChar rfl] at h
    exact absurd h hother

/-- A directory is empty or ends with a slash. -/
theorem directory_eq_nil_or (path : Text) :
    directory path = [] ∨ ∃ parent, directory path = parent ++ ['/'] := by
  rcases List.eq_nil_or_concat (directory path) with hnil | ⟨parent, c, hconcat⟩
  · exact Or.inl hnil
  · right
    rw [List.concat_eq_append] at hconcat
    have hlast : (directory path).getLast? = some c := by rw [hconcat, List.getLast?_concat]
    have hslash : (c != '/') = false := getLast?_trimEnd (p := (· != '/')) hlast
    have heq : c = '/' := by simpa using hslash
    exact ⟨parent, by rw [hconcat, heq]⟩

/-- A plain name below a directory is a page name. -/
theorem isPageName_below (path written : Text) :
    IsPageName (trimChar '/' (directory path ++ plainName written)) := by
  by_cases hall : ∀ c ∈ directory path, (c == '/') = true
  · rw [trimChar, trimBy_append_left _ hall]
    exact isPageName_plainName written
  · obtain ⟨hne, hlast, -⟩ := plainName_spec written
    have hlast' : ∀ c, (directory path ++ plainName written).getLast? = some c →
        (c == '/') = false := by
      intro c hc
      rw [List.getLast?_append_of_ne_nil _ hne] at hc
      exact hlast c hc
    apply isPageName_trimChar (by simp [hne]) hlast'
    intro hhome
    -- the directory leaves a slash inside the name, and the first page's name has none
    obtain hnil | ⟨parent, hparent⟩ := directory_eq_nil_or path
    · simp [hnil] at hall
    · have hrest : parent.dropWhile (· == '/') ≠ [] := by
        rw [ne_eq, List.dropWhile_eq_nil_iff]
        intro hslashes
        apply hall
        intro c hc
        rw [hparent, List.mem_append, List.mem_singleton] at hc
        rcases hc with hc | rfl
        · exact hslashes c hc
        · rfl
      have hslash : '/' ∈ trimChar '/' (directory path ++ plainName written) := by
        rw [trimChar, trimBy_eq_dropWhile hlast', hparent, List.append_assoc,
          List.dropWhile_append, if_neg (by simpa using hrest)]
        simp
      have hmem : '/' ∈ homepage := by
        rw [← hhome]
        exact List.mem_map.mpr ⟨'/', hslash, rfl⟩
      exact absurd hmem (by decide)

theorem isPageName_pageName (parts : Parts) (page : Page) : IsPageName (pageName parts page) := by
  simp only [pageName]
  split
  · exact isPageName_below page.name parts.name
  · exact isPageName_plainName parts.name

/-- A page name that is written behind a colon, in a token with a book and a language, is meant as
it is. -/
theorem pageName_colon {name : Text} (h : IsPageName name) (hcolon : ':' ∉ name) (book lang : Text)
    (heading : Text) (page : Page) :
    pageName ⟨some book, some lang, ':' :: name, heading⟩ page = name := by
  have hmap : (':' :: name).map (fun c => if c == ':' then '/' else c) = '/' :: name := by
    rw [List.map_cons]
    congr 1
    refine (List.map_congr_left fun c hc => ?_).trans (List.map_id name)
    have hne : c ≠ ':' := fun heq => hcolon (heq ▸ hc)
    simp [hne]
  have hlast : ∀ c, ('/' :: name).getLast? = some c → (c == '/') = false := by
    intro c hc
    rw [List.getLast?_cons_of_ne_nil h.ne_nil] at hc
    exact h.last c hc
  have htrim : trimChar '/' ('/' :: name) = name := by
    rw [trimChar, trimBy_eq_dropWhile hlast]
    exact dropWhile_eq_self h.head
  have hlower : trimChar '/' (lowerAscii ('/' :: name)) = lowerAscii name := by
    rw [← lowerAscii_trimChar rfl, htrim]
  -- another spelling of the first page's name is no page name, so the name is left as it is
  have hplain : trimChar '/' (plainName (':' :: name)) = name := by
    simp only [plainName, hmap, trimEnd_eq_self hlast, hlower]
    split
    · rename_i hhome
      have hname : lowerAscii name = homepage := by simpa using hhome
      rw [h.home hname]
      rfl
    · exact htrim
  simpa [pageName] using hplain

end Token

namespace Link

open Text

/-! ## Pages that a token leads to -/

/-- The page that a page token leads to, if its book is a book of the wiki. -/
def targetRef (target : Token.Target) : PageRef where
  book := target.book
  lang := target.lang
  name := target.name
  fragment := if target.heading.isEmpty then none else some (Anchor.ofSection target.heading)

theorem resolveTarget_ordinary {target : Token.Target}
    (h : Namespace.ofBook target.book = .ordinary) (files : FileSystem) (site : Site)
    (page : Page) :
    resolveTarget files site page target = .ok { destination := .page (targetRef target) } := by
  rw [resolveTarget, h]
  rfl

/-- A page token that leads to a page has a book of the wiki. -/
theorem resolveTarget_page {files : FileSystem} {site : Site} {page : Page}
    {target : Token.Target} {r : Resolution} {ref : PageRef}
    (h : resolveTarget files site page target = .ok r) (hpage : r.destination = .page ref) :
    Namespace.ofBook target.book = .ordinary ∧ ref = targetRef target := by
  cases hkind : Namespace.ofBook target.book with
  | ordinary =>
    rw [resolveTarget_ordinary hkind] at h
    cases h
    exact ⟨rfl, (Destination.page.inj hpage).symm⟩
  | download | api | php =>
    rw [resolveTarget, hkind] at h
    cases h
    cases hpage
  | attachment =>
    rw [resolveTarget, hkind] at h
    cases hfile : files.isFile (attachmentPath site page.book target.name) with
    | error e =>
      rw [hfile] at h
      cases h
    | ok found =>
      rw [hfile] at h
      cases h
      cases hpage
  | user =>
    rw [resolveTarget, hkind] at h
    cases hnumber : leadingNumber target.writtenName with
    | error e =>
      rw [hnumber] at h
      cases h
    | ok n =>
      rw [hnumber] at h
      cases h
      cases hpage

/-- A token that leads to a page is read as a page token with a book of the wiki. -/
theorem resolve_page {files : FileSystem} {site : Site} {page : Page} {token : Text}
    {r : Resolution} {ref : PageRef} (h : resolve files site page token = .ok r)
    (hpage : r.destination = .page ref) :
    ∃ target, Token.read token page = some target ∧
      Namespace.ofBook target.book = .ordinary ∧ ref = targetRef target := by
  unfold resolve at h
  split at h
  · cases h
    cases hpage
  · split at h
    · cases h
      cases hpage
    · split at h
      · cases h
        cases hpage
      · rename_i target hread
        exact ⟨target, hread, resolveTarget_page h hpage⟩

/-- A token that is not external and does not begin with `#` leads where it is read. -/
theorem resolve_of_read {page : Page} {token : Text} {target : Token.Target}
    (hexternal : Token.isExternal token = false) (hsection : token.head? ≠ some '#')
    (hread : Token.read token page = some target)
    (hkind : Namespace.ofBook target.book = .ordinary) (files : FileSystem) (site : Site) :
    resolve files site page token = .ok { destination := .page (targetRef target) } := by
  unfold resolve
  rw [hexternal, if_neg Bool.false_ne_true]
  split
  · exact absurd rfl hsection
  · rw [hread]
    exact resolveTarget_ordinary hkind files site page

/-- What a link to a page is made of. -/
structure IsLinked (ref : PageRef) : Prop where
  book : Token.IsBook ref.book
  lang : isLangCode ref.lang = true
  name : Token.IsPageName ref.name
  ordinary : Namespace.ofBook ref.book = .ordinary
  fragment : ∀ f, ref.fragment = some f → ∃ title, f = Anchor.ofSection title

/-- Every page that a token leads to, from a page with a book and a language, is made so. -/
theorem isLinked_targetRef {page : Page} {token : Text} {target : Token.Target}
    (hbook : Token.IsBook page.book) (hlang : isLangCode page.lang = true)
    (hread : Token.read token page = some target)
    (hkind : Namespace.ofBook target.book = .ordinary) : IsLinked (targetRef target) := by
  obtain ⟨parts, hsplit, rfl⟩ := Option.map_eq_some_iff.mp hread
  obtain ⟨hpartsBook, hpartsLang⟩ := Token.split_parts hsplit
  constructor
  case book =>
    cases hb : parts.book with
    | none =>
      simp only [targetRef, Option.getD_none]
      exact Token.isBook_defaultBook hbook
    | some book =>
      simp only [targetRef, Option.getD_some]
      exact hpartsBook book hb
  case lang =>
    cases hl : parts.lang with
    | none => simpa [targetRef, hl] using hlang
    | some lang => simpa [targetRef, hl] using hpartsLang lang hl
  case name => exact Token.isPageName_pageName parts page
  case ordinary => exact hkind
  case fragment =>
    intro f hf
    simp only [targetRef] at hf
    split at hf
    · cases hf
    · exact ⟨parts.heading, (Option.some.inj hf).symm⟩

/-! ## Tokens in full -/

/-- The token that names a page in full. -/
def canonical (ref : PageRef) : Text :=
  ref.book ++ ':' :: (ref.lang ++ ':' :: (ref.name ++ ref.fragment.elim [] ('#' :: ·)))

theorem IsLinked.not_mem_fragment {ref : PageRef} (h : IsLinked ref) {c : Char}
    (hsign : isLetterOrDigit c = false) (hhyphen : c ≠ '-') {f : Text}
    (hf : ref.fragment = some f) : c ∉ f := by
  obtain ⟨title, rfl⟩ := h.fragment f hf
  exact not_mem_anchor hsign hhyphen _

/-- The token of a linked page has the parts of the page. -/
theorem split_canonical {ref : PageRef} (h : IsLinked ref) (hname : '#' ∉ ref.name) :
    Token.split (canonical ref) =
      some ⟨some ref.book, some ref.lang, ':' :: ref.name, ref.fragment.getD []⟩ := by
  have hcolon : '#' ∉ ':' :: ref.name := by simpa using hname
  have hlang : ∀ rest, Token.readLang (ref.lang ++ ':' :: rest) = some (ref.lang, ':' :: rest) :=
    fun rest => Token.readLang_append h.lang (Or.inr (Or.inr ⟨':', rfl, Or.inl rfl⟩)) (Or.inl rfl)
  unfold Token.split canonical
  rw [Token.readBook_append h.book]
  dsimp only
  rw [hlang]
  dsimp only
  cases hf : ref.fragment with
  | none =>
    rw [Option.elim_none, List.append_nil, after?_eq_none hcolon, before_eq_self hcolon]
    rfl
  | some f =>
    have hline : '\n' ∉ f := h.not_mem_fragment rfl (by decide) hf
    rw [Option.elim_some, ← List.cons_append, after?_append hcolon, before_append hcolon,
      Option.getD_some, if_neg (by simpa using hline)]

/-- The token of a linked page is read as that page. -/
theorem read_canonical {ref : PageRef} (h : IsLinked ref) (hhash : '#' ∉ ref.name)
    (hcolon : ':' ∉ ref.name) (page : Page) :
    ∃ target, Token.read (canonical ref) page = some target ∧ targetRef target = ref := by
  have hname := Token.pageName_colon h.name hcolon ref.book ref.lang (ref.fragment.getD []) page
  refine ⟨_, congrArg (Option.map _) (split_canonical h hhash), ?_⟩
  simp only [targetRef, Option.getD_some, hname]
  obtain ⟨book, lang, name, fragment⟩ := ref
  cases fragment with
  | none => rfl
  | some f =>
    -- the anchor is read as the section that it is the anchor of
    obtain ⟨title, rfl⟩ := h.fragment f rfl
    have hfull : (Anchor.ofSection title).isEmpty = false := rfl
    simp only [Option.getD_some, hfull, ofSection_ofSection, Bool.false_eq_true, if_false]

/-- The token of a linked page has an `@` only in the name of the page. -/
theorem at_not_mem_canonical {ref : PageRef} (h : IsLinked ref) (hat : '@' ∉ ref.name) :
    '@' ∉ canonical ref := by
  have hbook : '@' ∉ ref.book := h.book.not_mem rfl (by decide) (by decide) (by decide)
  have hlang : '@' ∉ ref.lang := Token.not_mem_of_isLangCode h.lang rfl
  have hfragment : '@' ∉ ref.fragment.elim [] ('#' :: ·) := by
    cases hf : ref.fragment with
    | none => exact List.not_mem_nil
    | some f =>
      have hmem : '@' ∉ f := h.not_mem_fragment rfl (by decide) hf
      simpa using hmem
  simp [canonical, hbook, hlang, hat, hfragment]

/-- The token of a linked page leads to that page, from every page, unless it looks like an
address of the web or of mail. -/
theorem resolve_of_isLinked {ref : PageRef} (h : IsLinked ref) (hat : '@' ∉ ref.name)
    (hhash : '#' ∉ ref.name) (hcolon : ':' ∉ ref.name) (hscheme : ref.book ∉ Token.schemes)
    (files : FileSystem) (site : Site) (page : Page) :
    resolve files site page (canonical ref) = .ok { destination := .page ref } := by
  obtain ⟨target, hread, htarget⟩ := read_canonical h hhash hcolon page
  have hexternal : Token.isExternal (canonical ref) = false :=
    Token.isExternal_book h.book hscheme (at_not_mem_canonical h hat)
  have hsection : (canonical ref).head? ≠ some '#' := by
    obtain ⟨c, hhead, hlower⟩ := h.book.head
    rw [canonical, List.head?_append, hhead, Option.some_or]
    rintro heq
    rw [Option.some.inj heq] at hlower
    cases hlower
  have hkind : Namespace.ofBook target.book = .ordinary := by
    have hordinary := h.ordinary
    rwa [← htarget] at hordinary
  rw [resolve_of_read hexternal hsection hread hkind, htarget]

end Link
end WikiMarkup
