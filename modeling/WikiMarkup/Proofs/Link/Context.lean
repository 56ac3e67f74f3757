import WikiMarkup.Proofs.Link.Resolve

/-!
# What a token takes from its page

A page token says of its target as much as its author writes, and the page that it stands on fills in
the rest: the book, the language, and for a bare name the directory. Nothing else of the page has a
part in where the token leads, so a token leads to the same place from two pages that agree on what
it leaves out.
-/

namespace WikiMarkup
namespace Token

open Text

/-! ## Parts and defaults -/

/-- Whether a token is taken for a page token, and the parts that it has. -/
def HasParts (token : Text) (parts : Parts) : Prop :=
  isExternal token = false ∧ token.head? ≠ some '#' ∧ split token = some parts

/-- The directory that a relative name on a page is below: that of the page, unless it is the root of
the book. -/
def base (page : Page) : Text :=
  if 1 < (directory page.name).length then directory page.name else []

/-- Whether two pages agree on what a token with certain parts leaves out. -/
def Parts.AgreeOn (parts : Parts) (page page' : Page) : Prop :=
  match parts.book, parts.lang with
  | some _, some _ => True
  | some _, none => page.lang = page'.lang
  | none, some _ => page.book = page'.book
  | none, none => page.book = page'.book ∧ page.lang = page'.lang ∧ base page = base page'

/-- A name without book, language or leading slash is below the directory of the page. -/
theorem pageName_relative {parts : Parts} (hbook : parts.book = none) (hlang : parts.lang = none)
    (hslash : (plainName parts.name).head? ≠ some '/') (page : Page) :
    pageName parts page = trimChar '/' (base page ++ plainName parts.name) := by
  have hrelative : ((plainName parts.name).head? != some '/' && parts.book.isNone &&
      parts.lang.isNone) = true := by simp [hbook, hlang, hslash]
  simp only [pageName, hrelative, Bool.true_and, decide_eq_true_eq, base]
  split
  · rfl
  · rfl

/-- Any other name is meant from the root of the book, whatever the page. -/
theorem pageName_absolute {parts : Parts}
    (h : parts.book ≠ none ∨ parts.lang ≠ none ∨ (plainName parts.name).head? = some '/')
    (page : Page) : pageName parts page = trimChar '/' (plainName parts.name) := by
  have habsolute : ((plainName parts.name).head? != some '/' && parts.book.isNone &&
      parts.lang.isNone) = false := by
    rcases h with hbook | hlang | hslash
    · simp [Option.isNone_eq_false_iff.mpr (Option.isSome_iff_ne_none.mpr hbook)]
    · simp [Option.isNone_eq_false_iff.mpr (Option.isSome_iff_ne_none.mpr hlang)]
    · simp [hslash]
  simp only [pageName, habsolute, Bool.false_and, Bool.false_eq_true, if_false]

section AgreeOn

variable {parts : Parts} {page page' : Page}

theorem Parts.AgreeOn.book (h : parts.AgreeOn page page') :
    parts.book.getD (defaultBook page) = parts.book.getD (defaultBook page') := by
  obtain ⟨book, lang, name, heading⟩ := parts
  cases book with
  | some book => rfl
  | none =>
    have hbook : page.book = page'.book := by
      cases lang with
      | some lang => exact h
      | none => exact h.1
    simp only [defaultBook, hbook]

theorem Parts.AgreeOn.lang (h : parts.AgreeOn page page') :
    parts.lang.getD page.lang = parts.lang.getD page'.lang := by
  obtain ⟨book, lang, name, heading⟩ := parts
  cases lang with
  | some lang => rfl
  | none =>
    cases book with
    | some book => exact h
    | none => exact h.2.1

theorem Parts.AgreeOn.pageName (h : parts.AgreeOn page page') :
    Token.pageName parts page = Token.pageName parts page' := by
  by_cases habsolute : parts.book ≠ none ∨ parts.lang ≠ none ∨
      (plainName parts.name).head? = some '/'
  · exact (pageName_absolute habsolute page).trans (pageName_absolute habsolute page').symm
  · -- only here the name is relative, and only here the directories have to agree
    obtain ⟨book, lang, name, heading⟩ := parts
    simp only [ne_eq, not_or, not_not] at habsolute
    obtain ⟨rfl, rfl, hslash⟩ := habsolute
    have hbase : base page = base page' := h.2.2
    have hbelow : ∀ page, Token.pageName ⟨none, none, name, heading⟩ page =
        trimChar '/' (base page ++ plainName name) := pageName_relative rfl rfl hslash
    simp only [hbelow, hbase]

end AgreeOn

/-- Pages that agree on what a token leaves out give it the same target. -/
theorem read_eq_of_agreeOn {token : Text} {page page' : Page}
    (h : ∀ parts, split token = some parts → parts.AgreeOn page page') :
    read token page = read token page' := by
  cases hsplit : split token with
  | none => simp only [read, hsplit, Option.map_none]
  | some parts =>
    have hagree := h parts hsplit
    simp only [read, hsplit, Option.map_some, hagree.book, hagree.lang, hagree.pageName]

/-! ## Names of the first page -/

/-- A name with slashes for its colons. -/
def path (written : Text) : Text := written.map fun c => if c == ':' then '/' else c

/-- Whether a name is written from the root of the book: behind a slash, or a colon for one. -/
def IsRooted (written : Text) : Prop := written.head? = some '/' ∨ written.head? = some ':'

theorem head?_path {written : Text} (h : IsRooted written) : (path written).head? = some '/' := by
  rw [path, List.head?_map]
  rcases h with hslash | hcolon
  · rw [hslash]
    rfl
  · rw [hcolon]
    rfl

/-- Whether a name is one of the first page's: nothing but slashes, or its name in any case with
slashes around it. -/
def IsHome (written : Text) : Prop :=
  trimChar '/' (path written) = [] ∨ lowerAscii (trimChar '/' (path written)) = homepage

instance (written : Text) : Decidable (IsHome written) := inferInstanceAs (Decidable (_ ∨ _))

/-- A name is cut at its end only, but for those of the first page, which become its own name. -/
theorem plainName_cases (written : Text) :
    (IsHome written ∧ plainName written = homepage) ∨
      ¬ IsHome written ∧ plainName written = trimEnd (· == '/') (path written) := by
  have htrim : trimChar '/' (trimEnd (· == '/') (path written)) = trimChar '/' (path written) :=
    trimBy_trimEnd _ _
  have hhome : (List.isEmpty (trimEnd (· == '/') (path written)) ||
      trimChar '/' (lowerAscii (trimEnd (· == '/') (path written))) == homepage) = true ↔
        IsHome written := by
    rw [Bool.or_eq_true, List.isEmpty_iff, beq_iff_eq, ← lowerAscii_trimChar rfl, htrim,
      trimEnd_eq_nil_iff]
    rfl
  unfold plainName
  dsimp only
  split
  · rename_i hcondition
    exact Or.inl ⟨hhome.mp hcondition, rfl⟩
  · rename_i hcondition
    exact Or.inr ⟨fun h => hcondition (hhome.mpr h), rfl⟩

/-- Without the slashes around it a plain name is the path that is written, but for the names of the
first page. -/
theorem trimChar_plainName {written : Text} (hhome : ¬ IsHome written) :
    trimChar '/' (plainName written) = trimChar '/' (path written) := by
  rcases plainName_cases written with ⟨h, -⟩ | ⟨-, hplain⟩
  · exact absurd h hhome
  · rw [hplain]
    exact trimBy_trimEnd _ _

/-- A name of the first page is below the directory of the page, even if it is written from the root
of the book. -/
theorem pageName_home {parts : Parts} (hbook : parts.book = none) (hlang : parts.lang = none)
    (hhome : IsHome parts.name) (page : Page) :
    pageName parts page = trimChar '/' (base page ++ homepage) := by
  rcases plainName_cases parts.name with ⟨-, hplain⟩ | ⟨hother, -⟩
  · have hslash : (plainName parts.name).head? ≠ some '/' := by
      rw [hplain]
      decide
    rw [pageName_relative hbook hlang hslash, hplain]
  · exact absurd hhome hother

/-- Any other name from the root of the book stays there. -/
theorem pageName_rooted {parts : Parts} (hroot : IsRooted parts.name)
    (hhome : ¬ IsHome parts.name) (page : Page) :
    pageName parts page = trimChar '/' (path parts.name) := by
  rcases plainName_cases parts.name with ⟨h, -⟩ | ⟨-, hplain⟩
  · exact absurd h hhome
  · have hne : trimEnd (· == '/') (path parts.name) ≠ [] := by
      intro hnil
      exact hhome (Or.inl (trimEnd_eq_nil_iff.mp hnil))
    -- what is cut is at the end, so the slash at the beginning stays
    have hslash : (plainName parts.name).head? = some '/' := by
      obtain ⟨rest, hrest⟩ : trimEnd (· == '/') (path parts.name) <+: path parts.name :=
        List.rdropWhile_prefix _ _
      have hhead := head?_path hroot
      rwa [← hrest, List.head?_append_of_ne_nil _ hne, ← hplain] at hhead
    rw [pageName_absolute (Or.inr (Or.inr hslash)), trimChar_plainName hhome]

end Token

namespace Link

open Text

/-! ## Two pages -/

/-- Of the page a target takes nothing but the book, for the directory of an attachment. -/
theorem resolveTarget_eq_of_book {target : Token.Target} {page page' : Page}
    (h : target.book = "attachment".toList → page.book = page'.book) (files : FileSystem)
    (site : Site) :
    resolveTarget files site page target = resolveTarget files site page' target := by
  by_cases hattachment : target.book = "attachment".toList
  · simp only [resolveTarget_attachment hattachment, h hattachment]
  · unfold resolveTarget
    cases hkind : Namespace.ofBook target.book with
    | attachment => exact absurd (Namespace.ofBook_eq_attachment_iff.mp hkind) hattachment
    | download | api | user | php | ordinary => rfl

/-- A token leads to the same place from two pages on which it is read in the same way. -/
theorem resolve_eq_of_read {token : Text} {page page' : Page}
    (hread : Token.isExternal token = false → token.head? ≠ some '#' →
      Token.read token page = Token.read token page')
    (hattachment : ∀ target, Token.Reads token page target →
      target.book = "attachment".toList → page.book = page'.book)
    (files : FileSystem) (site : Site) :
    resolve files site page token = resolve files site page' token := by
  unfold resolve
  split
  · rfl
  · rename_i hexternal
    rw [Bool.not_eq_true] at hexternal
    split
    · rfl
    · rename_i hsection
      have hhead : token.head? ≠ some '#' := by
        intro hhead
        obtain ⟨rest, hrest⟩ := List.head?_eq_some_iff.mp hhead
        exact hsection rest hrest
      rw [← hread hexternal hhead]
      split
      · rfl
      · rename_i target htarget
        exact resolveTarget_eq_of_book (hattachment target ⟨hexternal, hhead, htarget⟩) files site

/-- A token leads to the same place from two pages that agree on what it leaves out: on the language
if it gives only a book, on the book if it gives only a language, and on both and the directory if it
gives neither; one for an attachment also takes the book of the page. A token that is no page token
leads to the same place from all pages. -/
theorem resolve_eq_of_agreeOn {token : Text} {page page' : Page}
    (hparts : ∀ parts, Token.HasParts token parts → parts.AgreeOn page page')
    (hattachment : ∀ target, Token.Reads token page target →
      target.book = "attachment".toList → page.book = page'.book)
    (files : FileSystem) (site : Site) :
    resolve files site page token = resolve files site page' token := by
  refine resolve_eq_of_read (fun hexternal hsection => ?_) hattachment files site
  exact Token.read_eq_of_agreeOn fun parts hsplit => hparts parts ⟨hexternal, hsection, hsplit⟩

/-- A bare name on two pages of one directory, whose names differ. -/
theorem resolve_eq_of_agreeOn_directory :
    let page : Page := ⟨"meta".toList, "en".toList, "guide/setup".toList⟩
    let page' : Page := ⟨"meta".toList, "en".toList, "guide/upgrade".toList⟩
    let token : Text := "../faq#Install".toList
    (∀ parts, Token.HasParts token parts → parts.AgreeOn page page') ∧
      (∀ target, Token.Reads token page target →
        target.book = "attachment".toList → page.book = page'.book) ∧
      resolve .empty {} page token = resolve .empty {} page' token := by
  intro page page' token
  have hparts : ∀ parts, Token.HasParts token parts → parts.AgreeOn page page' := by
    rintro parts ⟨-, -, hsplit⟩
    obtain rfl : (⟨none, none, "../faq".toList, "Install".toList⟩ : Token.Parts) = parts :=
      Option.some.inj hsplit
    exact ⟨rfl, rfl, rfl⟩
  have hattachment : ∀ target, Token.Reads token page target →
      target.book = "attachment".toList → page.book = page'.book := fun _ _ _ => rfl
  exact ⟨hparts, hattachment, resolve_eq_of_agreeOn hparts hattachment _ _⟩

/-- A name that is written from the root of the book does not depend on the name of the page exactly
if it is none of the first page's; and then neither does the place that the token leads to. A name of
the first page loses its slash and is taken for a name below the directory of the page. -/
theorem resolve_rooted {token : Text} {parts : Token.Parts} (hsplit : Token.split token = some parts)
    (hbook : parts.book = none) (hlang : parts.lang = none) (hroot : Token.IsRooted parts.name)
    (page : Page) :
    ((∀ name, Token.pageName parts { page with name } = Token.pageName parts page) ↔
        ¬ Token.IsHome parts.name) ∧
      (¬ Token.IsHome parts.name → ∀ name files site,
        resolve files site { page with name } token = resolve files site page token) := by
  have hsame : ¬ Token.IsHome parts.name → ∀ name,
      Token.pageName parts { page with name } = Token.pageName parts page := by
    intro hhome name
    rw [Token.pageName_rooted hroot hhome, Token.pageName_rooted hroot hhome]
  refine ⟨⟨?_, hsame⟩, ?_⟩
  · -- a page in a directory and one in none would give the first page two names
    intro hall hhome
    have hnames := (hall "a/b".toList).trans (hall "b".toList).symm
    rw [Token.pageName_home hbook hlang hhome, Token.pageName_home hbook hlang hhome] at hnames
    have hdistinct : trimChar '/' ("a/".toList ++ homepage) ≠ trimChar '/' ([] ++ homepage) := by
      decide
    exact hdistinct hnames
  · intro hhome name files site
    apply resolve_eq_of_read
    · intro _ _
      simp only [Token.read, hsplit, Option.map_some, hsame hhome]
      rfl
    · exact fun _ _ _ => rfl

/-- A name with a colon for the slash of the root. -/
theorem resolve_rooted_colon :
    let token : Text := ":basics/intro".toList
    let parts : Token.Parts := ⟨none, none, token, []⟩
    let page : Page := ⟨"doc".toList, "en".toList, "guide/setup".toList⟩
    (Token.split token = some parts ∧ Token.IsRooted parts.name ∧ ¬ Token.IsHome parts.name) ∧
      resolve .empty {} { page with name := "faq".toList } token =
        resolve .empty {} page token := by
  intro token parts page
  have hsplit : Token.split token = some parts := rfl
  have hroot : Token.IsRooted parts.name := Or.inr rfl
  have hhome : ¬ Token.IsHome parts.name := by
    rintro (hnil | hname)
    · cases hnil
    · cases hname
  exact ⟨⟨hsplit, hroot, hhome⟩, (resolve_rooted hsplit rfl rfl hroot page).2 hhome _ _ _⟩

/-- The first page, written from the root of the book: its name and the place it leads to depend on
the directory of the page. -/
theorem resolve_rooted_home :
    let token : Text := "/homepage".toList
    let parts : Token.Parts := ⟨none, none, token, []⟩
    let page : Page := ⟨"doc".toList, "en".toList, "guide/setup".toList⟩
    let page' : Page := { page with name := "setup".toList }
    (Token.HasParts token parts ∧ Token.IsRooted parts.name) ∧
      Token.pageName parts page ≠ Token.pageName parts page' ∧
      resolve .empty {} page token ≠ resolve .empty {} page' token := by
  intro token parts page page'
  have hparts : Token.HasParts token parts := ⟨rfl, by decide, rfl⟩
  have hnames : Token.pageName parts page ≠ Token.pageName parts page' := by decide
  refine ⟨⟨hparts, Or.inl rfl⟩, hnames, ?_⟩
  let below : PageRef := ⟨"doc".toList, "en".toList, "guide/homepage".toList, none⟩
  let top : PageRef := ⟨"doc".toList, "en".toList, homepage, none⟩
  have hbelow : resolve .empty {} page token = .ok { destination := .page below } := by
    rfl
  have htop : resolve .empty {} page' token = .ok { destination := .page top } := by
    rfl
  have hne : below ≠ top := by decide
  rw [hbelow, htop]
  intro h
  exact hne (Destination.page.inj (congrArg Resolution.destination (Except.ok.inj h)))

end Link
end WikiMarkup
