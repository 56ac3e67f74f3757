import WikiMarkup.Proofs.Link.Context
import WikiMarkup.Proofs.Link.Grammar

/-!
# Targets in special namespaces

A token in a special namespace is cut along the grammar of page tokens, which looks for a language
behind the book although a file, a class or a user has none. A target that begins like a language is
therefore cut short, and no other is.

* `read_book`: what a token with a book and without a section is read as.
* `read_special_iff`: a target in a special namespace is kept as it is written exactly if it does not
  begin like a language, and so is its path.
-/

namespace WikiMarkup
namespace Token

open Text

/-! ## Names that begin like a language -/

/-- Whether a name begins with what the grammar takes for a language. -/
def LeadsWithLang (name : Text) : Prop := ∃ lang rest, BeginsWithLang name lang rest

theorem leadsWithLang_iff {name : Text} : (readLang name).isSome = true ↔ LeadsWithLang name := by
  rw [Option.isSome_iff_exists, LeadsWithLang, Prod.exists]
  simp only [readLang_eq_some_iff]

instance (name : Text) : Decidable (LeadsWithLang name) := decidable_of_iff _ leadsWithLang_iff

/-- What stands behind a language is shorter than the name. -/
theorem BeginsWithLang.length_lt {name lang rest : Text} (h : BeginsWithLang name lang rest) :
    rest.length < name.length := by
  obtain ⟨a, b, -, -, rfl⟩ := isLangCode_iff.mp h.code
  obtain ⟨sign, -, rfl⟩ := h.text
  simp only [List.length_append, List.length_cons]
  omega

/-- A language at the beginning of a name is a part of its path. -/
theorem BeginsWithLang.trimChar_path {name lang rest : Text} (h : BeginsWithLang name lang rest) :
    trimChar '/' (path name) = lang ++ trimEnd (· == '/') (path rest) := by
  obtain ⟨a, b, ha, hb, rfl⟩ := isLangCode_iff.mp h.code
  obtain ⟨sign, hsign, rfl⟩ := h.text
  have hslash : ∀ c ∈ path sign, (c == '/') = true := by
    rcases hsign with rfl | rfl | rfl <;> simp [path]
  have hletter : ∀ {c}, isLowerLetter c = true → c ≠ '/' ∧ c ≠ ':' := by
    intro c hc
    constructor
    all_goals
      rintro rfl
      cases hc
  have hpath : path (sign ++ ([a, b] ++ rest)) = path sign ++ (a :: b :: path rest) := by
    simp [path, (hletter ha).2, (hletter hb).2]
  have ha' : (a == '/') = false := beq_eq_false_iff_ne.mpr (hletter ha).1
  have hb' : (b == '/') = false := beq_eq_false_iff_ne.mpr (hletter hb).1
  rw [hpath, trimChar, trimBy_append_left _ hslash, trimBy,
    List.dropWhile_cons_of_neg (by simp [ha']), trimEnd_cons (p := (· == '/')) ha',
    trimEnd_cons (p := (· == '/')) hb']
  rfl

/-- What stands behind a language leads to another page name than the whole name would. -/
theorem BeginsWithLang.plainName_ne {name lang rest : Text} (h : BeginsWithLang name lang rest)
    (hhome : ¬ IsHome name) : trimChar '/' (plainName rest) ≠ trimChar '/' (path name) := by
  intro heq
  rcases plainName_cases rest with ⟨-, hplain⟩ | ⟨hother, -⟩
  · -- the name would be one of the first page's itself
    apply hhome
    right
    rw [← heq, hplain]
    rfl
  · have hlength : (trimChar '/' (path rest)).length ≤ (trimEnd (· == '/') (path rest)).length :=
      length_trimBy_le _ _
    obtain ⟨a, b, -, -, hlang⟩ := isLangCode_iff.mp h.code
    rw [← trimChar_plainName hother, heq, h.trimChar_path, hlang, List.length_append,
      List.length_cons] at hlength
    omega

/-! ## Tokens with a book -/

/-- What a token with a book and without a section is read as. -/
theorem read_book {book name : Text} (hbook : IsBook book) (hhash : '#' ∉ name)
    {lang? : Option Text} {rest : Text} (hlang : Taken BeginsWithLang name lang? rest)
    (page : Page) :
    read (book ++ ':' :: name) page =
      some ⟨book, lang?.getD page.lang, trimChar '/' (plainName rest), rest, []⟩ := by
  have hrest : '#' ∉ rest := by
    obtain ⟨sign, -, heq, -⟩ := hlang.eq_lang_append
    rw [heq] at hhash
    exact fun hmem => hhash (List.mem_append_right _ hmem)
  have hheading : (after? '#' (book ++ ':' :: name)).getD [] = [] := by
    have hnot : '#' ∉ book ++ ':' :: name := by simp [hbook.hash_not_mem, hhash]
    rw [after?_eq_none hnot]
    rfl
  have hsplit : IsSplit (book ++ ':' :: name) ⟨some book, lang?, rest, []⟩ :=
    ⟨⟨name, rest, .given ⟨hbook, rfl⟩, hlang, (before_eq_self hrest).symm⟩, hheading.symm,
      List.not_mem_nil⟩
  have hname : pageName ⟨some book, lang?, rest, []⟩ page = trimChar '/' (plainName rest) :=
    pageName_absolute (Or.inl (Option.some_ne_none book)) page
  rw [read, split_eq_some_iff.mpr hsplit, Option.map_some, hname, Option.getD_some]

/-- A token with a book is read with that book, whatever stands behind it. -/
theorem book_of_read {book name : Text} (hbook : IsBook book) {page : Page} {target : Target}
    (h : read (book ++ ':' :: name) page = some target) : target.book = book := by
  obtain ⟨parts, hsplit, rfl⟩ := Option.map_eq_some_iff.mp h
  obtain ⟨_, _, htaken, -⟩ := (isSplit_of_split hsplit).cuts
  have hparts := (htaken.unique (fun _ _ _ => readBook_eq_some_iff) (.given ⟨hbook, rfl⟩)).1
  simp [hparts]

/-- The name of a special namespace is a book as far as the grammar goes. -/
theorem isBook_of_special {book : Text} (h : Namespace.ofBook book ≠ .ordinary) : IsBook book := by
  obtain ⟨name, hmem, rfl⟩ := Namespace.mem_named_of_ofBook rfl h
  have hnames : ∀ entry ∈ Namespace.named,
      3 ≤ entry.1.toList.length ∧ entry.1.toList.all isLowerLetter = true := by decide
  obtain ⟨hlength, hletters⟩ := hnames _ hmem
  exact ⟨name.toList, [], (List.append_nil _).symm, hlength, List.all_eq_true.mp hletters,
    Or.inl rfl⟩

/-- A target in a special namespace is kept as it is written exactly if it does not begin like a
language. So is its path, unless that is one of the first page's. Of a target that begins like a
language only what stands behind it is kept. -/
theorem read_special_iff {book name : Text} (hspecial : Namespace.ofBook book ≠ .ordinary)
    (hhash : '#' ∉ name) (page : Page) :
    ∃ target, read (book ++ ':' :: name) page = some target ∧ target.book = book ∧
      (target.writtenName = name ↔ ¬ LeadsWithLang name) ∧
      (¬ IsHome name → (target.name = trimChar '/' (path name) ↔ ¬ LeadsWithLang name)) ∧
      ∀ lang rest, BeginsWithLang name lang rest →
        target.lang = lang ∧ target.writtenName = rest := by
  have hbook : IsBook book := isBook_of_special hspecial
  by_cases hleads : LeadsWithLang name
  · obtain ⟨lang, rest, hbegins⟩ := hleads
    have hleads : LeadsWithLang name := ⟨lang, rest, hbegins⟩
    have hshorter : rest ≠ name := by
      intro heq
      have hlength := hbegins.length_lt
      rw [heq] at hlength
      exact absurd hlength (Nat.lt_irrefl _)
    refine ⟨_, read_book hbook hhash (.given hbegins) page, rfl, ?_, ?_, ?_⟩
    · exact iff_of_false hshorter (not_not_intro hleads)
    · intro hhome
      exact iff_of_false (hbegins.plainName_ne hhome) (not_not_intro hleads)
    · intro lang' rest' hbegins'
      rw [← readLang_eq_some_iff] at hbegins hbegins'
      cases hbegins.symm.trans hbegins'
      exact ⟨rfl, rfl⟩
  · have hnone : ∀ lang rest, ¬ BeginsWithLang name lang rest := by
      intro lang rest hbegins
      exact hleads ⟨lang, rest, hbegins⟩
    refine ⟨_, read_book hbook hhash (.missing hnone) page, rfl, iff_of_true rfl hleads, ?_, ?_⟩
    · intro hhome
      exact iff_of_true (trimChar_plainName hhome) hleads
    · intro lang rest hbegins
      exact absurd hbegins (hnone lang rest)

/-- A file in a folder, and further down a folder whose name could be a language. -/
theorem read_special_folder :
    let page : Page := ⟨"doc".toList, "en".toList, "guide/setup".toList⟩
    let name : Text := "img:cs/a b.png/".toList
    (Namespace.ofBook "attachment".toList ≠ .ordinary ∧ '#' ∉ name ∧ ¬ IsHome name ∧
        ¬ LeadsWithLang name) ∧
      ∃ target, read ("attachment".toList ++ ':' :: name) page = some target ∧
        target.writtenName = name ∧ target.name = "img/cs/a b.png".toList := by
  intro page name
  have hspecial : Namespace.ofBook "attachment".toList ≠ .ordinary := by decide
  have hhash : '#' ∉ name := by decide
  have hhome : ¬ IsHome name := by decide
  have hplain : ¬ LeadsWithLang name := by decide
  obtain ⟨target, hread, -, hwritten, hname, -⟩ := read_special_iff hspecial hhash page
  exact ⟨⟨hspecial, hhash, hhome, hplain⟩, target, hread, hwritten.mpr hplain,
    (hname hhome).mpr hplain⟩

/-- A folder and a function whose names are taken for languages: the file is looked for outside of
the folder, and nothing is left of the function. -/
theorem read_special_misread :
    let page : Page := ⟨"doc".toList, "en".toList, "guide/setup".toList⟩
    (∃ target, read "download:cs/manual.pdf".toList page = some target ∧
        target.writtenName ≠ "cs/manual.pdf".toList ∧ target.name = "manual.pdf".toList) ∧
      (∃ target, read "php:pi".toList page = some target ∧ target.writtenName ≠ "pi".toList) ∧
      Link.resolve .empty {} page "php:pi".toList =
        .ok { destination := .url "http://php.net/".toList } := by
  intro page
  exact ⟨⟨_, rfl, by decide, rfl⟩, ⟨_, rfl, by decide⟩, rfl⟩

end Token
end WikiMarkup
