import WikiMarkup.Link.Token
import WikiMarkup.Page.Basic
import WikiMarkup.Proofs.Text.Basic

/-!
# Laws of link tokens

Which tokens are external, what the readers of a page token accept, and the form of the page names
that come out of it. Each reader is given by the texts that it reads, so that what has been written
in that form can be read back.
-/

namespace WikiMarkup
namespace Token

open Text

/-! ## External tokens -/

/-- An ASCII character that is no capital is a case of no letter but itself. -/
theorem isCaseOf_iff {letter c : Char} (hascii : isAscii c = true)
    (hupper : isUpperLetter c = false) : isCaseOf letter c = true ↔ c = letter := by
  have hcode := isAscii_iff.mp hascii
  have hne : ∀ d : Char, 128 ≤ d.toNat → (c == d) = false := by
    intro d hd
    rw [beq_eq_false_iff_ne]
    rintro rfl
    omega
  simp [isCaseOf, lowerLetter_of_not_upper hupper, hne '\u017f' (by decide),
    hne '\u0130' (by decide), hne '\u0131' (by decide), hne '\u212a' (by decide)]

theorem isCaseOf_lowerLetter_iff {letter c : Char} (h : isLowerLetter c = true) :
    isCaseOf letter c = true ↔ c = letter := by
  have hcode := isLowerLetter_iff.mp h
  apply isCaseOf_iff
  · rw [isAscii_iff]
    omega
  · rw [Bool.eq_false_iff, ne_eq, isUpperLetter_iff]
    omega

/-- The first character of a beginning is matched by the first character of the text. -/
theorem dropPrefixAnyCase?_cons {letter : Char} {start t rest : Text}
    (h : dropPrefixAnyCase? (letter :: start) t = some rest) :
    ∃ c t', t = c :: t' ∧ isCaseOf letter c = true ∧ dropPrefixAnyCase? start t' = some rest := by
  cases t with
  | nil => cases h
  | cons c t' =>
    rw [dropPrefixAnyCase?] at h
    split at h
    · rename_i hcase
      exact ⟨c, t', rfl, hcase, h⟩
    · cases h

/-- What a beginning is matched by is as long, has the characters of the beginning in some case, and
is matched whatever follows it. -/
theorem dropPrefixAnyCase?_eq_some {start t rest : Text}
    (h : dropPrefixAnyCase? start t = some rest) :
    ∃ row, t = row ++ rest ∧ row.length = start.length ∧
      (∀ c ∈ row, ∃ letter ∈ start, isCaseOf letter c = true) ∧
      ∀ rest', dropPrefixAnyCase? start (row ++ rest') = some rest' := by
  induction start generalizing t with
  | nil =>
    cases h
    exact ⟨[], rfl, rfl, nofun, fun rest' => rfl⟩
  | cons letter start ih =>
    obtain ⟨c, t', rfl, hcase, htail⟩ := dropPrefixAnyCase?_cons h
    obtain ⟨row, rfl, hlength, hrow, hagain⟩ := ih htail
    refine ⟨c :: row, rfl, congrArg (· + 1) hlength, ?_, fun rest' => ?_⟩
    · rw [List.forall_mem_cons]
      refine ⟨⟨letter, List.mem_cons_self, hcase⟩, fun d hd => ?_⟩
      obtain ⟨letter', hletter', hcase'⟩ := hrow d hd
      exact ⟨letter', List.mem_cons_of_mem letter hletter', hcase'⟩
    · rw [List.cons_append, dropPrefixAnyCase?, if_pos hcase, hagain]

/-- No blank is a case of something else. -/
theorem eq_of_isCaseOf_blank {letter c : Char} (h : isCaseOf letter c = true)
    (hblank : isBlank c = true) : c = letter := by
  have hupper : isUpperLetter c = false := by
    rw [Bool.eq_false_iff, ne_eq, isUpperLetter_iff]
    simp only [isBlank, Bool.or_eq_true, Bool.and_eq_true, decide_eq_true_eq, beq_iff_eq] at hblank
    omega
  have hne : ∀ d : Char, isBlank d = false → (c == d) = false := by
    intro d hd
    rw [beq_eq_false_iff_ne]
    rintro rfl
    rw [hblank] at hd
    cases hd
  simpa [isCaseOf, lowerLetter_of_not_upper hupper, hne '\u017f' rfl, hne '\u0130' rfl,
    hne '\u0131' rfl, hne '\u212a' rfl] using h

/-- A row of lower-case letters begins like a word and a sign, in any case, only if it is the word
and the sign follows. -/
theorem eq_of_dropPrefixAnyCase? {word row t rest : Text} {sign : Char}
    (hword : ∀ c ∈ word, isLowerLetter c = true) (hsign : isLowerLetter sign = false)
    (hrow : ∀ c ∈ row, isLowerLetter c = true)
    (ht : ∀ c, t.head? = some c → isAscii c = true ∧ isLetter c = false)
    (h : dropPrefixAnyCase? (word ++ [sign]) (row ++ t) = some rest) :
    row = word ∧ t.head? = some sign := by
  -- behind the row stands no letter, so a character there matches nothing but itself
  have hbehind : ∀ {letter c : Char} {t' : Text}, t = c :: t' → isCaseOf letter c = true →
      c = letter := by
    rintro letter c t' rfl hcase
    obtain ⟨hascii, hletter⟩ := ht c rfl
    rw [isLetter, Bool.or_eq_false_iff] at hletter
    exact (isCaseOf_iff hascii hletter.2).mp hcase
  induction word generalizing row with
  | nil =>
    obtain ⟨c, t', htext, hcase, -⟩ := dropPrefixAnyCase?_cons h
    cases row with
    | nil =>
      have hc : c = sign := hbehind htext hcase
      exact ⟨rfl, by rw [← hc]; exact congrArg List.head? htext⟩
    | cons x row =>
      obtain ⟨rfl, -⟩ := List.cons.inj htext
      have hx := hrow x List.mem_cons_self
      rw [(isCaseOf_lowerLetter_iff hx).mp hcase, hsign] at hx
      cases hx
  | cons w word ih =>
    obtain ⟨c, t', htext, hcase, hrest⟩ := dropPrefixAnyCase?_cons h
    cases row with
    | nil =>
      have hc : c = w := hbehind htext hcase
      have hletter := (ht c (congrArg List.head? htext)).2
      rw [hc, isLetter, hword w List.mem_cons_self] at hletter
      cases hletter
    | cons x row =>
      obtain ⟨rfl, rfl⟩ := List.cons.inj htext
      obtain rfl := (isCaseOf_lowerLetter_iff (hrow x List.mem_cons_self)).mp hcase
      obtain ⟨rfl, hnext⟩ := ih (fun c hc => hword c (List.mem_cons_of_mem x hc))
        (fun c hc => hrow c (List.mem_cons_of_mem x hc)) hrest
      exact ⟨rfl, hnext⟩

/-- A token without `@` is external only by its beginning. -/
theorem isExternal_of_not_mem {token : Text} (hat : '@' ∉ token) :
    isExternal token =
      externalStarts.any fun start => (dropPrefixAnyCase? start.toList token).isSome := by
  have hline : ((firstLine token).drop 1).contains '@' = false := by
    rw [Bool.eq_false_iff, ne_eq, List.contains_iff_mem]
    intro hmem
    exact hat ((List.takeWhile_prefix _).subset (List.mem_of_mem_drop hmem))
  rw [isExternal, hline, Bool.false_or]

/-- A section token is external only if it has an `@`. -/
theorem isExternal_section {name : Text} (hat : '@' ∉ name) : isExternal ('#' :: name) = false := by
  rw [isExternal_of_not_mem (by simpa using hat)]
  rfl

/-! ## Books and languages -/

/-- The version of a book: nothing, or a hyphen and two decimal digits of any script with a dot
between them. -/
def IsVersion (t : Text) : Prop :=
  t = [] ∨ ∃ major minor, Digit.isDecimal major = true ∧ Digit.isDecimal minor = true ∧
    t = ['-', major, '.', minor]

/-- A book that a token can name: three or more lower-case letters, and perhaps a version. -/
def IsBook (t : Text) : Prop :=
  ∃ letters version, t = letters ++ version ∧ 3 ≤ letters.length ∧
    (∀ c ∈ letters, isLowerLetter c = true) ∧ IsVersion version

/-- A book begins with a lower-case letter. -/
theorem IsBook.head {book : Text} (h : IsBook book) :
    ∃ c, book.head? = some c ∧ isLowerLetter c = true := by
  obtain ⟨letters, version, rfl, hlength, hletters, -⟩ := h
  cases letters with
  | nil => cases hlength
  | cons c letters => exact ⟨c, rfl, hletters c List.mem_cons_self⟩

/-- A book is made of lower-case letters, decimal digits, hyphens and dots. -/
theorem IsBook.not_mem {book : Text} (h : IsBook book) {c : Char}
    (hletter : isLowerLetter c = false) (hdigit : Digit.isDecimal c = false) (hhyphen : c ≠ '-')
    (hdot : c ≠ '.') : c ∉ book := by
  obtain ⟨letters, version, rfl, -, hletters, hversion⟩ := h
  rw [List.mem_append, not_or]
  constructor
  · intro hmem
    rw [hletters c hmem] at hletter
    cases hletter
  · rcases hversion with rfl | ⟨major, minor, hmajor, hminor, rfl⟩
    · exact List.not_mem_nil
    · have hne : ∀ {d}, Digit.isDecimal d = true → c ≠ d := by
        rintro d hd rfl
        rw [hdigit] at hd
        cases hd
      simp [hhyphen, hdot, hne hmajor, hne hminor]

theorem IsBook.hash_not_mem {book : Text} (h : IsBook book) : '#' ∉ book :=
  h.not_mem rfl rfl (by decide) (by decide)

/-- Behind the letters of a book comes a hyphen or the colon. -/
theorem IsVersion.head_append {version : Text} (h : IsVersion version) {rest : Text} {c : Char}
    (hc : (version ++ ':' :: rest).head? = some c) : c = '-' ∨ c = ':' := by
  rcases h with rfl | ⟨major, minor, -, -, rfl⟩
  · right
    simpa using hc.symm
  · left
    simpa using hc.symm

theorem readBook_append {book : Text} (h : IsBook book) (rest : Text) :
    readBook (book ++ ':' :: rest) = some (book, rest) := by
  obtain ⟨letters, version, rfl, hlength, hletters, hversion⟩ := h
  have hstop : ∀ c, (version ++ ':' :: rest).head? = some c → isLowerLetter c = false := by
    intro c hc
    rcases hversion.head_append hc with rfl | rfl <;> rfl
  obtain ⟨htake, hdrop⟩ := takeWhile_append_stop hletters hstop
  rw [List.append_assoc, readBook, htake, hdrop, if_neg (by omega)]
  rcases hversion with rfl | ⟨major, minor, hmajor, hminor, rfl⟩
  · simp
  · simp [readVersion, hmajor, hminor]

theorem readVersion_eq_some {t version rest : Text} (h : readVersion t = some (version, rest)) :
    IsVersion version ∧ t = version ++ rest := by
  unfold readVersion at h
  split at h
  · rename_i major minor rest'
    split at h
    · rename_i hdigits
      cases h
      rw [Bool.and_eq_true] at hdigits
      exact ⟨Or.inr ⟨major, minor, hdigits.1, hdigits.2, rfl⟩, rfl⟩
    · cases h
  · cases h

/-- What is read as a book is one, and stands before a colon. -/
theorem readBook_eq_some {token book rest : Text} (h : readBook token = some (book, rest)) :
    IsBook book ∧ token = book ++ ':' :: rest := by
  have hletters : ∀ c ∈ token.takeWhile isLowerLetter, isLowerLetter c = true :=
    fun c hc => List.mem_takeWhile_imp hc
  have hsplit := List.takeWhile_append_dropWhile (p := isLowerLetter) (l := token)
  simp only [readBook] at h
  split at h
  · cases h
  · rename_i hlength
    have hthree : 3 ≤ (token.takeWhile isLowerLetter).length := Nat.not_lt.mp hlength
    split at h
    · rename_i rest' hdrop
      cases h
      refine ⟨⟨_, [], by simp, hthree, hletters, Or.inl rfl⟩, ?_⟩
      rw [← hdrop, hsplit]
    · split at h
      · rename_i version rest' hversion
        cases h
        obtain ⟨hv, hdrop⟩ := readVersion_eq_some hversion
        refine ⟨⟨_, version, rfl, hthree, hletters, hv⟩, ?_⟩
        rw [List.append_assoc, ← hdrop, hsplit]
      · cases h

theorem isLangCode_iff {t : Text} : isLangCode t = true ↔
    ∃ a b, isLowerLetter a = true ∧ isLowerLetter b = true ∧ t = [a, b] := by
  constructor
  · intro h
    simp only [isLangCode, Bool.and_eq_true, beq_iff_eq] at h
    obtain ⟨a, b, rfl⟩ := List.length_eq_two.mp h.1
    have hall : isLowerLetter a = true ∧ isLowerLetter b = true := by simpa using h.2
    exact ⟨a, b, hall.1, hall.2, rfl⟩
  · rintro ⟨a, b, ha, hb, rfl⟩
    simp [isLangCode, ha, hb]

theorem not_mem_of_isLangCode {lang : Text} (h : isLangCode lang = true) {c : Char}
    (hc : isLowerLetter c = false) : c ∉ lang := by
  intro hmem
  rw [isLangCode, Bool.and_eq_true] at h
  rw [List.all_eq_true.mp h.2 c hmem] at hc
  cases hc

/-- What can stand in front of a language: nothing, or a colon, or a slash. -/
def IsLangSign (sign : Text) : Prop := sign = [] ∨ sign = [':'] ∨ sign = ['/']

/-- Whether a text can stand behind a language: it is empty, or a single line end, or it begins with a
sign that cuts a token. -/
def IsLangEnd (rest : Text) : Prop :=
  rest = [] ∨ rest = ['\n'] ∨ ∃ c, rest.head? = some c ∧ (c = ':' ∨ c = '/' ∨ c = '#')

theorem endsLang_iff {rest : Text} : endsLang rest = true ↔ IsLangEnd rest := by
  unfold endsLang IsLangEnd
  split
  · simp
  · simp
  · rename_i c tail hfeed
    have hline : c :: tail ≠ ['\n'] := fun heq =>
      hfeed (List.cons.inj heq).1 (List.cons.inj heq).2
    simp [hline, or_assoc]

/-- A language is read where it stands, perhaps behind a separator. -/
theorem readLang_append {lang rest sign : Text} (h : isLangCode lang = true)
    (hrest : IsLangEnd rest) (hsign : IsLangSign sign) :
    readLang (sign ++ (lang ++ rest)) = some (lang, rest) := by
  obtain ⟨a, b, ha, hb, rfl⟩ := isLangCode_iff.mp h
  have hends : endsLang rest = true := endsLang_iff.mpr hrest
  rcases hsign with rfl | rfl | rfl
  · -- the language begins with a letter, so no separator is dropped in front of it
    have hcolon : a ≠ ':' := by
      rintro rfl
      cases ha
    have hslash : a ≠ '/' := by
      rintro rfl
      cases ha
    simp only [readLang, List.cons_append, List.nil_append]
    split
    · rename_i heq
      split at heq
      · rename_i heq'
        exact absurd (List.cons.inj heq').1 hcolon
      · rename_i heq'
        exact absurd (List.cons.inj heq').1 hslash
      · cases heq
        simp [ha, hb, hends]
    · rename_i hshort
      split at hshort
      · rename_i heq'
        exact absurd (List.cons.inj heq').1 hcolon
      · rename_i heq'
        exact absurd (List.cons.inj heq').1 hslash
      · exact absurd rfl (hshort a b rest)
  · simp [readLang, ha, hb, hends]
  · simp [readLang, ha, hb, hends]

/-- What is read as a language is one, and stands at the beginning, perhaps behind a separator, and
before a text that ends it. -/
theorem readLang_eq_some {token lang rest : Text} (h : readLang token = some (lang, rest)) :
    isLangCode lang = true ∧ IsLangEnd rest ∧
      ∃ sign, IsLangSign sign ∧ token = sign ++ (lang ++ rest) := by
  unfold readLang at h
  dsimp only at h
  split at h
  · rename_i a b rest' hbody
    obtain ⟨hletters, heq⟩ := Option.ite_none_right_eq_some.mp h
    cases heq
    rw [Bool.and_eq_true, Bool.and_eq_true] at hletters
    refine ⟨isLangCode_iff.mpr ⟨a, b, hletters.1.1, hletters.1.2, rfl⟩,
      endsLang_iff.mp hletters.2, ?_⟩
    split at hbody
    · exact ⟨[':'], Or.inr (Or.inl rfl), congrArg _ hbody⟩
    · exact ⟨['/'], Or.inr (Or.inr rfl), congrArg _ hbody⟩
    · exact ⟨[], Or.inl rfl, hbody⟩
  · cases h

/-- What stands for the book and the language in a page token. -/
theorem split_parts {token : Text} {parts : Parts} (h : split token = some parts) :
    (∀ book, parts.book = some book → IsBook book) ∧
      ∀ lang, parts.lang = some lang → isLangCode lang = true := by
  unfold split at h
  split at h
  rename_i book rest hbook
  split at h
  rename_i lang name hlang
  dsimp only at h
  split at h
  · cases h
  · cases h
    constructor
    · rintro _ rfl
      split at hbook
      · rename_i hread
        cases hbook
        exact (readBook_eq_some hread).1
      · cases hbook
    · rintro _ rfl
      split at hlang
      · rename_i hread
        cases hlang
        exact (readLang_eq_some hread).1
      · cases hlang

theorem isBook_defaultBook {page : Page} (h : IsBook page.book) : IsBook (defaultBook page) := by
  unfold defaultBook
  split
  · exact ⟨"www".toList, [], rfl, by decide, List.all_eq_true.mp rfl, Or.inl rfl⟩
  · exact h

/-- A token is cut at its first number sign: the book and the language in front of its name have
none. -/
theorem split_eq (token : Text) : ∃ book lang front rest, token = front ++ rest ∧ '#' ∉ front ∧
    split token =
      if ((after? '#' rest).getD []).contains '\n' then none
      else some ⟨book, lang, before '#' rest, (after? '#' rest).getD []⟩ := by
  unfold split
  split
  rename_i book rest hbook
  split
  rename_i lang name hlang
  obtain ⟨front, hfront, hhash⟩ : ∃ front, token = front ++ rest ∧ '#' ∉ front := by
    split at hbook
    · rename_i book' rest' hread
      cases hbook
      obtain ⟨hbook', rfl⟩ := readBook_eq_some hread
      exact ⟨book' ++ [':'], by simp, by simp [hbook'.hash_not_mem]⟩
    · cases hbook
      exact ⟨[], rfl, List.not_mem_nil⟩
  obtain ⟨front', hfront', hhash'⟩ : ∃ front, rest = front ++ name ∧ '#' ∉ front := by
    split at hlang
    · rename_i lang' rest' hread
      cases hlang
      obtain ⟨hlang', -, sign, hsign, rfl⟩ := readLang_eq_some hread
      have hnot : '#' ∉ lang' := not_mem_of_isLangCode hlang' rfl
      refine ⟨sign ++ lang', (List.append_assoc sign lang' name).symm, ?_⟩
      rcases hsign with rfl | rfl | rfl <;> simpa using hnot
    · cases hlang
      exact ⟨[], rfl, List.not_mem_nil⟩
  refine ⟨book, lang, front ++ front', name, ?_, ?_, rfl⟩
  · rw [List.append_assoc, ← hfront', hfront]
  · rw [List.mem_append, not_or]
    exact ⟨hhash, hhash'⟩

/-- What the name and the section of a token are. -/
theorem split_eq_some {token : Text} {parts : Parts} (h : split token = some parts) :
    ∃ front rest, token = front ++ rest ∧ '#' ∉ front ∧ parts.name = before '#' rest ∧
      parts.heading = (after? '#' rest).getD [] := by
  obtain ⟨book, lang, front, rest, htoken, hhash, hsplit⟩ := split_eq token
  obtain ⟨-, heq⟩ := Option.ite_none_left_eq_some.mp (hsplit.symm.trans h)
  cases heq
  exact ⟨front, rest, htoken, hhash, rfl, rfl⟩

/-- A token names no page exactly if its section goes over a line end. -/
theorem split_eq_none_iff {token : Text} :
    split token = none ↔ '\n' ∈ (after? '#' token).getD [] := by
  obtain ⟨book, lang, front, rest, rfl, hhash, hsplit⟩ := split_eq token
  rw [hsplit, after?_append_left hhash, ← List.contains_iff_mem]
  split
  · rename_i hline
    exact ⟨fun _ => hline, fun _ => rfl⟩
  · rename_i hline
    exact ⟨nofun, fun h => absurd h hline⟩

/-- The name in a token is a part of it. -/
theorem infix_of_split {token : Text} {parts : Parts} (h : split token = some parts) :
    parts.name <:+: token := by
  obtain ⟨front, rest, rfl, -, hname, -⟩ := split_eq_some h
  rw [hname]
  exact (List.takeWhile_prefix _).isInfix.trans (List.suffix_append front rest).isInfix

/-- The section of a token is what follows its first number sign. -/
theorem heading_of_split {token : Text} {parts : Parts} (h : split token = some parts) :
    parts.heading = (after? '#' token).getD [] := by
  obtain ⟨front, rest, rfl, hhash, -, hheading⟩ := split_eq_some h
  rw [after?_append_left hhash, hheading]

/-- The characters of a plain name come from the name that is written, but for slashes and the
letters of the first page's name. Colons are none of them. -/
theorem mem_plainName {written : Text} {c : Char} (h : c ∈ plainName written) :
    c = '/' ∨ c ∈ homepage ∨ c ∈ written ∧ c ≠ ':' := by
  unfold plainName at h
  dsimp only at h
  split at h
  · exact Or.inr (Or.inl h)
  · obtain ⟨d, hd, heq⟩ := List.mem_map.mp ((List.rdropWhile_prefix _ _).subset h)
    split at heq
    · exact Or.inl heq.symm
    · rename_i hcolon
      subst heq
      exact Or.inr (Or.inr ⟨hd, by simpa using hcolon⟩)

/-- The characters of a page name come from the name that is written or from the name of the page,
but for slashes and the letters of the first page's name. -/
theorem mem_pageName {parts : Parts} {page : Page} {c : Char} (hslash : c ≠ '/')
    (hhome : c ∉ homepage) (h : c ∈ pageName parts page) : c ∈ parts.name ∨ c ∈ page.name := by
  have hplain : c ∈ plainName parts.name → c ∈ parts.name := by
    intro hmem
    rcases mem_plainName hmem with heq | hletter | ⟨hname, -⟩
    · exact absurd heq hslash
    · exact absurd hletter hhome
    · exact hname
  unfold pageName at h
  have hname := mem_of_mem_trimBy h
  split at hname
  · rcases List.mem_append.mp hname with hdirectory | hname
    · exact Or.inr ((List.rdropWhile_prefix _ _).subset hdirectory)
    · exact Or.inl (hplain hname)
  · exact Or.inl (hplain hname)

/-! ## Books that look like schemes -/

/-- The words that make a token external when a colon follows them. -/
def schemes : List Text := ["http".toList, "https".toList, "ftp".toList, "mailto".toList]

/-- Every beginning of an external token is a word in lower case and a sign, and the sign is a colon
only behind a scheme. -/
theorem externalStart_form {start : String} (h : start ∈ externalStarts) :
    ∃ word sign, start.toList = word ++ [sign] ∧ (∀ c ∈ word, isLowerLetter c = true) ∧
      (sign = ':' ∧ word ∈ schemes ∨ sign = '.') := by
  simp only [externalStarts, List.mem_cons, List.not_mem_nil, or_false] at h
  rcases h with rfl | rfl | rfl | rfl | rfl | rfl
  · exact ⟨"http".toList, ':', rfl, List.all_eq_true.mp rfl, Or.inl ⟨rfl, by simp [schemes]⟩⟩
  · exact ⟨"https".toList, ':', rfl, List.all_eq_true.mp rfl, Or.inl ⟨rfl, by simp [schemes]⟩⟩
  · exact ⟨"ftp".toList, ':', rfl, List.all_eq_true.mp rfl, Or.inl ⟨rfl, by simp [schemes]⟩⟩
  · exact ⟨"mailto".toList, ':', rfl, List.all_eq_true.mp rfl, Or.inl ⟨rfl, by simp [schemes]⟩⟩
  · exact ⟨"ftp".toList, '.', rfl, List.all_eq_true.mp rfl, Or.inr rfl⟩
  · exact ⟨"www".toList, '.', rfl, List.all_eq_true.mp rfl, Or.inr rfl⟩

/-- A token that begins with a book is external only if the book is a scheme or the token has an
`@`. -/
theorem isExternal_book {book rest : Text} (hbook : IsBook book) (hscheme : book ∉ schemes)
    (hat : '@' ∉ book ++ ':' :: rest) : isExternal (book ++ ':' :: rest) = false := by
  rw [isExternal_of_not_mem hat, List.any_eq_false]
  intro start hstart hsome
  obtain ⟨rest', hrest⟩ := Option.isSome_iff_exists.mp hsome
  obtain ⟨word, sign, hform, hword, hsign⟩ := externalStart_form hstart
  obtain ⟨letters, version, rfl, -, hletters, hversion⟩ := hbook
  rw [hform, List.append_assoc] at hrest
  have hsmall : isLowerLetter sign = false := by
    rcases hsign with ⟨rfl, -⟩ | rfl <;> rfl
  have hbehind : ∀ c, (version ++ ':' :: rest).head? = some c →
      isAscii c = true ∧ isLetter c = false := by
    intro c hc
    rcases hversion.head_append hc with rfl | rfl
    · exact ⟨rfl, rfl⟩
    · exact ⟨rfl, rfl⟩
  obtain ⟨rfl, hhead⟩ := eq_of_dropPrefixAnyCase? hword hsmall hletters hbehind hrest
  -- a colon right behind the letters leaves no room for a version, and no book is followed by a dot
  rcases hsign with ⟨rfl, hmem⟩ | rfl
  · rcases hversion with rfl | ⟨major, minor, -, -, rfl⟩
    · exact hscheme (by rwa [List.append_nil])
    · cases hhead
  · rcases hversion.head_append hhead with hdot | hdot
    · cases hdot
    · cases hdot

end Token
end WikiMarkup
