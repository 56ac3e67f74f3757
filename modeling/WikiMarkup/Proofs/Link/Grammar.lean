import WikiMarkup.Proofs.Link.Token

/-!
# The grammar of page tokens

A page token is cut from its beginning on: a book if one stands there, behind it a language if one
stands there, then the name up to the first number sign, and the section behind that. The grammar says
so of the text alone, without the readers.

* `split_eq_some_iff`: the parts of a token are the ones that the grammar gives it.
* `IsSplit.unique`: the grammar gives a token one list of parts at most.
* `IsSplit.spells`: nothing of a token is lost in its parts.
-/

namespace WikiMarkup
namespace Token

open Text

/-! ## Parts that may be left out -/

/-- Whether a token begins with a book and its colon, with `rest` behind them. -/
def BeginsWithBook (token book rest : Text) : Prop := IsBook book ∧ token = book ++ ':' :: rest

/-- Whether a text begins with a language, perhaps behind a separator, with `rest` behind it. -/
structure BeginsWithLang (t lang rest : Text) : Prop where
  code : isLangCode lang = true
  ends : IsLangEnd rest
  text : ∃ sign, IsLangSign sign ∧ t = sign ++ (lang ++ rest)

theorem readBook_eq_some_iff {token book rest : Text} :
    readBook token = some (book, rest) ↔ BeginsWithBook token book rest := by
  constructor
  · exact readBook_eq_some
  · rintro ⟨hbook, rfl⟩
    exact readBook_append hbook rest

theorem readLang_eq_some_iff {t lang rest : Text} :
    readLang t = some (lang, rest) ↔ BeginsWithLang t lang rest := by
  constructor
  · intro h
    obtain ⟨hcode, hends, htext⟩ := readLang_eq_some h
    exact ⟨hcode, hends, htext⟩
  · rintro ⟨hcode, hends, sign, hsign, rfl⟩
    exact readLang_append hcode hends hsign

/-- A part that may be left out is taken exactly if the text begins with it. What is left is then
what stands behind it, and else the whole text. -/
inductive Taken (Begins : Text → Text → Text → Prop) (t : Text) : Option Text → Text → Prop
  | given {part rest : Text} (h : Begins t part rest) : Taken Begins t (some part) rest
  | missing (h : ∀ part rest, ¬ Begins t part rest) : Taken Begins t none t

section Taken

variable {Begins : Text → Text → Text → Prop} {read : Text → Option (Text × Text)}
  (hread : ∀ t part rest, read t = some (part, rest) ↔ Begins t part rest)
include hread

/-- A part is taken as its reader says. -/
theorem taken_of_read {t rest : Text} {part? : Option Text}
    (h : (match read t with
      | some (part, rest) => (some part, rest)
      | none => (none, t)) = (part?, rest)) : Taken Begins t part? rest := by
  split at h
  · rename_i part rest hsome
    cases h
    exact .given ((hread _ _ _).mp hsome)
  · rename_i hnone
    cases h
    refine .missing fun part rest hbegins => ?_
    rw [(hread _ _ _).mpr hbegins] at hnone
    cases hnone

/-- A part that has a reader is taken in one way only. -/
theorem Taken.unique {t rest rest' : Text} {part? part?' : Option Text}
    (h : Taken Begins t part? rest) (h' : Taken Begins t part?' rest') :
    part? = part?' ∧ rest = rest' := by
  cases h with
  | given h =>
    cases h' with
    | given h' =>
      rw [← hread] at h h'
      cases h.symm.trans h'
      exact ⟨rfl, rfl⟩
    | missing h' => exact absurd h (h' _ _)
  | missing h =>
    cases h' with
    | given h' => exact absurd h' (h _ _)
    | missing h' => exact ⟨rfl, rfl⟩

end Taken

/-! ## The grammar -/

/-- The grammar of page tokens. A name or a section that is not given is empty. -/
structure IsSplit (token : Text) (parts : Parts) : Prop where
  cuts : ∃ behindBook behindLang, Taken BeginsWithBook token parts.book behindBook ∧
    Taken BeginsWithLang behindBook parts.lang behindLang ∧ parts.name = before '#' behindLang
  heading : parts.heading = (after? '#' token).getD []
  line : '\n' ∉ parts.heading

/-- The parts that a token is split into are parts by the grammar. -/
theorem isSplit_of_split {token : Text} {parts : Parts} (h : split token = some parts) :
    IsSplit token parts := by
  have hheading := heading_of_split h
  constructor
  case heading => exact hheading
  case line =>
    intro hmem
    rw [hheading] at hmem
    rw [split_eq_none_iff.mpr hmem] at h
    cases h
  case cuts =>
    unfold split at h
    split at h
    rename_i book behindBook hbook
    split at h
    rename_i lang behindLang hlang
    obtain ⟨-, heq⟩ := Option.ite_none_left_eq_some.mp h
    cases heq
    exact ⟨behindBook, behindLang, taken_of_read (fun _ _ _ => readBook_eq_some_iff) hbook,
      taken_of_read (fun _ _ _ => readLang_eq_some_iff) hlang, rfl⟩

/-- The grammar is unambiguous. -/
theorem IsSplit.unique {token : Text} {parts parts' : Parts} (h : IsSplit token parts)
    (h' : IsSplit token parts') : parts = parts' := by
  obtain ⟨behindBook, behindLang, hbook, hlang, hname⟩ := h.cuts
  obtain ⟨behindBook', behindLang', hbook', hlang', hname'⟩ := h'.cuts
  obtain ⟨hbooks, rfl⟩ := hbook.unique (fun _ _ _ => readBook_eq_some_iff) hbook'
  obtain ⟨hlangs, rfl⟩ := hlang.unique (fun _ _ _ => readLang_eq_some_iff) hlang'
  have hheadings : parts.heading = parts'.heading := h.heading.trans h'.heading.symm
  cases parts
  cases parts'
  rw [Parts.mk.injEq]
  exact ⟨hbooks, hlangs, hname.trans hname'.symm, hheadings⟩

/-- A token is split along the grammar. -/
theorem split_eq_some_iff {token : Text} {parts : Parts} :
    split token = some parts ↔ IsSplit token parts := by
  refine ⟨isSplit_of_split, fun h => ?_⟩
  cases hsplit : split token with
  | none =>
    have hline := split_eq_none_iff.mp hsplit
    rw [← h.heading] at hline
    exact absurd hline h.line
  | some parts' => rw [(isSplit_of_split hsplit).unique h]

/-! ## Spelling -/

/-- Whether a token is spelled by its parts, but for a separator in front of the language and a
number sign that no section follows. -/
def Spells (parts : Parts) (token : Text) : Prop :=
  ∃ sign ending, IsLangSign sign ∧
    (ending = [] ∧ parts.heading = [] ∨ ending = '#' :: parts.heading) ∧
    token = parts.book.elim [] (· ++ [':']) ++
      (parts.lang.elim [] (sign ++ ·) ++ (parts.name ++ ending))

theorem Taken.eq_book_append {token rest : Text} {book? : Option Text}
    (h : Taken BeginsWithBook token book? rest) :
    token = book?.elim [] (· ++ [':']) ++ rest ∧ '#' ∉ book?.elim [] (· ++ [':']) := by
  cases h with
  | given h =>
    obtain ⟨hbook, rfl⟩ := h
    exact ⟨by simp, by simpa using hbook.hash_not_mem⟩
  | missing h => exact ⟨rfl, List.not_mem_nil⟩

theorem Taken.eq_lang_append {t rest : Text} {lang? : Option Text}
    (h : Taken BeginsWithLang t lang? rest) :
    ∃ sign, IsLangSign sign ∧
      t = lang?.elim [] (sign ++ ·) ++ rest ∧ '#' ∉ lang?.elim [] (sign ++ ·) := by
  cases h with
  | @given lang _ h =>
    obtain ⟨sign, hsign, rfl⟩ := h.text
    have hhash : '#' ∉ lang := not_mem_of_isLangCode h.code rfl
    refine ⟨sign, hsign, by simp, ?_⟩
    rcases hsign with rfl | rfl | rfl <;> simpa using hhash
  | missing h => exact ⟨[], Or.inl rfl, rfl, List.not_mem_nil⟩

/-- Nothing of a token is lost in its parts. -/
theorem IsSplit.spells {token : Text} {parts : Parts} (h : IsSplit token parts) :
    Spells parts token := by
  obtain ⟨behindBook, behindLang, hbook, hlang, hname⟩ := h.cuts
  obtain ⟨htoken, hhash⟩ := hbook.eq_book_append
  obtain ⟨sign, hsign, hbehind, hhash'⟩ := hlang.eq_lang_append
  -- neither the book nor the language has a number sign, so the section is the one behind them
  have hheading : parts.heading = (after? '#' behindLang).getD [] := by
    rw [h.heading, htoken, after?_append_left hhash, hbehind, after?_append_left hhash']
  refine ⟨sign, (after? '#' behindLang).elim [] ('#' :: ·), hsign, ?_, ?_⟩
  · cases hafter : after? '#' behindLang with
    | none =>
      left
      rw [hheading, hafter]
      exact ⟨rfl, rfl⟩
    | some name =>
      right
      rw [hheading, hafter]
      rfl
  · rw [hname, before_append_after?, ← hbehind]
    exact htoken

/-- A token names no page exactly if a line end stands behind its first number sign. Otherwise its
parts are those of the grammar, and they spell it. -/
theorem split_grammar (token : Text) :
    (split token = none ↔ '\n' ∈ (after? '#' token).getD []) ∧
      (∀ parts, split token = some parts ↔ IsSplit token parts) ∧
      ∀ parts, split token = some parts → Spells parts token :=
  ⟨split_eq_none_iff, fun _ => split_eq_some_iff, fun _ h => (isSplit_of_split h).spells⟩

/-- A version with a digit of another script, a language behind a slash, a colon that is left to the
name, and a number sign in the section. -/
theorem split_grammar_version :
    let token : Text := "doc-٣.0:/en:#a#b".toList
    let parts : Parts :=
      ⟨some "doc-٣.0".toList, some "en".toList, ":".toList, "a#b".toList⟩
    split token = some parts ∧ Spells parts token := by
  intro token parts
  have hsplit : split token = some parts := by rfl
  exact ⟨hsplit, (split_grammar token).2.2 parts hsplit⟩

/-- A line end at the end of a token ends a language and is left to the name. -/
example : split "en\n".toList = some ⟨none, some "en".toList, "\n".toList, []⟩ := rfl

end Token
end WikiMarkup
