import WikiMarkup.Proofs.Link.Special

/-!
# Links to users

A token for a user leads to the profile with the number that its name begins with. The number may be
written in many ways: behind white space, with a sign, with zeros in front and in the digits of any
script. The URL always has it in the one customary way, and whatever stands behind the number has no
part in it. A name that begins with no number leads to the profile with the number zero.

* `leadingNumber_of_writesInt`: every way of writing a number is read as the number.
* `resolve_user`: where the tokens for users lead.
-/

namespace WikiMarkup

open Text

namespace Token

/-- A language begins with a lower-case letter, perhaps behind a colon or a slash. -/
theorem BeginsWithLang.head? {t lang rest : Text} (h : BeginsWithLang t lang rest) :
    ∃ c, t.head? = some c ∧ (c = ':' ∨ c = '/' ∨ isLowerLetter c = true) := by
  obtain ⟨a, b, ha, -, rfl⟩ := isLangCode_iff.mp h.code
  obtain ⟨sign, hsign, rfl⟩ := h.text
  rcases hsign with rfl | rfl | rfl
  · exact ⟨a, rfl, Or.inr (Or.inr ha)⟩
  · exact ⟨':', rfl, Or.inl rfl⟩
  · exact ⟨'/', rfl, Or.inr (Or.inl rfl)⟩

end Token

namespace Link

/-- White space, a sign and a digit all differ from what a language can begin with. -/
theorem not_beginsWithLang_number {blanks sign digits rest : Text} (hne : digits ≠ [])
    (hblanks : ∀ c ∈ blanks, isBlank c = true) (hsign : sign = [] ∨ sign = ['+'] ∨ sign = ['-'])
    (hdigits : ∀ c ∈ digits, Digit.isDecimal c = true) (lang behind : Text) :
    ¬ Token.BeginsWithLang (blanks ++ (sign ++ (digits ++ rest))) lang behind := by
  intro hbegins
  obtain ⟨c, hhead, hc⟩ := hbegins.head?
  have hclass : isBlank c = true ∨ c = '+' ∨ c = '-' ∨ Digit.isDecimal c = true := by
    cases blanks with
    | cons b blanks =>
      cases hhead
      exact Or.inl (hblanks _ List.mem_cons_self)
    | nil =>
      obtain ⟨d, digits, rfl⟩ := List.exists_cons_of_ne_nil hne
      rcases hsign with rfl | rfl | rfl
      · cases hhead
        exact Or.inr (Or.inr (Or.inr (hdigits _ List.mem_cons_self)))
      · cases hhead
        exact Or.inr (Or.inl rfl)
      · cases hhead
        exact Or.inr (Or.inr (Or.inl rfl))
  rcases hc with rfl | rfl | hletter
  · exact absurd hclass (by decide)
  · exact absurd hclass (by decide)
  · rcases hclass with hblank | rfl | rfl | hdecimal
    · have hcode := isLowerLetter_iff.mp hletter
      simp only [isBlank, Bool.or_eq_true, Bool.and_eq_true, decide_eq_true_eq, beq_iff_eq] at hblank
      omega
    · cases hletter
    · cases hletter
    · rw [Digit.isLowerLetter_of_isDecimal hdecimal] at hletter
      cases hletter

/-- Every way of writing a number is read as the number, behind white space too, up to the first
character that is no digit. -/
theorem leadingNumber_of_writesInt {blanks sign digits rest : Text} {n : Int}
    (hblanks : ∀ c ∈ blanks, isBlank c = true) (hwrites : Digit.WritesInt sign digits n)
    (hlimit : digits.length ≤ Fault.digitLimit)
    (hrest : ∀ c, rest.head? = some c → Digit.isDecimal c = false) :
    leadingNumber (blanks ++ (sign ++ (digits ++ rest))) = .ok n := by
  obtain ⟨hne, hdecimal, hnumber⟩ := Digit.writes_iff.mp hwrites.1
  have hcut := cutSign_append hblanks hwrites.sign hdecimal hne rest
  have hdigits : leadingDigits (blanks ++ (sign ++ (digits ++ rest))) = digits := by
    rw [leadingDigits, hcut]
    exact (takeWhile_append_stop hdecimal hrest).1
  rw [leadingNumber_eq, hdigits, if_neg (Nat.not_lt.mpr hlimit), hcut, hnumber]
  congr 1
  rcases hwrites.2 with ⟨rfl, hneg⟩ | ⟨rfl | rfl, hpos⟩
  · show -(n.natAbs : Int) = n
    omega
  · show (n.natAbs : Int) = n
    omega
  · show (n.natAbs : Int) = n
    omega

/-- A text that begins with no number has the number zero. -/
theorem leadingNumber_eq_zero {t : Text} (h : ∀ digits, ¬ StartsWithNumber t digits) :
    leadingNumber t = .ok 0 := by
  have hnone : leadingDigits t = [] := by
    by_contra hne
    exact h _ (startsWithNumber_iff.mpr ⟨hne, rfl⟩)
  rw [leadingNumber_eq, hnone, List.length_nil, if_neg (Nat.not_lt_zero _)]
  split
  · rfl
  · rfl

/-- A token that is read as one for a user leads to the profile with the number of its name. -/
theorem resolve_of_reads_user {token : Text} {page : Page} {target : Token.Target} {n : Int}
    (hreads : Token.Reads token page target) (hbook : target.book = "user".toList)
    (hnumber : leadingNumber target.writtenName = .ok n) (files : FileSystem) (site : Site) :
    resolve files site page token =
      .ok { destination := .url (site.profileUrl ++ Digit.writeInt n) } := by
  rw [resolve_of_reads hreads, resolveTarget_user hbook, hnumber]
  rfl

/-- A token for a user whose name begins with a number, in whatever way it is written, leads to the
profile with that number in its customary writing, unless the token is external. A token for a user
whose name begins with no number leads to the profile with the number zero. -/
theorem resolve_user (files : FileSystem) (site : Site) (page : Page) :
    (∀ {blanks sign digits rest : Text} {n : Int},
      (∀ c ∈ blanks, isBlank c = true) → Digit.WritesInt sign digits n →
      digits.length ≤ Fault.digitLimit →
      (∀ c, rest.head? = some c → Digit.isDecimal c = false) → '#' ∉ rest →
      let token := "user:".toList ++ (blanks ++ (sign ++ (digits ++ rest)))
      Token.isExternal token = false →
        resolve files site page token =
          .ok { destination := .url (site.profileUrl ++ Digit.writeInt n) }) ∧
    ∀ {token : Text} {target : Token.Target},
      Token.Reads token page target → target.book = "user".toList →
      (∀ digits, ¬ StartsWithNumber target.writtenName digits) →
        resolve files site page token =
          .ok { destination := .url (site.profileUrl ++ "0".toList) } := by
  constructor
  · intro blanks sign digits rest n hblanks hwrites hlimit hrest hhash token hexternal
    obtain ⟨hne, hdecimal, -⟩ := Digit.writes_iff.mp hwrites.1
    have hbook : Token.IsBook "user".toList := Token.isBook_of_special (by decide)
    have hname : '#' ∉ blanks ++ (sign ++ (digits ++ rest)) := by
      simp only [List.mem_append, not_or]
      refine ⟨fun hmem => ?_, fun hmem => ?_, fun hmem => ?_, hhash⟩
      · exact absurd (hblanks _ hmem) (by decide)
      · rcases hwrites.sign with rfl | rfl | rfl <;> simp at hmem
      · exact absurd (hdecimal _ hmem) (by decide)
    -- no language stands behind the book, so all of the name is left to the number
    have hplain : ∀ lang behind,
        ¬ Token.BeginsWithLang (blanks ++ (sign ++ (digits ++ rest))) lang behind :=
      not_beginsWithLang_number hne hblanks hwrites.sign hdecimal
    have hread := Token.read_book hbook hname (.missing hplain) page
    have hreads : Token.Reads token page _ := ⟨hexternal, by simp [token], hread⟩
    exact resolve_of_reads_user hreads rfl
      (leadingNumber_of_writesInt hblanks hwrites hlimit hrest) files site
  · intro token target hreads hbook hnone
    exact resolve_of_reads_user hreads hbook (leadingNumber_eq_zero hnone) files site

/-- A negative number behind white space, in the digits of three scripts with zeros in front and a
text behind them; and a name in which a language takes the place of the number. -/
theorem resolve_user_scripts :
    let site : Site := { profileUrl := "/u/".toList }
    let page : Page := ⟨"doc".toList, "en".toList, "guide/setup".toList⟩
    resolve .empty site page "user: \n-0٠४2-john:en/".toList =
        .ok { destination := .url "/u/-42".toList } ∧
      resolve .empty site page "user:en:7".toList =
        .ok { destination := .url "/u/0".toList } := by
  intro site page
  constructor
  · have hblanks : ∀ c ∈ " \n".toList, isBlank c = true := List.all_eq_true.mp rfl
    have hwrites : Digit.WritesInt ['-'] "0٠४2".toList (-42) :=
      ⟨⟨by decide, 2, by simp; decide⟩, Or.inl ⟨rfl, by decide⟩⟩
    have hlimit : "0٠४2".toList.length ≤ Fault.digitLimit := by decide
    have hrest : ∀ c, "-john:en/".toList.head? = some c → Digit.isDecimal c = false := by
      rintro c hc
      cases hc
      rfl
    exact (resolve_user .empty site page).1 hblanks hwrites hlimit hrest (by decide)
      (rfl)
  · have hreads : Token.Reads "user:en:7".toList page
        ⟨"user".toList, "en".toList, "7".toList, ":7".toList, []⟩ := ⟨rfl, by decide, rfl⟩
    refine (resolve_user .empty site page).2 hreads rfl fun digits hstarts => ?_
    obtain ⟨hne, hdigits⟩ := startsWithNumber_iff.mp hstarts
    exact hne hdigits.symm

end Link
end WikiMarkup
