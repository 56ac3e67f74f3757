import WikiMarkup.Link.Resolve
import WikiMarkup.Proofs.Link.Anchor
import WikiMarkup.Proofs.Link.Token
import WikiMarkup.Proofs.Page.Files
import WikiMarkup.Proofs.Text.Digit

/-!
# What resolving depends on

A token is read as a page token or leads to a URL of its own, which takes nothing but the token. Of
the page tokens, those for an attachment ask for a file and those for a user read a number; all others
are resolved from the token and the page alone. So only these two can fail, only an attachment can have
a problem, and the files that there are have no part in where a token leads.
-/

namespace WikiMarkup

namespace Token

/-- Whether a token is taken for a page token, and what it is read as: it is neither external nor
the name of a section. -/
def Reads (token : Text) (page : Page) (target : Target) : Prop :=
  isExternal token = false ∧ token.head? ≠ some '#' ∧ read token page = some target

theorem Reads.unique {token : Text} {page : Page} {target target' : Target}
    (h : Reads token page target) (h' : Reads token page target') : target = target' :=
  Option.some.inj (h.2.2.symm.trans h'.2.2)

/-- The characters of the name that a token leads to come from the token or from the name of the page,
but for slashes and the letters of the first page's name. -/
theorem Reads.mem_name {token : Text} {page : Page} {target : Target} (h : Reads token page target)
    {c : Char} (hslash : c ≠ '/') (hhome : c ∉ homepage) (hc : c ∈ target.name) :
    c ∈ token ∨ c ∈ page.name := by
  obtain ⟨parts, hsplit, rfl⟩ := Option.map_eq_some_iff.mp h.2.2
  exact (mem_pageName hslash hhome hc).imp_left fun hname => (infix_of_split hsplit).subset hname

/-- A token that stands for itself: an external one, or one that names no page because its section
goes over a line end. -/
def IsFinal (token : Text) : Prop :=
  isExternal token = true ∨ token.head? ≠ some '#' ∧ '\n' ∈ (Text.after? '#' token).getD []

/-- Every token is final, names a section of the page itself, or is read as a page token. -/
theorem final_or_section_or_reads (token : Text) (page : Page) :
    IsFinal token ∨ (isExternal token = false ∧ ∃ name, token = '#' :: name) ∨
      ∃ target, Reads token page target := by
  by_cases hexternal : isExternal token = true
  · exact Or.inl (Or.inl hexternal)
  · rw [Bool.not_eq_true] at hexternal
    by_cases hhead : token.head? = some '#'
    · exact Or.inr (Or.inl ⟨hexternal, List.head?_eq_some_iff.mp hhead⟩)
    · cases hsplit : split token with
      | none => exact Or.inl (Or.inr ⟨hhead, split_eq_none_iff.mp hsplit⟩)
      | some parts =>
        obtain ⟨target, hread⟩ : ∃ target, read token page = some target := by
          simp [read, hsplit]
        exact Or.inr (Or.inr ⟨target, hexternal, hhead, hread⟩)

/-- A final token is read as nothing else. -/
theorem IsFinal.not_reads {token : Text} (h : IsFinal token) {page : Page} {target : Target} :
    ¬ Reads token page target := by
  rintro ⟨hexternal, -, hread⟩
  rcases h with hfinal | ⟨-, hline⟩
  · rw [hexternal] at hfinal
    cases hfinal
  · rw [read, split_eq_none_iff.mpr hline] at hread
    cases hread

end Token

namespace Namespace

/-- A book that is no book of the wiki has one of the special names. -/
theorem mem_named_of_ofBook {book : Text} {kind : Namespace} (h : ofBook book = kind)
    (hkind : kind ≠ .ordinary) : ∃ name, (name, kind) ∈ named ∧ book = name.toList := by
  unfold ofBook at h
  split at h
  · rename_i name kind' hfind
    subst h
    have hname := List.find?_some hfind
    rw [beq_iff_eq] at hname
    exact ⟨name, List.mem_of_find?_eq_some hfind, hname.symm⟩
  · exact absurd h.symm hkind

theorem ofBook_eq_attachment_iff {book : Text} :
    ofBook book = .attachment ↔ book = "attachment".toList := by
  constructor
  · intro h
    obtain ⟨name, hmem, rfl⟩ := mem_named_of_ofBook h (by decide)
    have hname : name = "attachment" := by simpa [named] using hmem
    rw [hname]
  · rintro rfl
    rfl

theorem ofBook_eq_user_iff {book : Text} : ofBook book = .user ↔ book = "user".toList := by
  constructor
  · intro h
    obtain ⟨name, hmem, rfl⟩ := mem_named_of_ofBook h (by decide)
    have hname : name = "user" := by simpa [named] using hmem
    rw [hname]
  · rintro rfl
    rfl

end Namespace

namespace Link

open Text

/-! ## Numbers of users -/

/-- Whether a text begins with a number of certain digits: behind white space and perhaps a sign,
and with no further digit behind them. -/
def StartsWithNumber (t digits : Text) : Prop :=
  digits ≠ [] ∧ ∃ blanks sign rest, t = blanks ++ (sign ++ (digits ++ rest)) ∧
    (∀ c ∈ blanks, isBlank c = true) ∧ (sign = [] ∨ sign = ['+'] ∨ sign = ['-']) ∧
    (∀ c ∈ digits, Digit.isDecimal c = true) ∧
    ∀ c, rest.head? = some c → Digit.isDecimal c = false

/-- The sign at the beginning of a text, and what follows it. -/
def cutSign : Text → Bool × Text
  | '-' :: rest => (true, rest)
  | '+' :: rest => (false, rest)
  | t => (false, t)

/-- The row of digits behind the white space and the sign at the beginning of a text. -/
def leadingDigits (t : Text) : Text :=
  (cutSign (t.dropWhile isBlank)).2.takeWhile Digit.isDecimal

/-- The number at the beginning of a text is that of its digits. -/
theorem leadingNumber_eq (t : Text) :
    leadingNumber t =
      if Fault.digitLimit < (leadingDigits t).length then
        .error (.numberTooLong (leadingDigits t).length)
      else .ok (if (cutSign (t.dropWhile isBlank)).1 then -(Digit.number (leadingDigits t) : Int)
        else Digit.number (leadingDigits t)) := by
  unfold leadingNumber leadingDigits cutSign
  dsimp only
  generalize t.dropWhile isBlank = body
  -- the sign is read by the first character
  match body with
  | [] => rfl
  | c :: rest =>
    by_cases hminus : c = '-'
    · subst hminus
      rfl
    · by_cases hplus : c = '+'
      · subst hplus
        rfl
      · simp [hminus, hplus]

theorem cutSign_eq (t : Text) :
    ∃ sign, t = sign ++ (cutSign t).2 ∧ (sign = [] ∨ sign = ['+'] ∨ sign = ['-']) := by
  unfold cutSign
  split
  · exact ⟨['-'], rfl, by simp⟩
  · exact ⟨['+'], rfl, by simp⟩
  · exact ⟨[], rfl, by simp⟩

/-- A sign in front of digits is cut off, behind white space too. -/
theorem cutSign_append {blanks sign digits : Text} (hblanks : ∀ c ∈ blanks, isBlank c = true)
    (hsign : sign = [] ∨ sign = ['+'] ∨ sign = ['-'])
    (hdigits : ∀ c ∈ digits, Digit.isDecimal c = true) (hne : digits ≠ []) (rest : Text) :
    cutSign ((blanks ++ (sign ++ (digits ++ rest))).dropWhile isBlank) =
      (sign == ['-'], digits ++ rest) := by
  obtain ⟨c, digits, rfl⟩ := List.exists_cons_of_ne_nil hne
  have hc : Digit.isDecimal c = true := hdigits c List.mem_cons_self
  -- neither a sign nor a digit is white space, so the white space ends where it is said to
  have hstop : ∀ d, (sign ++ (c :: digits ++ rest)).head? = some d → isBlank d = false := by
    intro d hd
    rcases hsign with rfl | rfl | rfl
    · cases hd
      exact Digit.isBlank_of_isDecimal hc
    · cases hd
      rfl
    · cases hd
      rfl
  rw [(takeWhile_append_stop hblanks hstop).2]
  rcases hsign with rfl | rfl | rfl
  · -- without a sign the first digit is looked at, which is none
    unfold cutSign
    split
    · rename_i heq
      cases heq
      cases hc
    · rename_i heq
      cases heq
      cases hc
    · rfl
  · rfl
  · rfl

/-- The number that a text begins with is that of the digits that are read. -/
theorem startsWithNumber_iff {t digits : Text} :
    StartsWithNumber t digits ↔ digits ≠ [] ∧ leadingDigits t = digits := by
  constructor
  · rintro ⟨hne, blanks, sign, rest, rfl, hblanks, hsign, hdigits, hrest⟩
    rw [leadingDigits, cutSign_append hblanks hsign hdigits hne]
    exact ⟨hne, (takeWhile_append_stop hdigits hrest).1⟩
  · rintro ⟨hne, rfl⟩
    obtain ⟨sign, hcut, hsign⟩ := cutSign_eq (t.dropWhile isBlank)
    refine ⟨hne, t.takeWhile isBlank, sign,
      (cutSign (t.dropWhile isBlank)).2.dropWhile Digit.isDecimal, ?_, ?_, hsign, ?_, ?_⟩
    · rw [leadingDigits, List.takeWhile_append_dropWhile, ← hcut,
        List.takeWhile_append_dropWhile]
    · exact fun c hc => List.mem_takeWhile_imp hc
    · exact fun c hc => List.mem_takeWhile_imp hc
    · intro c hc
      have hnot := List.head?_dropWhile_not Digit.isDecimal (cutSign (t.dropWhile isBlank)).2
      rw [hc] at hnot
      simpa using hnot

/-- A number is refused exactly if it has more digits than are converted. -/
theorem leadingNumber_error_iff {t : Text} {fault : Fault} :
    leadingNumber t = .error fault ↔
      ∃ digits, StartsWithNumber t digits ∧ Fault.digitLimit < digits.length ∧
        fault = .numberTooLong digits.length := by
  simp only [startsWithNumber_iff]
  rw [leadingNumber_eq]
  constructor
  · intro h
    split at h
    · rename_i hlength
      have hne : leadingDigits t ≠ [] := List.ne_nil_of_length_pos (Nat.zero_lt_of_lt hlength)
      exact ⟨_, ⟨hne, rfl⟩, hlength, (Except.error.inj h).symm⟩
    · cases h
  · rintro ⟨digits, ⟨-, rfl⟩, hlength, rfl⟩
    rw [if_pos hlength]

/-! ## Page tokens by their books -/

/-- What is said of an attachment that is not there. -/
def missingFile (name : Text) : Text := "Missing file ".toList ++ name

theorem resolveTarget_attachment {target : Token.Target}
    (h : target.book = "attachment".toList) (files : FileSystem) (site : Site) (page : Page) :
    resolveTarget files site page target =
      (files.isFile (attachmentPath site page.book target.name)).map fun found =>
        { destination := .url (site.mediaUrl ++ '/' :: page.book ++ '/' :: target.name)
          problem := if found then none else some (missingFile target.name) } := by
  unfold resolveTarget
  rw [Namespace.ofBook_eq_attachment_iff.mpr h]
  rfl

theorem resolveTarget_user {target : Token.Target} (h : target.book = "user".toList)
    (files : FileSystem) (site : Site) (page : Page) :
    resolveTarget files site page target =
      (leadingNumber target.writtenName).map fun number =>
        { destination := .url (site.profileUrl ++ Digit.writeInt number) } := by
  unfold resolveTarget
  rw [Namespace.ofBook_eq_user_iff.mpr h]
  rfl

/-- A page token of any other book is resolved without fail, and whatever files there are. -/
theorem resolveTarget_other {target : Token.Target} (hattachment : target.book ≠ "attachment".toList)
    (huser : target.book ≠ "user".toList) (site : Site) (page : Page) :
    ∃ destination, ∀ files, resolveTarget files site page target = .ok { destination } := by
  unfold resolveTarget
  cases hkind : Namespace.ofBook target.book with
  | attachment => exact absurd (Namespace.ofBook_eq_attachment_iff.mp hkind) hattachment
  | user => exact absurd (Namespace.ofBook_eq_user_iff.mp hkind) huser
  | download | api | php | ordinary => exact ⟨_, fun _ => rfl⟩

/-! ## Tokens -/

/-- A token that is read as a page token is resolved as such. -/
theorem resolve_of_reads {token : Text} {page : Page} {target : Token.Target}
    (h : Token.Reads token page target) (files : FileSystem) (site : Site) :
    resolve files site page token = resolveTarget files site page target := by
  obtain ⟨hexternal, hsection, hread⟩ := h
  unfold resolve
  rw [hexternal, if_neg Bool.false_ne_true]
  split
  · exact absurd rfl hsection
  · rw [hread]

/-- A final token is its own URL. -/
theorem resolve_of_isFinal {token : Text} (h : Token.IsFinal token) (files : FileSystem)
    (site : Site) (page : Page) :
    resolve files site page token = .ok { destination := .url token } := by
  unfold resolve
  rcases h with hexternal | ⟨hhead, hline⟩
  · rw [if_pos hexternal]
  · split
    · rfl
    · split
      · exact absurd rfl hhead
      · rw [Token.read, Token.split_eq_none_iff.mpr hline, Option.map_none]

/-- The name of a section leads to its anchor. -/
theorem resolve_section {name : Text} (h : Token.isExternal ('#' :: name) = false)
    (files : FileSystem) (site : Site) (page : Page) :
    resolve files site page ('#' :: name) =
      .ok { destination := .url ('#' :: Anchor.ofSection name) } := by
  unfold resolve
  rw [h, if_neg Bool.false_ne_true, ← Anchor.ofLink_cons]
  rfl

/-- A token that is read as no page token leads to a URL that takes nothing but the token. -/
theorem resolve_of_not_reads {token : Text} {page : Page}
    (h : ∀ target, ¬ Token.Reads token page target) :
    ∃ url, ∀ files site, resolve files site page token = .ok { destination := .url url } := by
  rcases Token.final_or_section_or_reads token page with hfinal | ⟨hexternal, name, rfl⟩ |
    ⟨target, hreads⟩
  · exact ⟨token, fun files site => resolve_of_isFinal hfinal files site page⟩
  · exact ⟨_, fun files site => resolve_section hexternal files site page⟩
  · exact absurd hreads (h target)

/-- The ways in which a token is resolved: as an attachment, as a user, or without fail, without a
problem and whatever files there are. -/
theorem resolve_cases (site : Site) (page : Page) (token : Text) :
    (∃ target, Token.Reads token page target ∧ target.book = "attachment".toList) ∨
      (∃ target, Token.Reads token page target ∧ target.book = "user".toList) ∨
      (∀ target, Token.Reads token page target →
          target.book ≠ "attachment".toList ∧ target.book ≠ "user".toList) ∧
        ∃ destination, ∀ files, resolve files site page token = .ok { destination } := by
  by_cases hreads : ∃ target, Token.Reads token page target
  · obtain ⟨target, hreads⟩ := hreads
    by_cases hattachment : target.book = "attachment".toList
    · exact Or.inl ⟨target, hreads, hattachment⟩
    · by_cases huser : target.book = "user".toList
      · exact Or.inr (Or.inl ⟨target, hreads, huser⟩)
      · refine Or.inr (Or.inr ⟨?_, ?_⟩)
        · intro target' hreads'
          rw [hreads'.unique hreads]
          exact ⟨hattachment, huser⟩
        · obtain ⟨destination, hresolve⟩ := resolveTarget_other hattachment huser site page
          exact ⟨destination, fun files => by rw [resolve_of_reads hreads, hresolve]⟩
  · have hnot : ∀ target, ¬ Token.Reads token page target := fun target h => hreads ⟨target, h⟩
    obtain ⟨url, hresolve⟩ := resolve_of_not_reads hnot
    exact Or.inr (Or.inr
      ⟨fun target h => absurd h (hnot target), .url url, fun files => hresolve files site⟩)

theorem map_eq_ok_iff {α β : Type} {f : α → β} {r : Except Fault α} {b : β} :
    r.map f = .ok b ↔ ∃ a, r = .ok a ∧ f a = b := by
  cases r with
  | error e => simp [Except.map]
  | ok a => simp [Except.map]

theorem map_eq_error_iff {α β : Type} {f : α → β} {r : Except Fault α} {fault : Fault} :
    r.map f = .error fault ↔ r = .error fault := by
  cases r with
  | error e => simp [Except.map]
  | ok a => simp [Except.map]

/-! ## Faults and problems -/

/-- Whether resolving a token breaks off with a fault: a user's number has too many digits, or the
system does not tell about the file of an attachment. -/
def Fails (files : FileSystem) (site : Site) (page : Page) (token : Text) (fault : Fault) : Prop :=
  ∃ target, Token.Reads token page target ∧
    (target.book = "user".toList ∧
        (∃ digits, StartsWithNumber target.writtenName digits ∧
          Fault.digitLimit < digits.length ∧ fault = .numberTooLong digits.length) ∨
      target.book = "attachment".toList ∧
        files.Refuses (attachmentPath site page.book target.name) fault)

theorem attachment_ne_user : "attachment".toList ≠ "user".toList := by simp

/-- Resolving breaks off with a fault exactly if the token fails with it. -/
theorem resolve_error_iff {files : FileSystem} {site : Site} {page : Page} {token : Text}
    {fault : Fault} :
    resolve files site page token = .error fault ↔ Fails files site page token fault := by
  rcases resolve_cases site page token with
    ⟨target, hreads, hbook⟩ | ⟨target, hreads, hbook⟩ | ⟨hother, destination, hresolve⟩
  · -- a token is read in one way, so one for an attachment is not one for a user
    rw [resolve_of_reads hreads, resolveTarget_attachment hbook, map_eq_error_iff,
      FileSystem.isFile_error_iff]
    constructor
    · intro hrefuses
      exact ⟨target, hreads, Or.inr ⟨hbook, hrefuses⟩⟩
    · rintro ⟨target', hreads', ⟨hbook', -⟩ | ⟨-, hrefuses⟩⟩
      · rw [hreads'.unique hreads, hbook] at hbook'
        exact absurd hbook' attachment_ne_user
      · rwa [hreads'.unique hreads] at hrefuses
  · rw [resolve_of_reads hreads, resolveTarget_user hbook, map_eq_error_iff,
      leadingNumber_error_iff]
    constructor
    · intro hdigits
      exact ⟨target, hreads, Or.inl ⟨hbook, hdigits⟩⟩
    · rintro ⟨target', hreads', ⟨-, hdigits⟩ | ⟨hbook', -⟩⟩
      · rwa [hreads'.unique hreads] at hdigits
      · rw [hreads'.unique hreads, hbook] at hbook'
        exact absurd hbook'.symm attachment_ne_user
  · rw [hresolve files]
    constructor
    · intro h
      cases h
    · rintro ⟨target, hreads, ⟨hbook, -⟩ | ⟨hbook, -⟩⟩
      · exact absurd hbook (hother target hreads).2
      · exact absurd hbook (hother target hreads).1

/-- Whether a token is one for an attachment of a certain name that is not there. -/
def IsMissing (files : FileSystem) (site : Site) (page : Page) (token name : Text) : Prop :=
  ∃ target, Token.Reads token page target ∧ target.book = "attachment".toList ∧
    target.name = name ∧ ¬ files.Stores (attachmentPath site page.book name)

/-- A token that is not for an attachment has no problem. -/
theorem problem_eq_none {files : FileSystem} {site : Site} {page : Page} {token : Text}
    {r : Resolution} (h : resolve files site page token = .ok r)
    (hnot : ∀ target, Token.Reads token page target → target.book ≠ "attachment".toList) :
    r.problem = none := by
  rcases resolve_cases site page token with
    ⟨target, hreads, hbook⟩ | ⟨target, hreads, hbook⟩ | ⟨-, destination, hresolve⟩
  · exact absurd hbook (hnot target hreads)
  · rw [resolve_of_reads hreads, resolveTarget_user hbook, map_eq_ok_iff] at h
    obtain ⟨number, -, rfl⟩ := h
    rfl
  · rw [hresolve files] at h
    cases h
    rfl

/-- A token for an attachment has a problem exactly if the attachment is not there. -/
theorem problem_attachment {files : FileSystem} {site : Site} {page : Page} {token : Text}
    {target : Token.Target} {r : Resolution} (hreads : Token.Reads token page target)
    (hbook : target.book = "attachment".toList) (h : resolve files site page token = .ok r) :
    (files.Stores (attachmentPath site page.book target.name) ∧ r.problem = none) ∨
      ¬ files.Stores (attachmentPath site page.book target.name) ∧
        r.problem = some (missingFile target.name) := by
  rw [resolve_of_reads hreads, resolveTarget_attachment hbook, map_eq_ok_iff] at h
  obtain ⟨found, hfile, rfl⟩ := h
  rw [← FileSystem.isFile_ok hfile]
  cases found with
  | true => exact Or.inl ⟨rfl, rfl⟩
  | false => exact Or.inr ⟨Bool.false_ne_true, rfl⟩

/-- A resolution has a problem exactly if the token is one for an attachment that is not there. -/
theorem problem_eq_some_iff {files : FileSystem} {site : Site} {page : Page} {token : Text}
    {r : Resolution} (h : resolve files site page token = .ok r) {problem : Text} :
    r.problem = some problem ↔ ∃ name, IsMissing files site page token name ∧
      problem = missingFile name := by
  constructor
  · intro hproblem
    by_cases hattachment :
        ∃ target, Token.Reads token page target ∧ target.book = "attachment".toList
    · obtain ⟨target, hreads, hbook⟩ := hattachment
      rcases problem_attachment hreads hbook h with ⟨-, hnone⟩ | ⟨hmissing, hsome⟩
      · rw [hnone] at hproblem
        cases hproblem
      · rw [hsome] at hproblem
        exact ⟨target.name, ⟨target, hreads, hbook, rfl, hmissing⟩,
          (Option.some.inj hproblem).symm⟩
    · have hnone := problem_eq_none h fun target hreads hbook =>
        hattachment ⟨target, hreads, hbook⟩
      rw [hnone] at hproblem
      cases hproblem
  · rintro ⟨name, ⟨target, hreads, hbook, rfl, hmissing⟩, rfl⟩
    rcases problem_attachment hreads hbook h with ⟨hstores, -⟩ | ⟨-, hsome⟩
    · exact absurd hstores hmissing
    · exact hsome

/-- Where a token leads does not depend on the files that there are. -/
theorem destination_eq {files files' : FileSystem} {site : Site} {page : Page} {token : Text}
    {r r' : Resolution} (h : resolve files site page token = .ok r)
    (h' : resolve files' site page token = .ok r') : r.destination = r'.destination := by
  rcases resolve_cases site page token with
    ⟨target, hreads, hbook⟩ | ⟨target, hreads, hbook⟩ | ⟨-, destination, hresolve⟩
  · rw [resolve_of_reads hreads, resolveTarget_attachment hbook, map_eq_ok_iff] at h h'
    obtain ⟨found, -, rfl⟩ := h
    obtain ⟨found', -, rfl⟩ := h'
    rfl
  · rw [resolve_of_reads hreads, resolveTarget_user hbook] at h h'
    rw [h] at h'
    cases h'
    rfl
  · rw [hresolve] at h h'
    cases h
    cases h'
    rfl

/-- Of the files a resolution sees no more than what is said of the path of an attachment. -/
theorem resolve_congr {files files' : FileSystem} {site : Site} {page : Page} {token : Text}
    (h : ∀ target, Token.Reads token page target → target.book = "attachment".toList →
      files.isFile (attachmentPath site page.book target.name) =
        files'.isFile (attachmentPath site page.book target.name)) :
    resolve files site page token = resolve files' site page token := by
  rcases resolve_cases site page token with
    ⟨target, hreads, hbook⟩ | ⟨target, hreads, hbook⟩ | ⟨-, destination, hresolve⟩
  · rw [resolve_of_reads hreads, resolve_of_reads hreads, resolveTarget_attachment hbook,
      resolveTarget_attachment hbook, h target hreads hbook]
  · rw [resolve_of_reads hreads, resolve_of_reads hreads, resolveTarget_user hbook,
      resolveTarget_user hbook]
  · rw [hresolve, hresolve]

end Link
end WikiMarkup
