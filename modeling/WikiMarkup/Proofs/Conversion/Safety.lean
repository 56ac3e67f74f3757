import WikiMarkup.Proofs.Conversion.Reference
import WikiMarkup.Proofs.Page.Address
import WikiMarkup.Settings

/-!
# Safe references

A URL runs no script if it names a scheme that does not, or no scheme at all. The references of a page
are written with the URLs that their tokens lead to, and these are not tested. What the library itself
puts in front of a name is safe, and what the settings of a site put there is as safe as they are; but a
token that is final as it stands is written as it stands.
-/

namespace WikiMarkup

open Text

namespace Conversion

/-! ## The test -/

/-- The beginnings of a URL that name a scheme which runs no script. -/
def allowedStarts : List Text :=
  ["http:".toList, "https:".toList, "mailto:".toList, "tel:".toList, "ftp:".toList, "ftps:".toList,
   "irc:".toList, "ircs:".toList, "data:image/gif;".toList, "data:image/png;".toList,
   "data:image/jpeg;".toList, "data:image/webp;".toList]

/-- What a URL without a scheme begins with. -/
def plainStarts : List Text := ["/".toList, "#".toList, "?".toList]

/-- Whether a URL begins with a scheme that is allowed, in any case. -/
def HasAllowedScheme (url : Text) : Prop :=
  ∃ start ∈ allowedStarts, start <+: lowerAscii url

instance (url : Text) : Decidable (HasAllowedScheme url) :=
  inferInstanceAs (Decidable (∃ start ∈ allowedStarts, start <+: lowerAscii url))

/-- Whether a URL may stand in a link: it begins with a scheme that is allowed, or like a URL without a
scheme, or no colon stands before its first slash. -/
def IsAllowed (url : Text) : Prop :=
  HasAllowedScheme url ∨ url.take 1 ∈ plainStarts ∨ ':' ∉ before '/' url

instance (url : Text) : Decidable (IsAllowed url) :=
  inferInstanceAs
    (Decidable (HasAllowedScheme url ∨ url.take 1 ∈ plainStarts ∨ ':' ∉ before '/' url))

/-- A colon stands before the first slash of a URL exactly if it does before that of the address in
front, if the slash is there or nothing behind the address has a colon. -/
theorem colon_mem_before_append_iff {address rest : Text} (h : '/' ∈ address ∨ ':' ∉ rest) :
    ':' ∈ before '/' (address ++ rest) ↔ ':' ∈ before '/' address := by
  by_cases hslash : '/' ∈ address
  · obtain ⟨left, right, rfl⟩ := List.append_of_mem hslash
    rw [List.append_assoc, List.cons_append, before_append_cons, before_append_cons]
  · -- then the part before the first slash goes on behind the address
    have hrest : ':' ∉ before '/' rest := by
      intro hcolon
      exact h.resolve_left hslash ((List.takeWhile_prefix _).subset hcolon)
    rw [before_append_left hslash, before_eq_self hslash, List.mem_append]
    exact ⟨fun hcolon => hcolon.resolve_right hrest, Or.inl⟩

/-- What stands behind an allowed URL makes no difference if the URL has a slash in it, or if it brings
no colon. -/
theorem IsAllowed.append {url : Text} (h : IsAllowed url) {rest : Text}
    (hrest : '/' ∈ url ∨ ':' ∉ rest) : IsAllowed (url ++ rest) := by
  rcases h with ⟨start, hstart, hprefix⟩ | hplain | hcolon
  · refine Or.inl ⟨start, hstart, ?_⟩
    have hlower : lowerAscii (url ++ rest) = lowerAscii url ++ lowerAscii rest := List.map_append
    rw [hlower]
    exact hprefix.trans (List.prefix_append _ _)
  · -- only a URL that is not empty begins so
    cases url with
    | nil => exact absurd hplain (by decide)
    | cons c url => exact Or.inr (Or.inl hplain)
  · rw [← colon_mem_before_append_iff hrest] at hcolon
    exact Or.inr (Or.inr hcolon)

/-- Behind an address that has a slash, or with a rest that brings no colon, a URL is allowed if the
address is, and otherwise only if both together make up a scheme that is allowed. -/
theorem isAllowed_append_iff {address rest : Text} (h : '/' ∈ address ∨ ':' ∉ rest) :
    IsAllowed (address ++ rest) ↔ IsAllowed address ∨ HasAllowedScheme (address ++ rest) := by
  constructor
  · rintro (hscheme | hplain | hcolon)
    · exact Or.inr hscheme
    · -- the first character is that of the address, if there is one
      left
      cases address with
      | nil => exact Or.inr (Or.inr List.not_mem_nil)
      | cons c address => exact Or.inr (Or.inl hplain)
    · left
      rw [colon_mem_before_append_iff h] at hcolon
      exact Or.inr (Or.inr hcolon)
  · rintro (haddress | hscheme)
    · exact haddress.append h
    · exact Or.inl hscheme

theorem isAllowed_http (rest : Text) : IsAllowed ("http://".toList ++ rest) :=
  IsAllowed.append (by decide) (Or.inl (by decide))

/-- A URL that begins like one without a scheme is allowed. -/
theorem isAllowed_cons {c : Char} (h : [c] ∈ plainStarts) (rest : Text) : IsAllowed (c :: rest) :=
  Or.inr (Or.inl h)

/-! ## What tokens lead to -/

/-- The URL that is written for a destination. -/
def destinationUrl (setup : Setup) : Destination → Text
  | .url url => url
  | .page ref => Address.ofPage ref setup.page setup.site

/-- A page has an allowed URL. -/
theorem isAllowed_ofPage (ref : PageRef) (page : Page) (site : Site) :
    IsAllowed (Address.ofPage ref page site) := by
  rw [Address.ofPage_eq]
  split
  · exact isAllowed_cons (by decide) _
  · rw [List.append_assoc]
    exact isAllowed_http _

/-- The address of a site that a token of some kind leads below. -/
def addressOf (site : Site) : Namespace → Option Text
  | .download => some (site.downloadUrl ++ ['/'])
  | .attachment => some (site.mediaUrl ++ ['/'])
  | .api => some (site.apiUrl ++ ['/'])
  | .user => some site.profileUrl
  | .php | .ordinary => none

/-- A token that names a file, a page of the reference or a user leads below the address of the site for
it, and what is put behind has no colon if the address does not end with a slash. Any other page token
leads to an allowed URL. -/
theorem resolveTarget_address {setup : Setup} {target : Token.Target} {r : Link.Resolution}
    (h : Link.resolveTarget setup.files setup.site setup.page target = .ok r) :
    match addressOf setup.site (Namespace.ofBook target.book) with
    | some address => ∃ rest, destinationUrl setup r.destination = address ++ rest ∧
        ('/' ∈ address ∨ ':' ∉ rest)
    | none => IsAllowed (destinationUrl setup r.destination) := by
  unfold Link.resolveTarget at h
  -- all but the address of users are put in front with a slash, and users have numbers behind theirs
  cases hkind : Namespace.ofBook target.book with
  | download =>
    rw [hkind] at h
    cases h
    exact ⟨target.name, by simp [destinationUrl], Or.inl (by simp)⟩
  | attachment =>
    rw [hkind] at h
    obtain ⟨found, -, rfl⟩ := Link.map_eq_ok_iff.mp h
    exact ⟨setup.page.book ++ '/' :: target.name, by simp [destinationUrl], Or.inl (by simp)⟩
  | api =>
    rw [hkind] at h
    cases h
    exact ⟨Link.apiPage target.writtenName, by simp [destinationUrl], Or.inl (by simp)⟩
  | user =>
    rw [hkind] at h
    obtain ⟨number, -, rfl⟩ := Link.map_eq_ok_iff.mp h
    refine ⟨Digit.writeInt number, rfl, Or.inr fun hcolon => ?_⟩
    rcases Digit.isDigit_or_of_mem_writeInt hcolon with hdigit | hsign
    · cases hdigit
    · cases hsign
  | php =>
    rw [hkind] at h
    cases h
    have hmanual : "http://php.net/".toList = "http://".toList ++ "php.net/".toList := rfl
    simp only [addressOf, destinationUrl, hmanual, List.append_assoc]
    -- a section stands behind the address of the manual
    split
    · exact isAllowed_http _
    · exact isAllowed_http _
  | ordinary =>
    rw [hkind] at h
    cases h
    exact isAllowed_ofPage _ setup.page setup.site

/-- The addresses of the default settings are allowed. -/
theorem isAllowed_of_addressOf_default {kind : Namespace} {address : Text}
    (h : addressOf (Settings.site {}) kind = some address) : IsAllowed address := by
  cases kind with
  | download | attachment | api | user =>
    cases h
    decide
  | php | ordinary => cases h

/-- Where a token leads is the URL of its destination. -/
theorem lead_eq_ok {setup : Setup} {token url : Text} {marked : Bool} {s : State}
    (h : (lead setup token s).1 = .ok (url, marked)) :
    ∃ r, Link.resolve setup.files setup.site setup.page token = .ok r ∧
      destinationUrl setup r.destination = url := by
  change ((resolve setup token).andThen _ s).1 = _ at h
  cases hresolve : Link.resolve setup.files setup.site setup.page token with
  | error fault =>
    rw [resolve_andThen_of_error hresolve] at h
    cases h
  | ok r =>
    rw [resolve_andThen_of_ok hresolve] at h
    refine ⟨r, rfl, ?_⟩
    cases hdestination : r.destination with
    | url url' =>
      rw [hdestination] at h
      exact (Prod.mk.inj (Except.ok.inj h)).1
    | page ref =>
      rw [hdestination] at h
      exact (Prod.mk.inj (Except.ok.inj h)).1

/-- What a token leads to is allowed if the token is not final, or allowed itself, and if the address
that it leads below is allowed, or makes up a scheme that is allowed with what stands behind it. -/
theorem isAllowed_resolve_iff {setup : Setup} {token : Text} {r : Link.Resolution}
    (h : Link.resolve setup.files setup.site setup.page token = .ok r) :
    IsAllowed (destinationUrl setup r.destination) ↔
      (Token.IsFinal token → IsAllowed token) ∧
      ∀ target address, Token.Reads token setup.page target →
        addressOf setup.site (Namespace.ofBook target.book) = some address →
        IsAllowed address ∨ HasAllowedScheme (destinationUrl setup r.destination) := by
  rcases Token.final_or_section_or_reads token setup.page with
    hfinal | ⟨hexternal, name, rfl⟩ | ⟨target, hreads⟩
  · -- a final token is as safe as the URL that it is
    rw [Link.resolve_of_isFinal hfinal] at h
    cases h
    constructor
    · intro hallowed
      exact ⟨fun _ => hallowed, fun target _ hreads => absurd hreads hfinal.not_reads⟩
    · rintro ⟨hallowed, -⟩
      exact hallowed hfinal
  · rw [Link.resolve_section hexternal] at h
    cases h
    have hsection : ∀ anchor, IsAllowed ('#' :: anchor) := isAllowed_cons (by decide)
    exact iff_of_true (hsection _)
      ⟨fun _ => hsection _, fun target _ hreads => absurd rfl hreads.2.1⟩
  · rw [Link.resolve_of_reads hreads] at h
    have haddress := resolveTarget_address h
    have hnotFinal : ¬ Token.IsFinal token := fun hfinal => hfinal.not_reads hreads
    cases hkind : addressOf setup.site (Namespace.ofBook target.book) with
    | none =>
      rw [hkind] at haddress
      refine iff_of_true haddress ⟨fun hfinal => absurd hfinal hnotFinal, ?_⟩
      intro target' address hreads' haddress'
      rw [hreads'.unique hreads, hkind] at haddress'
      cases haddress'
    | some address =>
      rw [hkind] at haddress
      obtain ⟨rest, hurl, hrest⟩ := haddress
      rw [hurl, isAllowed_append_iff hrest]
      constructor
      · intro hallowed
        refine ⟨fun hfinal => absurd hfinal hnotFinal, ?_⟩
        intro target' address' hreads' haddress'
        rw [hreads'.unique hreads, hkind] at haddress'
        cases haddress'
        exact hallowed
      · rintro ⟨-, hallowed⟩
        exact hallowed target address hreads hkind

/-! ## References -/

/-- A reference is written with an allowed URL, unless its token is final and not allowed itself, for a
final token is the URL, or it leads below an address of the site that is not allowed. -/
theorem reference_isAllowed_iff {setup : Setup} {r : Reference} {s : State} {html : Text}
    (h : (reference setup r s).1 = .ok html) :
    ∃ tag url, LinkTag.read html = some tag ∧ tag.LeadsTo url ∧
      (Token.IsFinal r.token → url = r.token) ∧
      (IsAllowed url ↔
        (Token.IsFinal r.token → IsAllowed r.token) ∧
        ∀ target address, Token.Reads r.token setup.page target →
          addressOf setup.site (Namespace.ofBook target.book) = some address →
          IsAllowed address ∨ HasAllowedScheme url) := by
  have hwrites := (reference_eq_lead setup r s).1
  rw [h] at hwrites
  -- where there is HTML, the token leads somewhere
  cases hlead : (lead setup r.token s).1 with
  | error fault =>
    rw [hlead] at hwrites
    exact hwrites.elim
  | ok result =>
    rw [hlead] at hwrites
    obtain ⟨tag, hread, hurl, -⟩ := hwrites
    obtain ⟨resolution, hresolve, hdestination⟩ := lead_eq_ok hlead
    have hfinal : Token.IsFinal r.token → result.1 = r.token := by
      intro hfinal
      rw [Link.resolve_of_isFinal hfinal] at hresolve
      cases hresolve
      exact hdestination.symm
    rw [← hdestination] at hurl hfinal
    exact ⟨tag, _, hread, hurl, hfinal, isAllowed_resolve_iff hresolve⟩

/-- A file whose name looks like a scheme and a script is below the usual address for downloads. -/
theorem reference_isAllowed_download :
    let setup : Setup :=
      { Setup.bare ⟨"doc".toList, "en".toList, homepage⟩ with site := Settings.site {} }
    let r : Reference := ⟨"download:javascript:alert(1)".toList, none⟩
    let html : Text := "<a href=\"/download/javascript/alert(1)\">alert(1)</a>".toList
    (reference setup r {}).1 = .ok html ∧
      ∃ tag url, LinkTag.read html = some tag ∧ tag.LeadsTo url ∧ IsAllowed url := by
  intro setup r html
  have hhtml : (reference setup r {}).1 = .ok html := by decide
  have hreads : ∃ target, Token.Reads r.token setup.page target := ⟨_, rfl, by decide, rfl⟩
  obtain ⟨target, hreads⟩ := hreads
  obtain ⟨tag, url, hread, hleads, -, hallowed⟩ := reference_isAllowed_iff hhtml
  refine ⟨hhtml, tag, url, hread, hleads, hallowed.mpr ⟨?_, ?_⟩⟩
  · intro hfinal
    exact absurd hreads hfinal.not_reads
  · intro _ address _ haddress
    exact Or.inl (isAllowed_of_addressOf_default haddress)

/-- Two references that run a script: one has an address of mail behind it, and the section of the
other goes over a line end. -/
theorem references_not_allowed :
    let setup : Setup :=
      { Setup.bare ⟨"doc".toList, "en".toList, homepage⟩ with site := Settings.site {} }
    let leadsToScript (url : Text) : Prop :=
      (references setup (Reference.bracketed url) {}).1.toOption.bind LinkTag.read =
          some ⟨url, []⟩ ∧
        LinkTag.LeadsTo ⟨url, []⟩ url ∧ ¬ IsAllowed url
    leadsToScript "javascript:alert(1)//@".toList ∧
      leadsToScript "javascript:alert(1)#\nx".toList := by
  intro setup leadsToScript
  simp only [leadsToScript, LinkTag.LeadsTo]
  constructor
  · exact ⟨by decide, by decide, by decide⟩
  · exact ⟨by decide, by decide, by decide⟩

end Conversion
end WikiMarkup
