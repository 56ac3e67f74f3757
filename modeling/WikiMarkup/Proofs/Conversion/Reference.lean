import WikiMarkup.Proofs.Conversion.Resolution
import WikiMarkup.Proofs.Conversion.Run
import WikiMarkup.Proofs.Conversion.Script
import WikiMarkup.Proofs.Text.Percent

/-!
# Links and references

A link and a reference to the same token lead to the same place. Both resolve the token and then do
the same with what they find: they record a page, and they look whether a URL is to be marked. They
differ in how the token reaches them, and in what they write around the URL.
-/

namespace WikiMarkup

open Text

/-! ## Links in HTML -/

/-- The opening tag of a link in HTML: its address, as it is written between the quotes, and the
attributes behind it. -/
structure LinkTag where
  href : Text
  attributes : Text
deriving DecidableEq, Repr

namespace LinkTag

/-- Reads the opening tag of the link that an HTML text begins with. -/
def read (html : Text) : Option LinkTag := do
  let body ← dropPrefix? "<a href=\"".toList html
  let attributes ← after? '"' body
  return ⟨before '"' body, before '>' attributes⟩

/-- Whether a link with this tag leads to a URL: its address stands for the URL. -/
def LeadsTo (tag : LinkTag) (url : Text) : Prop := Entity.unescape tag.href = .ok url

/-- The attribute by which a link is marked. -/
def mark : Text := " rel=\"nofollow\"".toList

/-- Whether a link with this tag is marked so that search engines do not follow it. -/
def isMarked (tag : LinkTag) : Bool := tag.attributes == mark

/-- The tag of a link whose URL is escaped is read back. -/
theorem read_append {attributes : Text} (h : '>' ∉ attributes) (url rest : Text) :
    read ("<a href=\"".toList ++ (Entity.escape url ++ '"' :: (attributes ++ '>' :: rest))) =
      some ⟨Entity.escape url, attributes⟩ := by
  have hquote : '"' ∉ Entity.escape url := Entity.not_mem_escape rfl (by decide) url
  unfold read
  rw [dropPrefix?_eq_some_iff.mpr rfl, Option.bind_eq_bind, Option.bind_some,
    after?_append hquote, before_append hquote, Option.bind_some, before_append h]
  rfl

end LinkTag

namespace Conversion

/-- Whether the HTML of a link leads to a URL and is marked as it is said to be. If there is no URL,
because resolving broke off, there is no HTML, for the same reason. -/
def WritesLink : Except Fault Text → Except Fault (Text × Bool) → Prop
  | .ok html, .ok (url, marked) =>
    ∃ tag, LinkTag.read html = some tag ∧ tag.LeadsTo url ∧ tag.isMarked = marked
  | .error fault, .error fault' => fault = fault'
  | _, _ => False

/-! ## Where a token leads -/

/-- The URL of what a token leads to, and whether a link to it is marked. A page is recorded. -/
def lead (setup : Setup) (token : Text) : Action (Text × Bool) := do
  match ← resolve setup token with
  | .page ref => return (← pageUrl setup ref, false)
  | .url url => return (url, ← Action.look (isMarked · url))

theorem linkToken_eq_self {link : Text} (hpercent : '%' ∉ link)
    (hbook : trimEnd (· == ':') link ∉ textBooks) (text : Text) :
    linkToken link text = .ok link := by
  unfold linkToken
  dsimp only
  rw [Percent.decode_eq_self hpercent, if_neg (by simpa using hbook)]
  rfl

/-- A link without percent signs is its own token, unless it takes its name from its text: where it
leads is where the token does. -/
theorem linkUrl_eq_lead (setup : Setup) {link : Text} (hpercent : '%' ∉ link)
    (hbook : trimEnd (· == ':') link ∉ textBooks) (text : Text) :
    linkUrl setup link text = lead setup link := by
  funext s
  -- the spelling that the author gave is the token, so nothing is lost by keeping it
  have hself : ∀ url, finalUrl url link link = url := by
    intro url
    unfold finalUrl
    split
    · rename_i heq
      exact (beq_iff_eq.mp heq).symm
    · rfl
  unfold linkUrl
  rw [linkToken_eq_self hpercent hbook text]
  show (resolve setup link).andThen _ s = (resolve setup link).andThen _ s
  congr 1
  funext destination
  cases destination with
  | page ref => rfl
  | url url =>
    dsimp only
    rw [hself url]

/-! ## References -/

/-- The language of a page that a token leads to is that of the page or one that the token names. -/
theorem lang_of_resolve_page {setup : Setup} {token : Text} {r : Link.Resolution} {ref : PageRef}
    (h : Link.resolve setup.files setup.site setup.page token = .ok r)
    (hpage : r.destination = .page ref) :
    ref.lang = setup.page.lang ∨ isLangCode ref.lang = true := by
  obtain ⟨target, hread, -, rfl⟩ := Link.resolve_page h hpage
  obtain ⟨parts, hsplit, rfl⟩ := Option.map_eq_some_iff.mp hread
  cases hlang : parts.lang with
  | none =>
    left
    simp [Link.targetRef]
  | some lang =>
    right
    simpa [Link.targetRef, hlang] using (Token.split_parts hsplit).2 lang hlang

/-- The attribute of a reference to a page in another language. -/
def langAttribute (setup : Setup) (ref : PageRef) : Text :=
  if ref.lang == setup.page.lang then [] else " lang=\"".toList ++ ref.lang ++ "\"".toList

/-- The attribute for the language neither ends the tag nor is the one that marks a link. -/
theorem langAttribute_spec {setup : Setup} {ref : PageRef}
    (h : ref.lang = setup.page.lang ∨ isLangCode ref.lang = true) :
    '>' ∉ langAttribute setup ref ∧ langAttribute setup ref ≠ LinkTag.mark := by
  unfold langAttribute
  split
  · exact ⟨List.not_mem_nil, nofun⟩
  · rename_i hother
    have hlang : '>' ∉ ref.lang := by
      rcases h with heq | hcode
      · exact absurd (beq_iff_eq.mpr heq) hother
      · exact Token.not_mem_of_isLangCode hcode rfl
    refine ⟨by simp [hlang], fun heq => ?_⟩
    have hletter : 'l' = 'r' := (List.cons.inj (List.cons.inj heq).2).1
    cases hletter

/-- The attribute of a reference to a URL marks it if it is to be marked. -/
theorem markAttribute_spec (marked : Bool) :
    '>' ∉ (if marked then LinkTag.mark else []) ∧
      ((if marked then LinkTag.mark else []) == LinkTag.mark) = marked := by
  cases marked with
  | false => exact ⟨List.not_mem_nil, rfl⟩
  | true => exact ⟨by decide, beq_iff_eq.mpr rfl⟩

/-- The HTML of a link, with the attributes behind its address. -/
theorem writesLink_anchor {attributes : Text} (h : '>' ∉ attributes) (url label : Text) :
    WritesLink
      (.ok ("<a href=\"".toList ++ Entity.escape url ++ "\"".toList ++ attributes ++ ">".toList ++
        Entity.escape label ++ "</a>".toList))
      (.ok (url, attributes == LinkTag.mark)) := by
  refine ⟨⟨Entity.escape url, attributes⟩, ?_, Entity.unescape_escape url, rfl⟩
  rw [← LinkTag.read_append h url (Entity.escape label ++ "</a>".toList)]
  simp only [List.append_assoc]
  rfl

/-- A reference leads where its token does, and records the same. -/
theorem reference_eq_lead (setup : Setup) (r : Reference) (s : State) :
    WritesLink (reference setup r s).1 (lead setup r.token s).1 ∧
      (reference setup r s).2 = (lead setup r.token s).2 := by
  show WritesLink ((resolve setup r.token).andThen _ s).1 ((resolve setup r.token).andThen _ s).1 ∧
    ((resolve setup r.token).andThen _ s).2 = ((resolve setup r.token).andThen _ s).2
  cases h : Link.resolve setup.files setup.site setup.page r.token with
  | error fault =>
    rw [resolve_andThen_of_error h, resolve_andThen_of_error h]
    exact ⟨rfl, rfl⟩
  | ok resolution =>
    rw [resolve_andThen_of_ok h, resolve_andThen_of_ok h]
    cases hdestination : resolution.destination with
    | page ref =>
      refine ⟨?_, rfl⟩
      -- only the attribute for another language stands behind the address of a page
      obtain ⟨hclosed, hplain⟩ : '>' ∉ langAttribute setup ref ∧
          langAttribute setup ref ≠ LinkTag.mark :=
        langAttribute_spec (lang_of_resolve_page h hdestination)
      have hwrites := writesLink_anchor hclosed (Address.ofPage ref setup.page setup.site)
        ((r.label.map trim).getD (lastSegment ref.name))
      rwa [beq_eq_false_iff_ne.mpr hplain] at hwrites
    | url url =>
      refine ⟨?_, rfl⟩
      obtain ⟨hclosed, hmarked⟩ :=
        markAttribute_spec (isMarked { s with session := resolution.record s.session } url)
      have hwrites := writesLink_anchor hclosed url
        ((r.label.map trim).getD (Reference.targetLabel (trim r.target)))
      rwa [hmarked] at hwrites

end Conversion

namespace Reference

/-- The reference to a token, without a label, as it is written. -/
def bracketed (token : Text) : Text := "[[".toList ++ token ++ "]]".toList

/-- A token that can stand between the brackets of a reference is all that is found there. -/
theorem scan_bracketed {token : Text} (hne : token ≠ []) (hbracket : ']' ∉ token)
    (hbar : '|' ∉ token) : scan recognise (bracketed token) = [.found ⟨token, none⟩] := by
  have hinside : ∀ c ∈ token, (c != ']' && c != '|') = true := by
    intro c hc
    rw [bne_of_not_mem hbracket c hc, bne_of_not_mem hbar c hc]
    rfl
  have hclosing : ∀ c, "]]".toList.head? = some c → (c != ']' && c != '|') = false := by
    intro c hc
    cases hc
    rfl
  have hempty : token.isEmpty = false := by simpa using hne
  -- the target ends with the brackets that close the reference
  have htake := (takeWhile_append_stop hinside hclosing).1
  have hlength : (bracketed token).length = token.length + 4 := by
    simp [bracketed]
  have hfound : recognise none (bracketed token ++ []) =
      some (⟨token, none⟩, (bracketed token).length) := by
    rw [hlength, List.append_nil, bracketed, List.append_assoc]
    show recognise none ('[' :: '[' :: (token ++ "]]".toList)) = _
    simp only [recognise, htake, hempty, Bool.false_eq_true, if_false, List.drop_left]
    rfl
  have hscan := scanFrom_found (List.cons_ne_nil _ _) hfound
  rwa [List.append_nil] at hscan

end Reference

namespace Conversion

/-- A link and a reference to one token agree: a reference, written on its own, resolves its token
as a link does whose destination is the token, leads to the same URL, is marked if the link is, and
leaves the conversion as the link does; or both break off, for the same reason. -/
theorem references_bracketed (setup : Setup) {token : Text} (hne : token ≠ [])
    (hpercent : '%' ∉ token) (hbracket : ']' ∉ token) (hbar : '|' ∉ token)
    (hblank : trim token = token) (hbook : trimEnd (· == ':') token ∉ textBooks) (text : Text)
    (s : State) :
    WritesLink (references setup (Reference.bracketed token) s).1 (linkUrl setup token text s).1 ∧
      (references setup (Reference.bracketed token) s).2 = (linkUrl setup token text s).2 := by
  have hreference : references setup (Reference.bracketed token) s =
      reference setup ⟨token, none⟩ s := by
    rw [references, Reference.scan_bracketed hne hbracket hbar, Action.replacePieces_singleton]
  have hlead := reference_eq_lead setup ⟨token, none⟩ s
  rw [Reference.token, hblank] at hlead
  rwa [hreference, linkUrl_eq_lead setup hpercent hbook text]

/-- An address with an ampersand, which is escaped in the HTML, on a page that marks its links. -/
theorem references_bracketed_address :
    let setup : Setup := .bare ⟨"doc".toList, "en".toList, homepage⟩
    let token : Text := "http://x.org/?a=1&b=2".toList
    (references setup (Reference.bracketed token) { nofollow := true }).1 =
        .ok ("<a href=\"http://x.org/?a=1&amp;b=2\" rel=\"nofollow\">".toList ++
          "http://x.org/?a=1&amp;b=2</a>".toList) ∧
      WritesLink (references setup (Reference.bracketed token) { nofollow := true }).1
        (.ok (token, true)) := by
  intro setup token
  have hlink : (linkUrl setup token "here".toList { nofollow := true }).1 = .ok (token, true) := by
    rfl
  have hagree := references_bracketed setup (show token ≠ [] from List.cons_ne_nil _ _)
    (by decide) (by decide) (by decide) (by decide)
    (by decide) "here".toList { nofollow := true }
  rw [hlink] at hagree
  exact ⟨rfl, hagree.1⟩

end Conversion
end WikiMarkup
