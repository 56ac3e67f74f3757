import WikiMarkup.Proofs.Conversion.Heading
import WikiMarkup.Proofs.Link.Canonical
import WikiMarkup.Proofs.Link.Resolve
import WikiMarkup.Proofs.Text.Entity

/-!
# Links of a conversion

What a conversion makes of the tokens that name a page or a section of the page itself. A page that
a token leads to can be named in full, from every page. A section is found by the text of its
heading, if that does not look like a token of another kind.
-/

namespace WikiMarkup
namespace Conversion

open Text

/-- Resolving changes the session only, by the problem that was found. -/
theorem resolve_eq {setup : Setup} {token : Text} {r : Link.Resolution}
    (h : Link.resolve setup.files setup.site setup.page token = .ok r) (s : State) :
    resolve setup token s = (.ok r.destination, { s with session := r.record s.session }) := by
  unfold resolve
  rw [h]
  rfl

theorem resolve_ok {setup : Setup} {token : Text} {s : State} {destination : Destination}
    (h : (resolve setup token s).1 = .ok destination) :
    ∃ r, Link.resolve setup.files setup.site setup.page token = .ok r ∧
      r.destination = destination := by
  cases hr : Link.resolve setup.files setup.site setup.page token with
  | error e =>
    unfold resolve at h
    rw [hr] at h
    cases h
  | ok r =>
    rw [resolve_eq hr] at h
    exact ⟨r, rfl, Except.ok.inj h⟩

/-- A resolution without a problem leaves the conversion as it is. -/
theorem resolve_eq_self {setup : Setup} {token : Text} {destination : Destination}
    (h : Link.resolve setup.files setup.site setup.page token = .ok { destination }) (s : State) :
    resolve setup token s = (.ok destination, s) := by
  rw [resolve_eq h]
  simp [Link.Resolution.record]

/-! ## Pages -/

/-- A page that some token leads to, from a page with a book and a language, has a token that leads
to it from every page and changes nothing: its book, its language, its name and its anchor, unless
a sign in the name or the book makes that a token of another kind. -/
theorem resolve_canonical {setup : Setup} {token : Text} {s : State} {ref : PageRef}
    (hbook : Token.IsBook setup.page.book) (hlang : isLangCode setup.page.lang = true)
    (h : (resolve setup token s).1 = .ok (.page ref)) (hat : '@' ∉ ref.name)
    (hhash : '#' ∉ ref.name) (hcolon : ':' ∉ ref.name) (hscheme : ref.book ∉ Token.schemes)
    (setup' : Setup) (s' : State) :
    resolve setup' (Link.canonical ref) s' = (.ok (.page ref), s') := by
  obtain ⟨r, hr, hpage⟩ := resolve_ok h
  obtain ⟨target, hread, hkind, rfl⟩ := Link.resolve_page hr hpage
  have hlinked : Link.IsLinked (Link.targetRef target) :=
    Link.isLinked_targetRef hbook hlang hread hkind
  apply resolve_eq_self
  exact Link.resolve_of_isLinked hlinked hat hhash hcolon hscheme _ _ _

/-- A relative name, with a section that is written as an anchor, from a page in a directory. -/
theorem resolve_canonical_relative :
    let setup : Setup := .bare ⟨"nette-2.0".toList, "cs".toList, "forms/intro".toList⟩
    let ref : PageRef :=
      ⟨"nette-2.0".toList, "cs".toList, "forms/Rules".toList, some "toc-own-rules".toList⟩
    (resolve setup "Rules#toc-Own rules!".toList {}).1 = .ok (.page ref) ∧
      resolve (.bare ⟨"www".toList, "en".toList, homepage⟩)
        "nette-2.0:cs:forms/Rules#toc-own-rules".toList {} = (.ok (.page ref), {}) := by
  intro setup ref
  have hbook : Token.IsBook setup.page.book :=
    ⟨"nette".toList, "-2.0".toList, rfl, by decide, List.all_eq_true.mp rfl,
      Or.inr ⟨'2', '0', rfl, rfl, rfl⟩⟩
  have h : (resolve setup "Rules#toc-Own rules!".toList {}).1 = .ok (.page ref) := by
    rfl
  exact ⟨h, resolve_canonical hbook rfl h (by decide) (by decide)
    (by decide) (by decide) (.bare ⟨"www".toList, "en".toList, homepage⟩) {}⟩

/-! ## Sections -/

/-- The title of a heading is the text that was escaped for it, without the space around it. -/
theorem headingTitle_escape (title : Text) :
    headingTitle (Entity.escape title) = .ok (trim title) := by
  rw [headingTitle, Entity.strip_escape, Entity.unescape_escape]
  rfl

/-- A heading with words gets its own anchor, if that is free. -/
theorem addHeading_escape {s : State} {title : Text} (hslug : Slug.ofHeading title ≠ [])
    (hfree : Anchor.mark ++ Slug.ofHeading title ∉ s.anchors) (level : Int) :
    (addHeading (Entity.escape title) level s).1 =
      .ok (outputLevel s level, some (Anchor.mark ++ Slug.ofHeading title)) := by
  rcases addHeading_cases (Entity.escape title) level s with
    ⟨e, htitle, -⟩ | ⟨title', htitle, hnil, -⟩ | ⟨title', anchor, htitle, -, hanchor, heq⟩
  · rw [headingTitle_escape] at htitle
    cases htitle
  · rw [headingTitle_escape] at htitle
    cases htitle
    rw [Slug.ofHeading_trim] at hnil
    exact absurd hnil hslug
  · rw [headingTitle_escape] at htitle
    cases htitle
    rw [Slug.ofHeading_trim] at hanchor
    rcases hanchor with ⟨-, rfl⟩ | ⟨hused, -⟩
    · rw [heq]
    · exact absurd hused hfree

/-- A section leads to its anchor on the page, unless its name has an `@`. -/
theorem resolve_section {title : Text} (hat : '@' ∉ title) (setup : Setup) (s : State) :
    resolve setup ('#' :: title) s = (.ok (.url ('#' :: Anchor.ofSection title)), s) := by
  apply resolve_eq_self
  exact Link.resolve_section (Token.isExternal_section hat) _ _ _

/-- With an `@` in its name a section is taken for an address. -/
theorem resolve_section_external {title : Text} (hat : '@' ∈ title) (hline : '\n' ∉ title)
    (setup : Setup) (s : State) :
    resolve setup ('#' :: title) s = (.ok (.url ('#' :: title)), s) := by
  have hfirst : firstLine ('#' :: title) = '#' :: title := before_eq_self (by simpa using hline)
  have hexternal : Token.isExternal ('#' :: title) = true := by
    rw [Token.isExternal, hfirst, List.drop_one, List.tail_cons, List.contains_iff_mem.mpr hat,
      Bool.true_or]
  apply resolve_eq_self
  exact Link.resolve_of_isFinal (Or.inl hexternal) _ _ _

/-- A heading with words gets the anchor of its slug, if that is free. A link by the text of the heading
leads to this anchor, whatever the page has found in between, exactly if the text has no `@`, which makes
the link an address. A text that begins like an anchor is left aside: the link takes that beginning
away, the heading keeps it. -/
theorem sectionLink_iff (setup : Setup) {s : State} {title : Text} (level : Int)
    (hline : '\n' ∉ title) (hslug : Slug.ofHeading title ≠ [])
    (hmark : startsWith Anchor.mark title = false)
    (hfree : Anchor.mark ++ Slug.ofHeading title ∉ s.anchors) :
    (addHeading (Entity.escape title) level s).1 =
        .ok (outputLevel s level, some (Anchor.mark ++ Slug.ofHeading title)) ∧
      ((∀ s', resolve setup ('#' :: title) s' =
          (.ok (.url ('#' :: (Anchor.mark ++ Slug.ofHeading title))), s')) ↔ '@' ∉ title) ∧
      ('@' ∈ title → ∀ s', resolve setup ('#' :: title) s' = (.ok (.url ('#' :: title)), s')) := by
  have hexternal : '@' ∈ title →
      ∀ s', resolve setup ('#' :: title) s' = (.ok (.url ('#' :: title)), s') :=
    fun hat => resolve_section_external hat hline setup
  refine ⟨addHeading_escape hslug hfree level, ⟨fun hhits hat => ?_, fun hat s' => ?_⟩, hexternal⟩
  · -- the link is the text itself, and no anchor has an `@`
    have hboth := hhits s
    rw [hexternal hat s] at hboth
    have htitle : title = Anchor.mark ++ Slug.ofHeading title :=
      (List.cons.inj (Destination.url.inj (Except.ok.inj (Prod.mk.inj hboth).1))).2
    rw [htitle] at hat
    exact Link.not_mem_anchor rfl (by decide) title hat
  · have hplain : dropPrefix? Anchor.mark title = none := by
      simpa [startsWith] using hmark
    rw [resolve_section hat, Anchor.ofSection, hplain, Option.getD_none]

/-- A title with a ligature, and with signs that are escaped in HTML. -/
theorem sectionLink_ligature :
    let setup : Setup := .bare ⟨"doc".toList, "de".toList, homepage⟩
    let title : Text := "Maße & <Fuß>".toList
    let anchor : Text := "toc-masse-fuss".toList
    ('\n' ∉ title ∧ Slug.ofHeading title ≠ [] ∧ startsWith Anchor.mark title = false ∧
        Anchor.mark ++ Slug.ofHeading title ∉ State.anchors {}) ∧
      (addHeading (Entity.escape title) 2 {}).1 = .ok (2, some anchor) ∧
      ∀ s, resolve setup ('#' :: title) s = (.ok (.url ('#' :: anchor)), s) := by
  intro setup title anchor
  have hline : '\n' ∉ title := by decide
  have hanchor : Anchor.mark ++ Slug.ofHeading title = anchor := rfl
  have hslug : Slug.ofHeading title ≠ [] := by decide
  have hlinks := sectionLink_iff setup 2 hline hslug rfl
    (show Anchor.mark ++ Slug.ofHeading title ∉ State.anchors {} from List.not_mem_nil)
  rw [hanchor] at hlinks
  exact ⟨⟨hline, hslug, rfl, List.not_mem_nil⟩, hlinks.1,
    hlinks.2.1.mpr (by decide)⟩

/-- Two headings whose text is taken for something else: an address, and an anchor. -/
theorem sectionLink_misses :
    let setup : Setup := .bare ⟨"doc".toList, "en".toList, homepage⟩
    let misses (title anchor : Text) : Prop :=
      (addHeading (Entity.escape title) 2 {}).1 = .ok (2, some anchor) ∧
        (resolve setup ('#' :: title) {}).1 ≠ .ok (.url ('#' :: anchor))
    misses "a@b".toList "toc-a-b".toList ∧ misses "toc-x".toList "toc-toc-x".toList := by
  intro setup misses
  simp only [misses]
  constructor
  · exact ⟨by decide, by decide⟩
  · exact ⟨by decide, by decide⟩

end Conversion
end WikiMarkup
