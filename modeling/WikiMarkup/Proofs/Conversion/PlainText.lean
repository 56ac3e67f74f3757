import WikiMarkup.Proofs.Conversion.Link
import WikiMarkup.Proofs.Link.Special
import WikiMarkup.Proofs.Text.Percent

/-!
# Plain text in HTML

The text of a link and of a heading reaches the conversion as HTML. Where it is plain text that was
escaped, the conversion has it back as it was written: no part of it is taken for a tag, and no
reference in it is read that the author wrote as text.

* `linkUrl_escape`: a link that takes its target from its text resolves the text as it was written.
* `addHeading_registers`: a heading is registered with its text as it was written.
* `plain_text_survives`: the way through HTML, and what both make of it.
-/

namespace WikiMarkup
namespace Conversion

open Text

/-! ## Links that take their target from their text -/

theorem mem_textBooks_iff {book : Text} :
    book ∈ textBooks ↔ book = "api".toList ∨ book = "php".toList := by
  simp only [textBooks, List.mem_cons, List.not_mem_nil, or_false]

/-- The text of a link is the name that is looked up. -/
theorem linkToken_escape {book : Text} (hbook : book ∈ textBooks) (t : Text) :
    linkToken book (Entity.escape t) = .ok (book ++ ':' :: t) := by
  have hname : Percent.decode book = book ∧ trimEnd (· == ':') book = book := by
    rcases mem_textBooks_iff.mp hbook with rfl | rfl
    · exact ⟨rfl, rfl⟩
    · exact ⟨rfl, rfl⟩
  unfold linkToken
  dsimp only
  rw [hname.1, hname.2, if_pos (List.contains_iff_mem.mpr hbook), Entity.strip_escape,
    Entity.unescape_escape]
  rfl

/-- A token in a book that is looked up leads to a URL, without fail and without a problem. -/
theorem resolve_textBook {book : Text} (hbook : book ∈ textBooks) (name : Text) (setup : Setup)
    (s : State) : ∃ url, resolve setup (book ++ ':' :: name) s = (.ok (.url url), s) := by
  have hkind : Namespace.ofBook book = .api ∨ Namespace.ofBook book = .php := by
    rcases mem_textBooks_iff.mp hbook with rfl | rfl
    · exact Or.inl rfl
    · exact Or.inr rfl
  have hspecial : Token.IsBook book := by
    apply Token.isBook_of_special
    rcases hkind with h | h <;> simp [h]
  rcases Token.final_or_section_or_reads (book ++ ':' :: name) setup.page with
    hfinal | ⟨-, rest, hsection⟩ | ⟨target, hreads⟩
  · exact ⟨_, resolve_eq_self (Link.resolve_of_isFinal hfinal _ _ _) s⟩
  · -- a book begins with a letter
    obtain ⟨c, hhead, hletter⟩ := hspecial.head
    obtain ⟨book, rfl⟩ := List.head?_eq_some_iff.mp hhead
    cases hsection
    cases hletter
  · have htarget : target.book = book := Token.book_of_read hspecial hreads.2.2
    have hresolve := Link.resolve_of_reads hreads setup.files setup.site
    unfold Link.resolveTarget at hresolve
    rw [htarget] at hresolve
    rcases hkind with h | h
    · rw [h] at hresolve
      exact ⟨_, resolve_eq_self hresolve s⟩
    · rw [h] at hresolve
      exact ⟨_, resolve_eq_self hresolve s⟩

/-- A link that takes its target from its text resolves the text as it was before it was escaped, and
gives the URL that this leads to. -/
theorem linkUrl_escape {book : Text} (hbook : book ∈ textBooks) (t : Text) (setup : Setup)
    (s : State) :
    ∃ url, resolve setup (book ++ ':' :: t) s = (.ok (.url url), s) ∧
      linkUrl setup book (Entity.escape t) s =
        (.ok (finalUrl url (book ++ ':' :: t) book, isMarked s url), s) := by
  obtain ⟨url, hresolve⟩ := resolve_textBook hbook t setup s
  refine ⟨url, hresolve, ?_⟩
  unfold linkUrl
  rw [linkToken_escape hbook]
  show (resolve setup (book ++ ':' :: t)).andThen _ s = _
  rw [Action.andThen_ok (congrArg Prod.fst hresolve), hresolve]
  rfl

/-! ## Headings -/

/-- A heading with words is registered with its text as it was before it was escaped, without the white
space around it. -/
theorem addHeading_registers {t : Text} (hslug : Slug.ofHeading (trim t) ≠ []) (level : Int)
    (s : State) :
    ∃ anchor, addHeading (Entity.escape t) level s =
      (.ok (outputLevel s level, some anchor),
        { s with
          anchors := s.anchors ++ [anchor]
          headings := s.headings ++ [⟨outputLevel s level, trim t, anchor⟩] }) := by
  rcases addHeading_cases (Entity.escape t) level s with
    ⟨e, htitle, -⟩ | ⟨title, htitle, hnil, -⟩ | ⟨title, anchor, htitle, -, -, hadd⟩
  all_goals
    rw [headingTitle_escape] at htitle
    cases htitle
  · exact absurd hnil hslug
  · exact ⟨anchor, hadd⟩

/-! ## Plain text -/

/-- A text that is escaped for HTML is read back from it, whatever tags and references it looks like:
stripping finds no tag, and reading the references gives the text. So a link to the API reference or
the manual resolves its text as it was written, and a heading with words is registered with its text
as it was written, without the white space around it. -/
theorem plain_text_survives (t : Text) :
    Entity.unescape (Tag.strip (Entity.escape t)) = .ok t ∧
      (∀ setup s, ∀ book ∈ ["api".toList, "php".toList],
        ∃ url, resolve setup (book ++ ':' :: t) s = (.ok (.url url), s) ∧
          linkUrl setup book (Entity.escape t) s =
            (.ok (finalUrl url (book ++ ':' :: t) book, isMarked s url), s)) ∧
      ∀ s level, Slug.ofHeading (trim t) ≠ [] →
        ∃ anchor, addHeading (Entity.escape t) level s =
          (.ok (outputLevel s level, some anchor),
            { s with
              anchors := s.anchors ++ [anchor]
              headings := s.headings ++ [⟨outputLevel s level, trim t, anchor⟩] }) := by
  refine ⟨?_, ?_, ?_⟩
  · rw [Entity.strip_escape, Entity.unescape_escape]
  · intro setup s book hbook
    exact linkUrl_escape hbook t setup s
  · intro s level hslug
    exact addHeading_registers hslug level s

/-- A text that looks like tags, like references that were escaped twice and like one that is not
closed. -/
theorem plain_text_survives_references :
    let t : Text := " &amp;lt;b> &copy <a> &#x27 ".toList
    Slug.ofHeading (trim t) ≠ [] ∧
      Entity.unescape (Tag.strip (Entity.escape t)) = .ok t ∧
      (∃ url, linkUrl (.bare ⟨"doc".toList, "en".toList, homepage⟩) "php".toList
        (Entity.escape t) {} = (.ok (url, false), {})) ∧
      ((addHeading (Entity.escape t) 2 {}).2.headings.map (·.title)) =
        ["&amp;lt;b> &copy <a> &#x27".toList] := by
  intro t
  have hslug : Slug.ofHeading (trim t) ≠ [] := by decide
  obtain ⟨hback, hlink, hheading⟩ := plain_text_survives t
  obtain ⟨url, -, hurl⟩ := hlink (.bare ⟨"doc".toList, "en".toList, homepage⟩) {} "php".toList
    (by simp)
  obtain ⟨anchor, hadd⟩ := hheading {} 2 hslug
  refine ⟨hslug, hback, ⟨_, hurl⟩, ?_⟩
  rw [hadd]
  rfl

end Conversion
end WikiMarkup
