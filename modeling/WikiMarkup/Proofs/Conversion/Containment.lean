import WikiMarkup.Proofs.Conversion.Safety

/-!
# Containment

A reference is written as one link. Its URL and its label may be any texts: they are escaped, so
neither gets out of the place where it is put, and a browser reads there what was meant. The
attribute for a language is not escaped: a language that has to be told is one that the token names,
and so two letters.
-/

namespace WikiMarkup

open Text

namespace Reference

/-- What a reader sees of a reference to a destination: its label, or else the last part of the name
of the page, or the token without the words that say where it leads. -/
def shown (r : Reference) : Destination → Text
  | .page ref => (r.label.map trim).getD (lastSegment ref.name)
  | .url _ => (r.label.map trim).getD (targetLabel r.token)

end Reference

namespace Conversion

/-- The HTML of a link with a URL and a label, and with attributes behind its address. -/
def anchor (url attributes label : Text) : Text :=
  "<a href=\"".toList ++ Entity.escape url ++ "\"".toList ++ attributes ++ ">".toList ++
    Entity.escape label ++ "</a>".toList

/-- The attributes of a reference to a destination. -/
def referenceAttributes (setup : Setup) (s : State) : Destination → Text
  | .page ref => langAttribute setup ref
  | .url url => if isMarked s url then LinkTag.mark else []

/-- The HTML of a reference, by the destination of its token. -/
theorem reference_fst {setup : Setup} {r : Reference} {resolution : Link.Resolution}
    (h : Link.resolve setup.files setup.site setup.page r.token = .ok resolution) (s : State) :
    (reference setup r s).1 =
      .ok (anchor (destinationUrl setup resolution.destination)
        (referenceAttributes setup s resolution.destination) (r.shown resolution.destination)) := by
  show ((resolve setup r.token).andThen _ s).1 = _
  rw [resolve_andThen_of_ok h]
  cases resolution.destination with
  | page ref => rfl
  | url url => rfl

/-- Behind the address of a reference stands nothing, or the mark, or a language of two letters. -/
theorem referenceAttributes_cases {setup : Setup} {token : Text} {resolution : Link.Resolution}
    (h : Link.resolve setup.files setup.site setup.page token = .ok resolution) (s : State) :
    referenceAttributes setup s resolution.destination = [] ∨
      referenceAttributes setup s resolution.destination = LinkTag.mark ∨
      ∃ lang, isLangCode lang = true ∧
        referenceAttributes setup s resolution.destination =
          " lang=\"".toList ++ lang ++ "\"".toList := by
  cases hdestination : resolution.destination with
  | url url =>
    cases hmarked : isMarked s url with
    | false =>
      left
      simp [referenceAttributes, hmarked]
    | true =>
      right
      left
      simp [referenceAttributes, hmarked]
  | page ref =>
    -- the language of the page itself, which may be any text, is not written
    by_cases hsame : ref.lang = setup.page.lang
    · left
      simp [referenceAttributes, langAttribute, hsame]
    · right
      right
      refine ⟨ref.lang, ?_, by simp [referenceAttributes, langAttribute, hsame]⟩
      exact (lang_of_resolve_page h hdestination).resolve_left hsame

/-- The signs by which a text would get out of an attribute or of the content of an element. -/
def breakouts : Text := ['<', '>', '"', '\'']

theorem not_mem_escape_of_mem_breakouts {c : Char} (h : c ∈ breakouts) (t : Text) :
    c ∉ Entity.escape t := by
  simp only [breakouts, List.mem_cons, List.not_mem_nil, or_false] at h
  rcases h with rfl | rfl | rfl | rfl
  all_goals exact Entity.not_mem_escape rfl (by decide) t

/-- A reference whose token can be resolved is written as one link. No sign in its address or in its
content can end them; the address stands for the URL of the destination and the content for what a
reader is to see, whatever signs these have; and behind the address stands nothing, or the mark, or
a language of two letters. -/
theorem reference_contained {setup : Setup} {r : Reference} {resolution : Link.Resolution}
    (h : Link.resolve setup.files setup.site setup.page r.token = .ok resolution) (s : State) :
    ∃ href attributes content,
      (reference setup r s).1 = .ok ("<a href=\"".toList ++ href ++ "\"".toList ++ attributes ++
        ">".toList ++ content ++ "</a>".toList) ∧
      (∀ c ∈ breakouts, c ∉ href ∧ c ∉ content) ∧
      Entity.unescape href = .ok (destinationUrl setup resolution.destination) ∧
      Entity.unescape content = .ok (r.shown resolution.destination) ∧
      (attributes = [] ∨ attributes = " rel=\"nofollow\"".toList ∨
        ∃ lang, isLangCode lang = true ∧
          attributes = " lang=\"".toList ++ lang ++ "\"".toList) := by
  refine ⟨Entity.escape (destinationUrl setup resolution.destination),
    referenceAttributes setup s resolution.destination,
    Entity.escape (r.shown resolution.destination), reference_fst h s, ?_,
    Entity.unescape_escape _, Entity.unescape_escape _, referenceAttributes_cases h s⟩
  intro c hc
  exact ⟨not_mem_escape_of_mem_breakouts hc _, not_mem_escape_of_mem_breakouts hc _⟩

/-- A label of HTML, in a reference to a page in another language of a wiki whose page has no proper
language itself. -/
theorem reference_contained_lang :
    let setup : Setup := .bare ⟨"doc".toList, "\"><script>".toList, homepage⟩
    let r : Reference := ⟨"cs:intro".toList, some " </a> \"&lt;\" ".toList⟩
    let ref : PageRef := ⟨"doc".toList, "cs".toList, "intro".toList, none⟩
    Link.resolve setup.files setup.site setup.page r.token = .ok { destination := .page ref } ∧
      (reference setup r {}).1 = .ok ("<a href=\"/cs/intro\" lang=\"cs\">".toList ++
        "&lt;/a&gt; &quot;&amp;lt;&quot;</a>".toList) ∧
      ∃ href attributes content,
        (reference setup r {}).1 = .ok ("<a href=\"".toList ++ href ++ "\"".toList ++ attributes ++
          ">".toList ++ content ++ "</a>".toList) ∧
        (∀ c ∈ breakouts, c ∉ href ∧ c ∉ content) ∧
        Entity.unescape href = .ok (destinationUrl setup (.page ref)) ∧
        Entity.unescape content = .ok "</a> \"&lt;\"".toList ∧
        (attributes = [] ∨ attributes = " rel=\"nofollow\"".toList ∨
          ∃ lang, isLangCode lang = true ∧
            attributes = " lang=\"".toList ++ lang ++ "\"".toList) := by
  intro setup r ref
  have hresolve : Link.resolve setup.files setup.site setup.page r.token =
      .ok { destination := .page ref } := rfl
  have hshown : r.shown (.page ref) = "</a> \"&lt;\"".toList := rfl
  have hcontained := reference_contained hresolve {}
  rw [hshown] at hcontained
  exact ⟨hresolve, by decide, hcontained⟩

end Conversion
end WikiMarkup
