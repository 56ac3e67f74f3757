import WikiMarkup.Proofs.Conversion.Reference
import WikiMarkup.Proofs.Schema.Request
import WikiMarkup.Service

/-!
# Looking a link up

A link that is looked up is answered as the conversion of its page would resolve it. The two read
the page in different ways, one from the parameters of a query and one from the fields of a record,
but a page that a request for a conversion can name is named by a query just as well.
-/

namespace WikiMarkup
namespace Service

open Conversion Text

/-! ## Queries -/

/-- A parameter is read if its value is within the bounds, or if it is not there and has a
default. -/
theorem readParameter_eq_ok {query : List (Text × Text)} {name : String} {bounds : Reader.Bounds}
    {default : Option Text} {t : Text} : readParameter query name bounds default = .ok t ↔
      (query.reverse.lookup name.toList = some t ∧ bounds.Admits t) ∨
      (query.reverse.lookup name.toList = none ∧ default = some t) := by
  unfold readParameter
  dsimp only
  split
  · rename_i u _ hvalue
    rw [Reader.textWithin_eq_ok, hvalue, Value.text.injEq]
    constructor
    · rintro ⟨rfl, hadmits⟩
      exact Or.inl ⟨rfl, hadmits⟩
    · rintro (⟨heq, hadmits⟩ | ⟨hnone, -⟩)
      · exact ⟨Option.some.inj heq, hadmits⟩
      · cases hnone
  · rename_i u hnone
    simp [hnone]
  · rename_i hnone
    simp [hnone, Reader.refuse]

/-- Whether the parameters of a query name the same page as the fields of a request: each part of
the page is the same text in both, or is left out in both. -/
def NamesPage (query : List (Text × Text)) (fields : List (Text × Value)) : Prop :=
  ∀ name ∈ ["book", "lang", "name"],
    fields.lookup name.toList = (query.reverse.lookup name.toList).map .text

/-- What a request for a conversion holds as a text, a query that names the same page holds too. -/
theorem NamesPage.lookup {query : List (Text × Text)} {fields : List (Text × Value)} {name : String}
    (h : NamesPage query fields) (hname : name ∈ ["book", "lang", "name"]) :
    (∀ t, fields.lookup name.toList = some (.text t) →
        query.reverse.lookup name.toList = some t) ∧
      (fields.lookup name.toList = none → query.reverse.lookup name.toList = none) := by
  rw [h name hname]
  constructor
  · intro t ht
    obtain ⟨u, hu, heq⟩ := Option.map_eq_some_iff.mp ht
    rw [hu, Value.text.inj heq]
  · exact Option.map_eq_none_iff.mp

/-- The bounds on the name of a book are wider in a query than in a request for a conversion. -/
theorem admits_of_admits_book {least : Nat} {most : Option Nat} {book : Text}
    (h : Reader.Bounds.Admits { least, most, form := some bookForm } book) :
    Reader.Bounds.Admits { form := some bookForm } book where
  most _ hmost := by cases hmost
  least := Nat.zero_le _
  form := h.form

/-- A query is read that names the page of a request for a conversion, and a link that is not too
long. -/
theorem readQuery_of_readBody {query : List (Text × Text)} {fields : List (Text × Value)}
    {request : ConvertRequest} {link : Text} (hpage : NamesPage query fields)
    (hrequest : readBody (some (.record fields)) = .ok request)
    (hlink : query.reverse.lookup "link".toList = some link) (hlength : link.length ≤ 2048) :
    readQuery query = .ok ⟨link, request.page⟩ := by
  simp only [readBody, Reader.record, ConvertRequest.ofFields, Checked.apply_eq_ok] at hrequest
  obtain ⟨_, name, ⟨_, lang, ⟨_, book, ⟨_, content, hmk, hcontent, rfl⟩, hbook, rfl⟩, hlang, rfl⟩,
    hname, rfl⟩ := hrequest
  cases hmk
  obtain ⟨hbookValue, hbookBounds⟩ := Reader.Fields.read_textWithin_eq_ok.mp hbook
  obtain ⟨hlangValue, hlangBounds⟩ := Reader.Fields.read_textWithin_eq_ok.mp hlang
  have hbook' := (hpage.lookup (by simp)).1 book hbookValue
  have hlang' := (hpage.lookup (by simp)).1 lang hlangValue
  -- the name is written in any form, or left out
  obtain ⟨written, hwritten, rfl⟩ : ∃ written,
      readParameter query "name" nameBounds (some homepage) = .ok written ∧
        cleanName written = name := by
    rcases Reader.Fields.read_eq_ok.mp hname with ⟨value, hvalue, hread⟩ | ⟨hnone, hdefault⟩
    · obtain ⟨written, htext, hclean⟩ := Checked.map_eq_ok.mp hread
      obtain ⟨rfl, hadmits⟩ := Reader.textWithin_eq_ok.mp htext
      have hname' := (hpage.lookup (by simp)).1 written hvalue
      exact ⟨written, readParameter_eq_ok.mpr (Or.inl ⟨hname', hadmits⟩), hclean⟩
    · have hname' := (hpage.lookup (by simp)).2 hnone
      cases hdefault
      exact ⟨homepage, readParameter_eq_ok.mpr (Or.inr ⟨hname', rfl⟩), rfl⟩
  simp only [readQuery, Checked.apply_eq_ok]
  refine ⟨_, written, ⟨_, lang, ⟨_, book, ⟨_, link, rfl, ?_, rfl⟩, ?_, rfl⟩, ?_, rfl⟩, hwritten, rfl⟩
  case refine_1 =>
    exact readParameter_eq_ok.mpr (Or.inl ⟨hlink, Reader.Bounds.Admits.of_length hlength⟩)
  case refine_2 =>
    exact readParameter_eq_ok.mpr (Or.inl ⟨hbook', admits_of_admits_book hbookBounds⟩)
  case refine_3 => exact readParameter_eq_ok.mpr (Or.inl ⟨hlang', hlangBounds⟩)

/-! ## Answers -/

/-- Whether an answer tells what became of a link in a conversion: the URL that it got, with the
errors and the page, if there is one, that the conversion recorded; or the fault that broke it
off. -/
def Tells (response : Response) : Except Fault (Text × Bool) × State → Prop
  | (.ok (url, _), s) => ∃ page : Option PageRef,
      response = ⟨200, LinkAnswer.toValue { url, page, errors := s.session.errors }, none⟩ ∧
        s.session.links = page.toList.map Address.indexEntry
  | (.error fault, _) => response = failed fault

/-- The answer to a query tells where its link leads in a new conversion. -/
theorem tells_lead {query : List (Text × Text)} {q : LinkQuery} (h : readQuery query = .ok q)
    (settings : Settings) (host : Conversion.Host) :
    Tells (resolve settings host query) (lead (setup settings host q.page) q.link {}) := by
  have hok : ∀ {answer}, lookUp settings host q = .ok answer →
      resolve settings host query = ⟨200, answer.toValue, none⟩ := by
    intro answer hanswer
    simp only [resolve, h, hanswer]
  have herror : ∀ {fault}, lookUp settings host q = .error fault →
      resolve settings host query = failed fault := by
    intro fault hfault
    simp only [resolve, h, hfault]
  show Tells _ ((Conversion.resolve (setup settings host q.page) q.link).andThen _ {})
  cases hresolve : Link.resolve host.files settings.site q.page q.link with
  | error fault =>
    have hlookUp : lookUp settings host q = .error fault := by
      rw [lookUp, hresolve]
      rfl
    rw [resolve_andThen_of_error hresolve, herror hlookUp]
    rfl
  | ok r =>
    rw [resolve_andThen_of_ok hresolve]
    obtain ⟨destination, problem⟩ := r
    cases destination with
    | url url =>
      have hlookUp : lookUp settings host q = .ok { url, errors := problem.toList } := by
        rw [lookUp, hresolve]
        rfl
      exact ⟨none, hok hlookUp, rfl⟩
    | page ref =>
      have hlookUp : lookUp settings host q =
          .ok { url := Address.ofPage ref q.page settings.site, page := some ref,
                errors := problem.toList } := by
        rw [lookUp, hresolve]
        rfl
      exact ⟨some ref, hok hlookUp, rfl⟩

/-- A link that is looked up leads where a new conversion of the same page takes it, with the same
errors, and the answer names a page exactly if the conversion records one, namely that page. This
holds for every page that a request for a conversion can name, and for a link without percent signs
that does not take its name from its text. -/
theorem handle_lookUp (settings : Settings) (host : Conversion.Host) {query : List (Text × Text)}
    {fields : List (Text × Value)} {request : ConvertRequest} {link : Text}
    (hpage : NamesPage query fields) (hrequest : readBody (some (.record fields)) = .ok request)
    (hlink : query.reverse.lookup "link".toList = some link) (hlength : link.length ≤ 2048)
    (hpercent : '%' ∉ link) (hbook : trimEnd (· == ':') link ∉ textBooks) (text : Text) :
    Tells
      (handle settings host { method := "GET".toList, path := "/api/v1/resolve".toList, query })
      (linkUrl (setup settings host request.page) link text {}) := by
  rw [linkUrl_eq_lead _ hpercent hbook]
  exact tells_lead (readQuery_of_readBody hpage hrequest hlink hlength) settings host

/-- A page whose name is written with slashes around it and looked up with them. -/
theorem handle_lookUp_slashes :
    let query : List (Text × Text) := [("link".toList, "Rules#own".toList),
      ("book".toList, "doc".toList), ("lang".toList, "en".toList),
      ("name".toList, "/forms/intro/".toList)]
    let page : Page := ⟨"doc".toList, "en".toList, "forms/intro".toList⟩
    Tells (handle {} .bare
        { method := "GET".toList, path := "/api/v1/resolve".toList, query })
      (linkUrl (setup {} .bare page) "Rules#own".toList [] {}) := by
  intro query page
  let fields : List (Text × Value) := [("content".toList, .text "A page".toList),
    ("book".toList, .text "doc".toList), ("lang".toList, .text "en".toList),
    ("name".toList, .text "/forms/intro/".toList)]
  let request : ConvertRequest :=
    ⟨"A page".toList, "doc".toList, "en".toList, "forms/intro".toList⟩
  have hpage : NamesPage query fields := by
    intro name hname
    simp only [List.mem_cons, List.not_mem_nil, or_false] at hname
    rcases hname with rfl | rfl | rfl <;> rfl
  have hrequest : readBody (some (.record fields)) = .ok request := rfl
  exact handle_lookUp {} .bare hpage hrequest rfl (by decide) (by decide)
    (by decide) []

end Service
end WikiMarkup
