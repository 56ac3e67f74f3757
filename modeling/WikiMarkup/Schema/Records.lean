import WikiMarkup.Conversion.Convert
import WikiMarkup.Page.Basic
import WikiMarkup.Schema.Reader

/-!
# Records

The records that the library exchanges with its clients: how each is read and written, with its
defaults and its bounds.
-/

namespace WikiMarkup

open Reader (Fields)

/-! ## Pages -/

/-- Reads a page. -/
def Page.ofFields (r : Fields) : Checked Page :=
  (((Checked.apply (.ok Page.mk) (r.read "book" Reader.text none)).apply
    (r.read "lang" Reader.text none))).apply (r.read "name" Reader.text (some homepage))

/-- Writes a page. -/
def Page.toValue (page : Page) : Value :=
  Value.ofFields [("book", .text page.book), ("lang", .text page.lang), ("name", .text page.name)]

/-- Reads the page that a link leads to. -/
def PageRef.ofFields (r : Fields) : Checked PageRef :=
  ((((Checked.apply (.ok PageRef.mk) (r.read "book" Reader.text none)).apply
    (r.read "lang" Reader.text none))).apply (r.read "name" Reader.text none)).apply
    (r.read "fragment" (Reader.optional Reader.text) (some none))

/-- Writes the page that a link leads to. -/
def PageRef.toValue (ref : PageRef) : Value :=
  Value.ofFields
    [("book", .text ref.book), ("lang", .text ref.lang), ("name", .text ref.name),
     ("fragment", Value.ofText? ref.fragment)]

/-- Reads a page that a link leads to, as a part of another record. -/
def PageRef.reader : Reader PageRef := Reader.record (.notRecord "PageReference") PageRef.ofFields

/-- Writes pages that links lead to. -/
def PageRef.toValues (refs : List PageRef) : Value := .list (refs.map PageRef.toValue)

/-- Reads where the parts of the wiki are. -/
def Site.ofFields (r : Fields) : Checked Site :=
  let path (name : String) := r.read name Reader.text (some [])
  ((((((Checked.apply (.ok Site.mk) (path "media_path")).apply (path "file_media_path")).apply
    (path "api_url")).apply (path "download_dir")).apply (path "domain")).apply
    (path "profile_url"))

/-- Writes where the parts of the wiki are. -/
def Site.toValue (site : Site) : Value :=
  Value.ofFields
    [("media_path", .text site.mediaUrl), ("file_media_path", .text site.mediaDirectory),
     ("api_url", .text site.apiUrl), ("download_dir", .text site.downloadUrl),
     ("domain", .text site.domain), ("profile_url", .text site.profileUrl)]

/-! ## Conversions -/

/-- Reads a session. -/
def Session.ofFields (r : Fields) : Checked Session :=
  ((((Checked.apply (.ok Session.mk) (r.read "errors" (Reader.list Reader.text) (some []))).apply
    (r.read "links" (Reader.list PageRef.reader) (some [])))).apply
    (r.read "langs" (Reader.list PageRef.reader) (some []))).apply
    (r.read "tags" (Reader.list Reader.text) (some []))

/-- Writes a session. -/
def Session.toValue (session : Session) : Value :=
  Value.ofFields
    [("errors", Value.ofTexts session.errors), ("links", PageRef.toValues session.links),
     ("langs", PageRef.toValues session.langs), ("tags", Value.ofTexts session.tags)]

/-- Reads an entry of a table of contents. -/
def Heading.ofFields (r : Fields) : Checked Heading :=
  ((Checked.apply (.ok Heading.mk) (r.read "level" Reader.integer none)).apply
    (r.read "title" Reader.text none)).apply (r.read "id" Reader.text none)

/-- Writes an entry of a table of contents. -/
def Heading.toValue (heading : Heading) : Value :=
  Value.ofFields
    [("level", .int heading.level), ("title", .text heading.title), ("id", .text heading.id)]

/-- Reads an entry of a table of contents, as a part of another record. -/
def Heading.reader : Reader Heading := Reader.record (.notRecord "TocItem") Heading.ofFields

/-- Writes a table of contents. -/
def Heading.toValues (headings : List Heading) : Value := .list (headings.map Heading.toValue)

/-- Reads the report of a conversion. -/
def Report.ofFields (r : Fields) : Checked Report :=
  let words (name : String) := r.read name (Reader.optional Reader.text) (some none)
  let refs (name : String) := r.read name (Reader.list PageRef.reader) (some [])
  let texts (name : String) := r.read name (Reader.list Reader.text) (some [])
  (((((((((((Checked.apply (.ok Report.mk) (r.read "html" Reader.text none)).apply
    (words "title")).apply (words "main_title")).apply (words "theme")).apply
    (words "theme_icon")).apply
    (r.read "sidebar" (Reader.optional Reader.truth) (some none))).apply
    (r.read "toc" (Reader.list Heading.reader) (some []))).apply
    (refs "links")).apply (refs "langs")).apply (texts "tags")).apply (texts "errors"))

/-- Writes the report of a conversion. -/
def Report.toValue (report : Report) : Value :=
  Value.ofFields
    [("html", .text report.html), ("title", Value.ofText? report.title),
     ("main_title", Value.ofText? report.mainTitle), ("theme", Value.ofText? report.theme),
     ("theme_icon", Value.ofText? report.themeIcon), ("sidebar", Value.ofBool? report.sidebar),
     ("toc", Heading.toValues report.contents), ("links", PageRef.toValues report.links),
     ("langs", PageRef.toValues report.langs), ("tags", Value.ofTexts report.tags),
     ("errors", Value.ofTexts report.errors)]

/-! ## Requests and answers -/

/-- The bounds on the name of a book: the form alone. -/
def bookForm : (Text → Bool) × String :=
  (isBookName, "^[a-z]\x7b3,\x7d(?:-\\d\\.\\d)?$")

/-- The bounds on the code of a language. -/
def langBounds : Reader.Bounds := { form := some (isLangCode, "^[a-z]\x7b2\x7d$") }

/-- The bounds on the name of a page. -/
def nameBounds : Reader.Bounds := { most := some 512 }

/-- A page that is to be converted. -/
structure ConvertRequest where
  content : Text := []
  book : Text
  lang : Text
  name : Text := homepage
deriving DecidableEq, Repr

/-- Reads a request to convert a page. -/
def ConvertRequest.ofFields (r : Fields) : Checked ConvertRequest :=
  let name : Reader Text := fun place value =>
    (Reader.textWithin nameBounds place value).map cleanName
  (((Checked.apply (.ok ConvertRequest.mk)
    (r.read "content" (Reader.textWithin { most := some 10000000 }) (some []))).apply
    (r.read "book" (Reader.textWithin { least := 3, most := some 64, form := some bookForm })
      none)).apply
    (r.read "lang" (Reader.textWithin langBounds) none)).apply
    (r.read "name" name (some homepage))

/-- Writes a request to convert a page. -/
def ConvertRequest.toValue (request : ConvertRequest) : Value :=
  Value.ofFields
    [("content", .text request.content), ("book", .text request.book),
     ("lang", .text request.lang), ("name", .text request.name)]

/-- The answer to the question where a link leads. -/
structure LinkAnswer where
  url : Text
  page : Option PageRef := none
  errors : List Text := []
deriving DecidableEq, Repr

/-- Reads where a link leads. -/
def LinkAnswer.ofFields (r : Fields) : Checked LinkAnswer :=
  ((Checked.apply (.ok LinkAnswer.mk) (r.read "url" Reader.text none)).apply
    (r.read "page" (Reader.optional PageRef.reader) (some none))).apply
    (r.read "errors" (Reader.list Reader.text) (some []))

/-- Writes where a link leads. -/
def LinkAnswer.toValue (answer : LinkAnswer) : Value :=
  Value.ofFields
    [("url", .text answer.url),
     ("page", match answer.page with
        | some ref => ref.toValue
        | none => .null),
     ("errors", Value.ofTexts answer.errors)]

/-! ## Kinds of records -/

/-- The kinds of records. -/
inductive RecordKind where
  | page
  | pageRef
  | externalUrl
  | site
  | session
  | heading
  | report
  | convertRequest
  | linkAnswer
deriving DecidableEq, Repr

namespace RecordKind

/-- The names of the kinds. -/
def names : List (String × RecordKind) :=
  [("PageContext", .page), ("PageReference", .pageRef), ("ExternalUrl", .externalUrl),
   ("PathConfig", .site), ("ConversionSession", .session), ("TocItem", .heading),
   ("ConversionResult", .report), ("ConvertRequest", .convertRequest),
   ("ResolveResponse", .linkAnswer)]

/-- The kind of a name. -/
def ofName? (name : Text) : Option RecordKind :=
  (names.find? fun entry => entry.1.toList == name).map (·.2)

/-- Whether the fields of a record of a kind cannot be changed. -/
def isFrozen : RecordKind → Bool
  | page | pageRef | externalUrl | site => true
  | _ => false

/-- Reads a record of a kind and writes it with its defaults filled in. -/
def complete (kind : RecordKind) (fields : List (Text × Value)) : Checked Value :=
  let r : Fields := ⟨[], fields⟩
  match kind with
  | page => (Page.ofFields r).map Page.toValue
  | pageRef => (PageRef.ofFields r).map PageRef.toValue
  | externalUrl =>
    (r.read "url" Reader.text none).map fun url => Value.ofFields [("url", .text url)]
  | site => (Site.ofFields r).map Site.toValue
  | session => (Session.ofFields r).map Session.toValue
  | heading => (Heading.ofFields r).map Heading.toValue
  | report => (Report.ofFields r).map Report.toValue
  | convertRequest => (ConvertRequest.ofFields r).map ConvertRequest.toValue
  | linkAnswer => (LinkAnswer.ofFields r).map LinkAnswer.toValue

/-- The name of a kind. -/
def name (kind : RecordKind) : Text :=
  ((names.find? fun entry => entry.2 == kind).map fun entry => entry.1.toList).getD []

end RecordKind

/-- Why a record is not as it was meant to be. -/
inductive RecordFault where
  | issues (issues : List Issue)
  /-- A change of a field that records of a kind do not have. -/
  | noField (kind : RecordKind) (field : Text)
deriving Repr

namespace RecordFault

/-- The wording of a fault that is no list of issues. -/
def message : RecordFault → Text
  | issues _ => []
  | noField kind field =>
    '"' :: kind.name ++ "\" object has no field \"".toList ++ field ++ ['"']

end RecordFault

namespace RecordKind

/-- Changes fields of a record of a kind, one after the other. A change is not checked, but a frozen
record refuses it, and any other one refuses a field that it does not have. A name that begins with an
underscore is none of a field: nothing that is written changes. -/
def assign (kind : RecordKind) (changes : List (Text × Value)) (record : Value) :
    Except RecordFault Value :=
  match changes with
  | [] => .ok record
  | (field, value) :: changes =>
    if field.head? == some '_' then assign kind changes record
    else if kind.isFrozen then .error (.issues [⟨.frozen, [.field field], value⟩])
    else if record.hasField field then assign kind changes (record.setField field value)
    else .error (.noField kind field)

/-- Reads a record of a kind, changes fields of it and writes it. -/
def revise (kind : RecordKind) (fields changes : List (Text × Value)) : Except RecordFault Value :=
  match kind.complete fields with
  | .ok record => kind.assign changes record
  | .error issues => .error (.issues issues)

end RecordKind
end WikiMarkup
