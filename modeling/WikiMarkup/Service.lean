import WikiMarkup.Settings

/-!
# The service

Two endpoints and a health check. `POST /api/v1/convert` converts a page; `GET /api/v1/resolve` tells
where a link leads from a page. A request that is not understood is answered with all its issues; a
fault on the way is an internal error.
-/

namespace WikiMarkup
namespace Service

/-- A request: its method, its path, the parameters of its query, and its body, if it has one. -/
structure Request where
  method : Text
  path : Text
  query : List (Text × Text) := []
  body : Option Value := none
deriving Repr

/-- An answer: its status, its body, and the fault that led to it, if one did. -/
structure Response where
  status : Nat
  body : Value
  fault : Option Fault := none
deriving Repr

/-! ## Answers -/

/-- An answer that says in words what is the matter. -/
def detail (status : Nat) (words : String) : Response :=
  ⟨status, Value.ofFields [("detail", .text words.toList)], none⟩

/-- The answer to a request with issues. -/
def unprocessable (issues : List Issue) : Response :=
  ⟨422, Value.ofFields [("detail", .list (issues.map Issue.toValue))], none⟩

/-- The answer when a fault came up. -/
def failed (fault : Fault) : Response :=
  { detail 500 "Internal server error" with fault := some fault }

/-! ## Endpoints -/

/-- Reports that the service is well. -/
def health : Response :=
  let settings : Settings := {}
  ⟨200, Value.ofFields
    [("status", .text "ok".toList), ("version", .text settings.appVersion),
     ("app", .text settings.appName)], none⟩

/-- What a conversion of a page is given by the settings. -/
def setup (settings : Settings) (host : Conversion.Host) (page : Page) : Conversion.Setup :=
  ⟨host, page, settings.site, settings.contentsThreshold⟩

/-- Reads the body of a request to convert a page. -/
def readBody (body : Option Value) : Checked ConvertRequest :=
  let place : List Step := [.field "body".toList]
  match body with
  | none => Reader.refuse .missing place .null
  | some value => Reader.record .notBody ConvertRequest.ofFields place value

/-- Converts the page of a request. -/
def convert (settings : Settings) (host : Conversion.Host) (body : Option Value) : Response :=
  match readBody body with
  | .error issues => unprocessable issues
  | .ok request =>
    let page : Page := ⟨request.book, request.lang, request.name⟩
    match (Conversion.convert (setup settings host page) request.content {}).1 with
    | .ok report => ⟨200, report.toValue, none⟩
    | .error fault => failed fault

/-- A link that is looked up, and the page that it is on. -/
structure LinkQuery where
  link : Text
  page : Page
deriving DecidableEq, Repr

/-- Reads a parameter of a query; of several with one name the last counts. -/
def readParameter (query : List (Text × Text)) (name : String) (bounds : Reader.Bounds)
    (default : Option Text) : Checked Text :=
  let place : List Step := [.field "query".toList, .field name.toList]
  match query.reverse.lookup name.toList, default with
  | some t, _ => Reader.textWithin bounds place (.text t)
  | none, some default => .ok default
  | none, none => Reader.refuse .missing place .null

/-- Reads the query for a link. -/
def readQuery (query : List (Text × Text)) : Checked LinkQuery :=
  let make (link book lang name : Text) : LinkQuery := ⟨link, ⟨book, lang, cleanName name⟩⟩
  (((Checked.apply (.ok make)
    (readParameter query "link" { most := some 2048 } none)).apply
    (readParameter query "book" { form := some bookForm } none)).apply
    (readParameter query "lang" langBounds none)).apply
    (readParameter query "name" nameBounds (some homepage))

/-- Where a link leads from a page. -/
def lookUp (settings : Settings) (host : Conversion.Host) (q : LinkQuery) :
    Except Fault LinkAnswer := do
  let r ← Link.resolve host.files settings.site q.page q.link
  let errors := r.problem.toList
  match r.destination with
  | .url url => return { url, errors }
  | .page ref =>
    return { url := Address.ofPage ref q.page settings.site, page := some ref, errors }

/-- Looks up the link of a query. -/
def resolve (settings : Settings) (host : Conversion.Host) (query : List (Text × Text)) : Response :=
  match readQuery query with
  | .error issues => unprocessable issues
  | .ok q =>
    match lookUp settings host q with
    | .ok answer => ⟨200, answer.toValue, none⟩
    | .error fault => failed fault

/-! ## Routes -/

/-- What a path leads to. -/
inductive Route where
  | health
  | convert
  | resolve
deriving DecidableEq, Repr

/-- The paths of the service. -/
def paths : List (String × Route) :=
  [("/api/v1/convert", .convert), ("/api/v1/resolve", .resolve), ("/api/health", .health)]

/-- The route of a path. -/
def route? (path : Text) : Option Route :=
  (paths.find? fun entry => entry.1.toList == path).map (·.2)

/-- The method of a route. -/
def Route.method : Route → Text
  | .convert => "POST".toList
  | _ => "GET".toList

/-- Answers a request. A path with slashes behind it is redirected to the path without. -/
def handle (settings : Settings) (host : Conversion.Host) (request : Request) : Response :=
  match route? request.path with
  | some route =>
    if request.method == route.method then
      match route with
      | .health => health
      | .convert => convert settings host request.body
      | .resolve => resolve settings host request.query
    else detail 405 "Method Not Allowed"
  | none =>
    let plain := Text.trimEnd (· == '/') request.path
    if request.path.getLast? == some '/' && (route? plain).isSome then ⟨307, .null, none⟩
    else detail 404 "Not found"

end Service
end WikiMarkup
