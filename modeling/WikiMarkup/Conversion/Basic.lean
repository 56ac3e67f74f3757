import WikiMarkup.Code.Listing
import WikiMarkup.Link.Resolve
import WikiMarkup.Markdown.Document

/-!
# Conversions

The conversion of one page: what it is given, what it has collected at a moment, and the actions that
take it on. An action can fail; what was collected before stays collected.
-/

namespace WikiMarkup

/-- An entry of the table of contents: a heading with its level and its anchor. -/
structure Heading where
  level : Int
  title : Text
  id : Text
deriving DecidableEq, Repr

namespace Conversion

/-- What a conversion finds on the machine that it runs on: the files that there are, and other
programs for highlighting code, reading Markdown and writing the URLs of its links. -/
structure Host where
  files : FileSystem
  highlighter : Listing.Highlighter
  markdown : Markdown.Reader
  /-- A URL as it is written into an attribute, with a harmless one in the place of a harmful one. -/
  safeUrl : Text → Text

/-- What a conversion is given. -/
structure Setup extends Host where
  page : Page
  site : Site
  /-- The length of HTML above which a page gets a table of contents without asking for one. -/
  contentsThreshold : Int

/-- Which table of contents a page asks for. -/
inductive ContentsMode where
  /-- None asked for: the length of the page decides. -/
  | byLength
  /-- None wanted. -/
  | off
  /-- A table of contents, by the word that asked for it. -/
  | asked (mode : Text)
deriving DecidableEq, Repr

/-- What a conversion has collected. -/
structure State where
  title : Option Text := none
  mainTitle : Option Text := none
  theme : Option Text := none
  themeIcon : Option Text := none
  sidebar : Option Bool := none
  /-- The table of contents of the last page that was converted to its end. -/
  contents : List Heading := []
  contentsMode : ContentsMode := .byLength
  /-- Whether links that leave the wiki are marked so that search engines do not follow them. -/
  nofollow : Bool := false
  /-- The level of a heading of the first level. -/
  headingTop : Int := 1
  /-- The headings so far, in the order of the page. -/
  headings : List Heading := []
  /-- The anchors in use. -/
  anchors : List Text := []
  session : Session := {}
deriving DecidableEq, Repr

/-- A step of a conversion. It leaves a state, whether it succeeds or fails. -/
def Action (α : Type) : Type := State → Except Fault α × State

namespace Action

/-- Does nothing but give a result. -/
def give {α : Type} (a : α) : Action α := fun s => (.ok a, s)

/-- One action, and then the one that its result leads to; a failure ends both. -/
def andThen {α β : Type} (first : Action α) (next : α → Action β) : Action β := fun s =>
  match first s with
  | (.ok a, s) => next a s
  | (.error e, s) => (.error e, s)

instance : Monad Action where
  pure := give
  bind := andThen

/-- A result that does not depend on the state. -/
def ofExcept {α : Type} (r : Except Fault α) : Action α := fun s => (r, s)

/-- Looks at the state. -/
def look {α : Type} (f : State → α) : Action α := fun s => (.ok (f s), s)

/-- Changes the state. -/
def change (f : State → State) : Action Unit := fun s => (.ok (), f s)

/-- Changes the session. -/
def record (f : Session → Session) : Action Unit :=
  change fun s => { s with session := f s.session }

/-- Runs an action for each segment of a scanned text, in order, and puts the results in the places
of the segments. -/
def replacePieces {α : Type} (act : α → Action Text) : List (Piece α) → Action Text
  | [] => give []
  | .plain c :: pieces => (replacePieces act pieces).andThen fun rest => give (c :: rest)
  | .found a :: pieces =>
    (act a).andThen fun t => (replacePieces act pieces).andThen fun rest => give (t ++ rest)

end Action
end Conversion
end WikiMarkup
