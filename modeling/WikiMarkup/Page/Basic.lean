import WikiMarkup.Text.Digit
import WikiMarkup.Text.Slug

/-!
# Pages

A page of the wiki belongs to a book, is written in a language and has a name, a path within the
book. A link leads to a page, perhaps to a section of it, or to a final URL.

Every book has a subdomain of its own, the main book the bare domain; a book with a version is a
directory of the book without. A link within a book leaves the host out.
-/

namespace WikiMarkup

/-- The name of a book's first page. -/
def homepage : Text := "homepage".toList

/-- The page that is being converted: the base of its links. -/
structure Page where
  book : Text
  lang : Text
  name : Text := homepage
deriving DecidableEq, Repr

/-- A page that a link leads to, and the anchor on it, if the link names a section. -/
structure PageRef where
  book : Text
  lang : Text
  name : Text
  fragment : Option Text := none
deriving DecidableEq, Repr

/-- Where a link leads. -/
inductive Destination where
  /-- A URL that is used as it is. -/
  | url (url : Text)
  /-- A page of the wiki. -/
  | page (page : PageRef)
deriving DecidableEq, Repr

/-- Where the parts of the wiki are to be found. -/
structure Site where
  /-- The URL below which attachments are served. -/
  mediaUrl : Text := []
  /-- The directory in which attachments are stored. -/
  mediaDirectory : Text := []
  /-- The URL of the API reference. -/
  apiUrl : Text := []
  /-- The URL below which downloads are served. -/
  downloadUrl : Text := []
  /-- The domain whose subdomains are the books. -/
  domain : Text := []
  /-- The beginning of the URL of a user's profile. -/
  profileUrl : Text := []
deriving DecidableEq, Repr

/-- What a page has been found to declare and to link to, each list in the order of discovery. -/
structure Session where
  errors : List Text := []
  links : List PageRef := []
  langs : List PageRef := []
  tags : List Text := []
deriving DecidableEq, Repr

/-! ## Names of books, languages and pages -/

/-- Whether a text is the name of a book: three or more lower-case letters, and perhaps a version such
as `-2.0`. -/
def isBookName (t : Text) : Bool :=
  3 ≤ (t.takeWhile Text.isLowerLetter).length &&
    match t.dropWhile Text.isLowerLetter with
    | [] => true
    | ['-', major, '.', minor] => Digit.isNewestDecimal major && Digit.isNewestDecimal minor
    | _ => false

/-- Whether a text is the code of a language: two lower-case letters. -/
def isLangCode (t : Text) : Bool := t.length == 2 && t.all Text.isLowerLetter

/-- The name of a page as it is meant: without slashes around it, or the first page's name. -/
def cleanName (name : Text) : Text :=
  match Text.trimChar '/' name with
  | [] => homepage
  | name => name

/-! ## Addresses -/

namespace Address

/-- The name of a book without its version. -/
def baseBook (book : Text) : Text := Text.before '-' book

/-- The host of a book. -/
def bookHost (book domain : Text) : Text :=
  let base := baseBook book
  "http://".toList ++ (if base == "www".toList then [] else base ++ ['.']) ++ domain

/-- The URL of a page as it is linked from page `page`. -/
def ofPage (ref : PageRef) (page : Page) (site : Site) : Text :=
  let host := if ref.book == page.book then [] else bookHost ref.book site.domain
  let version :=
    match Text.after? '-' ref.book with
    | some version => version ++ ['/']
    | none => []
  let name := Slug.ofPath ref.name
  let fragment :=
    match ref.fragment with
    | some (c :: rest) => '#' :: c :: rest
    | _ => []
  host ++ '/' :: ref.lang ++ '/' :: version ++ (if name == homepage then [] else name) ++ fragment

/-- A page as it is recorded in an index of links: under its slug, without the section. -/
def indexEntry (ref : PageRef) : PageRef :=
  { ref with name := Slug.ofPath ref.name, fragment := none }

end Address

end WikiMarkup
