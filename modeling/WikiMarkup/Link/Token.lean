import WikiMarkup.Page.Basic
import WikiMarkup.Text.Digit

/-!
# Link tokens

A link token is what an author writes as the target of a link. It is external (an address of the
web or of mail), or names a section of the same page, or names a page of the wiki in the form
`book:lang:name#section`, where each part may be left out.
-/

namespace WikiMarkup
namespace Token

/-! ## External tokens -/

/-- The beginnings of an external token, in any case. -/
def externalStarts : List String := ["http:", "https:", "ftp:", "mailto:", "ftp.", "www."]

/-- Whether a token is external: it has one of the usual beginnings, or an `@` behind its first
character on its first line. -/
def isExternal (token : Text) : Bool :=
  ((Text.firstLine token).drop 1).contains '@' ||
    externalStarts.any fun start => (Text.dropPrefixAnyCase? start.toList token).isSome

/-! ## Page tokens -/

/-- The parts of a page token. A name or a section that is not given is empty. -/
structure Parts where
  book : Option Text := none
  lang : Option Text := none
  name : Text := []
  heading : Text := []
deriving DecidableEq, Repr

/-- The version of a book at the beginning of a text, such as `-2.0`. -/
def readVersion : Text → Option (Text × Text)
  | '-' :: major :: '.' :: minor :: rest =>
    if Digit.isDecimal major && Digit.isDecimal minor then some (['-', major, '.', minor], rest)
    else none
  | _ => none

/-- The book at the beginning of a token: three or more lower-case letters, perhaps a version, and a
colon. What follows the colon is left. -/
def readBook (token : Text) : Option (Text × Text) :=
  let letters := token.takeWhile Text.isLowerLetter
  let rest := token.dropWhile Text.isLowerLetter
  if letters.length < 3 then none
  else
    match rest with
    | ':' :: rest => some (letters, rest)
    | _ =>
      match readVersion rest with
      | some (version, ':' :: rest) => some (letters ++ version, rest)
      | _ => none

/-- Whether a language can end before a text: at a colon, a slash, a number sign, the end of the
token, or a line end that is the last character. -/
def endsLang : Text → Bool
  | [] => true
  | ['\n'] => true
  | c :: _ => c == ':' || c == '/' || c == '#'

/-- The language at the beginning of a token: perhaps a colon or a slash, and two lower-case
letters. -/
def readLang (token : Text) : Option (Text × Text) :=
  let body :=
    match token with
    | ':' :: rest => rest
    | '/' :: rest => rest
    | _ => token
  match body with
  | a :: b :: rest =>
    if Text.isLowerLetter a && Text.isLowerLetter b && endsLang rest then some ([a, b], rest)
    else none
  | _ => none

/-- The parts of a page token. A section that goes over a line end makes a token that names no
page. -/
def split (token : Text) : Option Parts :=
  let (book, rest) :=
    match readBook token with
    | some (book, rest) => (some book, rest)
    | none => (none, token)
  let (lang, rest) :=
    match readLang rest with
    | some (lang, rest) => (some lang, rest)
    | none => (none, rest)
  let heading := (Text.after? '#' rest).getD []
  if heading.contains '\n' then none
  else some { book, lang, name := Text.before '#' rest, heading }

/-! ## Page names -/

/-- A name with slashes for its colons, without slashes at its end; the first page's name if there is
nothing else in it. -/
def plainName (written : Text) : Text :=
  let name := Text.trimEnd (· == '/') (written.map fun c => if c == ':' then '/' else c)
  if name.isEmpty || Text.trimChar '/' (Text.lowerAscii name) == homepage then homepage else name

/-- The name of the page that a token on page `page` leads to. A name without book, language or
leading slash is relative to the directory of the current page. -/
def pageName (parts : Parts) (page : Page) : Text :=
  let name := plainName parts.name
  let directory := Text.directory page.name
  let isRelative := name.head? != some '/' && parts.book.isNone && parts.lang.isNone
  Text.trimChar '/' (if isRelative && 1 < directory.length then directory ++ name else name)

/-- A page token with its defaults filled in. -/
structure Target where
  book : Text
  lang : Text
  name : Text
  /-- The name exactly as it is written. -/
  writtenName : Text
  heading : Text
deriving DecidableEq, Repr

/-- The book of a token that names none: that of the current page, but a page about the wiki stands
for the main book. -/
def defaultBook (page : Page) : Text :=
  if page.book == "meta".toList then "www".toList else page.book

/-- Reads a page token as it is meant on a page. -/
def read (token : Text) (page : Page) : Option Target :=
  (split token).map fun parts =>
    { book := parts.book.getD (defaultBook page)
      lang := parts.lang.getD page.lang
      name := pageName parts page
      writtenName := parts.name
      heading := parts.heading }

end Token
end WikiMarkup
