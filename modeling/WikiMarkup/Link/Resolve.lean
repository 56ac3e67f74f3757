import WikiMarkup.Link.Token
import WikiMarkup.Page.Files
import WikiMarkup.Text.Percent
import WikiMarkup.Text.Scan
import WikiMarkup.Text.Slug

/-!
# Resolving links

Where a link token leads, seen from a page. External tokens and tokens that name no page are final as
they are; a section is an anchor on the same page; every other token leads to a page of the wiki. But
some books are no books: a token with their name leads to a file, to a reference manual or to a user,
by a URL made from its name.
-/

namespace WikiMarkup

/-! ## Namespaces -/

/-- What a book's name stands for. -/
inductive Namespace where
  | download
  | attachment
  | api
  | user
  | php
  /-- A book of the wiki. -/
  | ordinary
deriving DecidableEq, Repr

namespace Namespace

/-- The names of the special namespaces. -/
def named : List (String × Namespace) :=
  [("download", .download), ("attachment", .attachment), ("api", .api), ("user", .user),
   ("php", .php)]

/-- What a book's name stands for. -/
def ofBook (book : Text) : Namespace :=
  match named.find? fun entry => entry.1.toList == book with
  | some (_, kind) => kind
  | none => .ordinary

end Namespace

/-! ## Anchors -/

namespace Anchor

/-- The beginning of every anchor. -/
def mark : Text := "toc-".toList

/-- The anchor of a section. The name of a section may be written as an anchor already. -/
def ofSection (name : Text) : Text :=
  mark ++ Slug.ofHeading ((Text.dropPrefix? mark name).getD name)

/-- The anchor that a link to a section of the same page leads to. It is made of the whole link, with
its number sign, which is no part of a slug. -/
def ofLink (link : Text) : Text :=
  mark ++ Slug.ofHeading ((Text.dropPrefix? ('#' :: mark) link).getD link)

end Anchor

/-! ## Resolving -/

namespace Link

/-- Where a token leads, and the problem that was found on the way, if there is one. -/
structure Resolution where
  destination : Destination
  problem : Option Text := none
deriving DecidableEq, Repr

/-- The whole number at the beginning of a text, behind white space and perhaps a sign; zero if there
is none. -/
def leadingNumber (t : Text) : Except Fault Int :=
  let body := t.dropWhile Text.isBlank
  let (negative, body) :=
    match body with
    | '-' :: rest => (true, rest)
    | '+' :: rest => (false, rest)
    | _ => (false, body)
  let digits := body.takeWhile Digit.isDecimal
  if Fault.digitLimit < digits.length then .error (.numberTooLong digits.length)
  else
    let n : Int := Digit.number digits
    .ok (if negative then -n else n)

/-- The page of the API reference for a name: a class, a property or constant of a class behind `::`,
or a method if the name has `()`. -/
def apiPage (name : Text) : Text :=
  let path := name.map fun c => if c == '\\' then '.' else c
  let colons := "::".toList
  if Text.hasPart "()".toList path then
    Text.replaceAll colons ".html#_".toList (Text.replaceAll "()".toList [] path)
  else if Text.hasPart colons path then Text.replaceAll colons ".html#".toList path
  else path ++ ".html".toList

/-- Where a page token leads that has its defaults filled in. -/
def resolveTarget (files : FileSystem) (site : Site) (page : Page) (target : Token.Target) :
    Except Fault Resolution :=
  match Namespace.ofBook target.book with
  | .download => .ok { destination := .url (site.downloadUrl ++ '/' :: target.name) }
  | .attachment => do
    let found ← files.isFile (attachmentPath site page.book target.name)
    return { destination := .url (site.mediaUrl ++ '/' :: page.book ++ '/' :: target.name)
             problem := if found then none else some ("Missing file ".toList ++ target.name) }
  | .api => .ok { destination := .url (site.apiUrl ++ '/' :: apiPage target.writtenName) }
  | .user => do
    let number ← leadingNumber target.writtenName
    return { destination := .url (site.profileUrl ++ Digit.writeInt number) }
  | .php =>
    let manual := "http://php.net/".toList ++ Percent.encodeWord target.writtenName
    .ok { destination :=
            .url (if target.heading.isEmpty then manual else manual ++ '#' :: target.heading) }
  | .ordinary =>
    .ok { destination := .page
            { book := target.book
              lang := target.lang
              name := target.name
              fragment :=
                if target.heading.isEmpty then none else some (Anchor.ofSection target.heading) } }

/-- Where a link token leads, seen from `page`. -/
def resolve (files : FileSystem) (site : Site) (page : Page) (token : Text) :
    Except Fault Resolution :=
  if Token.isExternal token then .ok { destination := .url token }
  else
    match token with
    | '#' :: _ => .ok { destination := .url ('#' :: Anchor.ofLink token) }
    | _ =>
      match Token.read token page with
      | none => .ok { destination := .url token }
      | some target => resolveTarget files site page target

/-- Records the problem of a resolution, if it has one. -/
def Resolution.record (r : Resolution) (session : Session) : Session :=
  { session with errors := session.errors ++ r.problem.toList }

end Link
end WikiMarkup
