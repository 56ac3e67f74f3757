import WikiMarkup.Conversion.Basic
import WikiMarkup.Page.Basic
import WikiMarkup.Text.Entity

/-!
# Links of a page

How a conversion resolves link tokens, and the URLs of the links and images that it finds. Every page
that is linked to is recorded.
-/

namespace WikiMarkup
namespace Conversion

/-- Resolves a link token as it is meant on the page; a problem is recorded. -/
def resolve (setup : Setup) (token : Text) : Action Destination := do
  let r ← Action.ofExcept (Link.resolve setup.files setup.site setup.page token)
  Action.record r.record
  return r.destination

/-- The URL of a page; the page is recorded among the links. -/
def pageUrl (setup : Setup) (ref : PageRef) : Action Text := do
  Action.record fun session =>
    { session with links := session.links ++ [Address.indexEntry ref] }
  return Address.ofPage ref setup.page setup.site

/-- The books that take the text of a link as the name they look up. -/
def textBooks : List Text := ["api".toList, "php".toList]

/-- The token that a link destination stands for: the destination itself, percent-decoded, or the
text of the link in the book that the destination names. -/
def linkToken (link text : Text) : Except Fault Text := do
  let token := Percent.decode link
  let book := Text.trimEnd (· == ':') token
  if textBooks.contains book then
    return book ++ ':' :: (← Entity.unescape (Tag.strip text))
  else return token

/-- The URL to write for a destination that resolved to `url`: a destination that stands for itself
keeps the spelling that the author gave it. -/
def finalUrl (url token link : Text) : Text := if url == token then link else url

/-- Whether a link to `url` is to be marked: it names a host, and the page asked for the mark. -/
def isMarked (s : State) (url : Text) : Bool := s.nofollow && Text.hasPart "//".toList url

/-- The URL of a link with a destination and a text, and whether the link is marked. -/
def linkUrl (setup : Setup) (link text : Text) : Action (Text × Bool) := do
  let token ← Action.ofExcept (linkToken link text)
  match ← resolve setup token with
  | .page ref => return (← pageUrl setup ref, false)
  | .url url => return (finalUrl url token link, ← Action.look (isMarked · url))

/-- The URL of an image. An image that is named like a page keeps its name. -/
def imageUrl (setup : Setup) (link : Text) : Action Text := do
  let token := Percent.decode link
  match ← resolve setup token with
  | .page _ => return link
  | .url url => return finalUrl url token link

end Conversion
end WikiMarkup
