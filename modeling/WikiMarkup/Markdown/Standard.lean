import WikiMarkup.Markdown.Block
import WikiMarkup.Markdown.Markup

/-!
# The usual reader

The reader that pages are read with if no other is asked for, and the way its links are kept from
running scripts.
-/

namespace WikiMarkup
namespace Markdown

/-- Reads blocks by their lines and inline markup by its marks. -/
def standard : Reader where
  document := Document.read
  inlines := Markup.read

/-! ## Safe URLs -/

/-- The schemes that a URL may have. -/
def safeSchemes : List String :=
  ["http:", "https:", "mailto:", "tel:", "ftp:", "ftps:", "irc:", "ircs:"]

/-- The kinds of image that a URL may hold itself. -/
def safeImages : List String :=
  ["data:image/gif;", "data:image/png;", "data:image/jpeg;", "data:image/webp;"]

/-- Decodes a percent-encoded text at most `n` times, as long as that changes it. -/
def decodeTimes : Nat → Text → Text
  | 0, t => t
  | n + 1, t =>
    let decoded := Percent.decode t
    if decoded == t then t else decodeTimes n decoded

/-- Whether a URL may stand in a link: it has a safe scheme, or none at all, or is a safe image. A
scheme may be hidden by up to three percent encodings, by upper case and by white space. -/
def isSafe (url : Text) : Bool :=
  let plain := (Text.lowerAscii (decodeTimes 3 url)).dropWhile Text.isBlank
  let begins (start : String) : Bool := Text.startsWith start.toList plain
  safeSchemes.any begins || safeImages.any begins ||
    (plain.head?.map fun c => c == '/' || c == '#' || c == '?').getD false ||
    !((Text.before '/' plain).contains ':')

/-- What takes the place of a URL that may not stand in a link. -/
def harmlessUrl : Text := "#harmful-link".toList

/-- A URL for the attribute of a link or an image. -/
def safeUrl (url : Text) : Text := Entity.escapeOnce (if isSafe url then url else harmlessUrl)

end Markdown
end WikiMarkup
