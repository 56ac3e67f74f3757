import WikiMarkup.Conversion.Heading
import WikiMarkup.Conversion.Link

/-!
# HTML of a page

The HTML of the parts of a page in which the conversion has a say: links, images, headings and code.
-/

namespace WikiMarkup
namespace Conversion

/-! ## Elements -/

/-- An attribute with its value, as it stands in a tag. -/
def attr (name : String) (value : Text) : Text :=
  ' ' :: name.toList ++ "=\"".toList ++ value ++ ['"']

/-- The attribute for a title, if there is one. -/
def titleAttribute (title : Option Text) : Text :=
  match title with
  | some (c :: rest) => attr "title" (Entity.escape (c :: rest))
  | _ => []

/-- An element without attributes. -/
def element (name : String) (content : Text) : Text :=
  '<' :: name.toList ++ '>' :: content ++ "</".toList ++ name.toList ++ ['>']

/-- A link. -/
def link (setup : Setup) (content url : Text) (title : Option Text) : Action Text := do
  let (href, marked) ← linkUrl setup url content
  return "<a".toList ++ attr "href" (setup.safeUrl href) ++ titleAttribute title ++
    (if marked then attr "rel" "nofollow".toList else []) ++ '>' :: content ++ "</a>".toList

/-- An image. -/
def image (setup : Setup) (description url : Text) (title : Option Text) : Action Text := do
  let source ← imageUrl setup url
  return "<img".toList ++ attr "src" (setup.safeUrl source) ++
    attr "alt" (Entity.escape description) ++ titleAttribute title ++ " />".toList

/-- A heading. -/
def heading (content : Text) (level : Int) : Action Text := do
  let (level, anchor) ← addHeading content level
  let tag := 'h' :: Digit.writeInt level
  let id :=
    match anchor with
    | some anchor => attr "id" anchor
    | none => []
  return '<' :: tag ++ id ++ '>' :: content ++ "</".toList ++ tag ++ ">\n".toList

/-- Strong emphasis. -/
def strong (content : Text) : Text := element "b" content

/-- Emphasis. -/
def emphasis (content : Text) : Text := element "i" content

/-- A block of code with its description. -/
def codeBlock (setup : Setup) (code description : Text) : Action Text :=
  Action.ofExcept (Listing.ofBlock setup.highlighter code description)

end Conversion
end WikiMarkup
