import WikiMarkup.Markdown.Target

/-!
# Inline markup

The text of a paragraph or heading as a tree: code, emphasis, links, images and HTML within it.
Text that stands together is one piece of the tree, so that a character reference is read as a whole;
an escaped mark stands apart and belongs to no reference.
-/

namespace WikiMarkup
namespace Markdown

/-- A piece of inline markup. -/
inductive Inline where
  | text (t : Text)
  /-- Text in which no character reference is read. -/
  | literal (t : Text)
  | code (t : Text)
  | emphasis (children : List Inline)
  | strong (children : List Inline)
  | deleted (children : List Inline)
  | link (children : List Inline) (target : Target)
  | image (children : List Inline) (target : Target)
  | html (t : Text)
  | lineBreak
  | softBreak
deriving Repr

namespace Inline

/-- Puts a piece in front of others; text in front of text is one piece with it. -/
def cons : Inline → List Inline → List Inline
  | .text t, .text u :: pieces => .text (t ++ u) :: pieces
  | piece, pieces => piece :: pieces

/-- Pieces in which no text stands next to text. -/
def joinTexts (pieces : List Inline) : List Inline := pieces.foldr cons []

/-- A piece in which character references are read even where it is literal. -/
def toText : Inline → Inline
  | .literal t => .text t
  | piece => piece

mutual

/-- How many levels of other pieces a piece has, itself included; text and code have none. -/
def height : Inline → Nat
  | .emphasis children | .strong children | .deleted children | .link children _
  | .image children _ => heights children + 1
  | .text _ | .literal _ | .code _ | .html _ | .lineBreak | .softBreak => 0

/-- How many levels pieces have. -/
def heights : List Inline → Nat
  | [] => 0
  | piece :: pieces => max (height piece) (heights pieces)

end

end Inline
end Markdown
end WikiMarkup
