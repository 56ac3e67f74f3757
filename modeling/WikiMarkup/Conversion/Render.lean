import WikiMarkup.Conversion.Html

/-!
# Rendering

Writes a page that has been read as a tree of blocks as HTML. The parts of a page are written in their
order, what stands inside of a part before the part itself, so that links and headings are recorded
as a reader meets them.
-/

namespace WikiMarkup
namespace Conversion

open WikiMarkup.Markdown

/-! ## Inline markup -/

mutual

/-- The HTML of a piece of inline markup. -/
def renderInline (setup : Setup) : Inline → Action Text
  | .text t => pure (Entity.escapeOnce t)
  | .literal t => pure (Entity.escapeQuoted t)
  | .code t => pure (element "code" (Entity.escapeQuoted t))
  | .emphasis children => do return emphasis (← renderInlines setup children)
  | .strong children => do return strong (← renderInlines setup children)
  | .deleted children => do return element "del" (← renderInlines setup children)
  | .link children target => do
    link setup (← renderInlines setup children) target.url target.title
  | .image children target => do
    image setup (← renderInlines setup children) target.url target.title
  | .html t => pure t
  | .lineBreak => pure "<br />\n".toList
  | .softBreak => pure ['\n']

/-- The HTML of inline markup. -/
def renderInlines (setup : Setup) : List Inline → Action Text
  | [] => pure []
  | piece :: pieces => do
    let first ← renderInline setup piece
    return first ++ (← renderInlines setup pieces)

end

/-- White space around the text of a block that is no part of it. -/
def isTextMargin (c : Char) : Bool :=
  c == ' ' || c == '\x0d' || c == '\n' || c == '\t' || c == '\x0c'

/-- The HTML of the text of a block. -/
def renderText (setup : Setup) (definitions : Definitions) (t : Text) : Action Text :=
  renderInlines setup (setup.markdown.inlines definitions (Text.trimBy isTextMargin t))

/-! ## Tables -/

/-- The word for an alignment. -/
def alignName : Align → String
  | .left => "left"
  | .center => "center"
  | .right => "right"

/-- The HTML of a cell, in an element of a name. -/
def renderCell (setup : Setup) (definitions : Definitions) (name : String) (cell : Cell) :
    Action Text := do
  let content ← renderText setup definitions cell.text
  let style :=
    match cell.align with
    | some align => attr "style" ("text-align:".toList ++ (alignName align).toList)
    | none => []
  return "  <".toList ++ name.toList ++ style ++ '>' :: content ++ "</".toList ++ name.toList ++
    ">\n".toList

/-- The HTML of the cells of a row. -/
def renderCells (setup : Setup) (definitions : Definitions) (name : String) :
    List Cell → Action Text
  | [] => pure []
  | cell :: cells => do
    let first ← renderCell setup definitions name cell
    return first ++ (← renderCells setup definitions name cells)

/-- The HTML of the rows of a table below its headings. -/
def renderRows (setup : Setup) (definitions : Definitions) : List (List Cell) → Action Text
  | [] => pure []
  | row :: rows => do
    let cells ← renderCells setup definitions "td" row
    return "<tr>\n".toList ++ cells ++ "</tr>\n".toList ++ (← renderRows setup definitions rows)

/-- The HTML of a table. -/
def renderTable (setup : Setup) (definitions : Definitions) (table : Table) : Action Text := do
  let headings ← renderCells setup definitions "th" table.headings
  let rows ← renderRows setup definitions table.rows
  return "<table>\n<thead>\n<tr>\n".toList ++ headings ++
    "</tr>\n</thead>\n<tbody>\n".toList ++ rows ++ "</tbody>\n</table>\n".toList

/-! ## Blocks -/

mutual

/-- The HTML of a block. -/
def renderBlock (setup : Setup) (definitions : Definitions) : Block → Action Text
  | .blank => pure []
  | .rule => pure "<hr />\n".toList
  | .code source description => codeBlock setup source (description.getD [])
  | .heading level text => do heading (← renderText setup definitions text) level
  | .paragraph text => do
    return "<p>".toList ++ (← renderText setup definitions text) ++ "</p>\n".toList
  | .line text => renderText setup definitions text
  | .quote children => do
    return "<blockquote>\n".toList ++ (← renderBlocks setup definitions children) ++
      "</blockquote>\n".toList
  | .list ordered start items => do
    let content ← renderItems setup definitions items
    let name := if ordered then "ol" else "ul"
    let first :=
      match start with
      | some n => attr "start" (Digit.write n)
      | none => []
    return '<' :: name.toList ++ first ++ ">\n".toList ++ content ++ "</".toList ++ name.toList ++
      ">\n".toList
  | .html source => pure (source ++ ['\n'])
  | .table table => renderTable setup definitions table

/-- The HTML of blocks. -/
def renderBlocks (setup : Setup) (definitions : Definitions) : List Block → Action Text
  | [] => pure []
  | block :: blocks => do
    let first ← renderBlock setup definitions block
    return first ++ (← renderBlocks setup definitions blocks)

/-- The HTML of the items of a list. -/
def renderItems (setup : Setup) (definitions : Definitions) : List (List Block) → Action Text
  | [] => pure []
  | item :: items => do
    let content ← renderBlocks setup definitions item
    return "<li>".toList ++ content ++ "</li>\n".toList ++
      (← renderItems setup definitions items)

end

/-- The HTML of a page. -/
def renderPage (setup : Setup) (t : Text) : Action Text :=
  let document := setup.markdown.document t
  renderBlocks setup document.definitions document.blocks

end Conversion
end WikiMarkup
