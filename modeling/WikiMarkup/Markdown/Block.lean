import WikiMarkup.Markdown.Document
import WikiMarkup.Markdown.RawHtml

/-!
# Blocks

A page as a tree of blocks: paragraphs, headings, code, quotes, lists, tables and HTML. The text of a
paragraph is not read here: its markup may refer to definitions further down the page.

Blocks are recognised line by line. At the beginning of a line the kinds of blocks are tried in a
fixed order; the first that the line can begin decides, and where it turns out to be none the line
belongs to a paragraph.
-/

namespace WikiMarkup
namespace Markdown

/-- What has been read of a page, or of a block in it: the blocks, the last one first, and all the
definitions of the page so far. -/
structure Draft where
  blocks : List Block := []
  definitions : Definitions := []
deriving Repr

namespace Draft

/-- Adds a block at the end. -/
def add (draft : Draft) (block : Block) : Draft := { draft with blocks := block :: draft.blocks }

/-- Adds a block before the last one. -/
def addBeforeLast (draft : Draft) (block : Block) : Draft :=
  match draft.blocks with
  | last :: blocks => { draft with blocks := last :: block :: blocks }
  | [] => draft.add block

/-- Adds a block behind the first `count` ones. -/
def addBehind (draft : Draft) (count : Nat) (block : Block) : Draft :=
  let newer := draft.blocks.length - count
  { draft with blocks := draft.blocks.take newer ++ block :: draft.blocks.drop newer }

/-- Adds text to the paragraph at the end, or begins a paragraph. -/
def addText (draft : Draft) (text : Text) : Draft :=
  match draft.blocks with
  | .paragraph start :: blocks => { draft with blocks := .paragraph (start ++ text) :: blocks }
  | _ => draft.add (.paragraph text)

/-- Adds text to the paragraph at the end, if there is one. -/
def continueText? (draft : Draft) (text : Text) : Option Draft :=
  match draft.blocks with
  | .paragraph _ :: _ => some (draft.addText text)
  | _ => none

end Draft

/-- What reading a block at the beginning of a line has come to. -/
inductive Outcome where
  /-- The line does not begin such a block. -/
  | absent
  /-- What began like such a block is none. -/
  | refused
  /-- A block has been read that takes some characters. -/
  | done (draft : Draft) (length : Nat)
deriving Repr

namespace Outcome

/-- The first outcome if the line begins a block of its kind, or else the second. -/
def orElse (first : Outcome) (second : Unit → Outcome) : Outcome :=
  match first with
  | .absent => second ()
  | _ => first

/-- What has been read, if anything has. -/
def done? : Outcome → Option (Draft × Nat)
  | .done draft length => some (draft, length)
  | _ => none

end Outcome

namespace Block

/-! ## Blocks of lines -/

/-- Reads blank lines. -/
def blankAt (draft : Draft) (t : Text) : Outcome :=
  match blankLines t with
  | 0 => .absent
  | n => .done (draft.add .blank) n

/-- Whether a line, behind at most `most` spaces, is a rule: three or more of one mark, with spaces
and tabs between them. -/
def isRule (most : Nat) (line : Text) : Bool :=
  match indented? most line with
  | some (_, mark :: rest) =>
    "-_*".toList.contains mark && rest.all (fun c => c == mark || isSpace c) &&
      2 ≤ rest.count mark
  | _ => false

/-- Reads a rule. -/
def ruleAt (most : Nat) (draft : Draft) (t : Text) : Outcome :=
  let line := Text.firstLine t
  if isRule most line then .done (draft.add .rule) (line.length + 1) else .absent

/-- A fence with the spaces in front of it and the description behind it. -/
structure FenceLine where
  indent : Nat
  mark : Char
  size : Nat
  description : Text
deriving DecidableEq, Repr

/-- The fence that a line opens, behind at most `most` spaces. -/
def fenceLine? (most : Nat) (line : Text) : Option FenceLine :=
  match indented? most line with
  | some (indent, mark :: rest) =>
    let size := 1 + Text.runLength mark rest
    if (mark == '\x60' || mark == '~') && 3 ≤ size then
      some ⟨indent, mark, size, (rest.drop (size - 1)).dropWhile isSpace⟩
    else none
  | _ => none

/-- Whether a text begins with a line that closes the block of a fence. -/
def closesFence (fence : FenceLine) (t : Text) : Bool :=
  match indented? 3 (Text.firstLine t) with
  | some (_, body) =>
    let size := Text.runLength fence.mark body
    fence.size ≤ size && (body.drop size).all isSpace
  | none => false

/-- Reads fenced code. A description behind backticks holds no backtick. -/
def fencedAt (most : Nat) (draft : Draft) (t : Text) : Outcome :=
  let line := Text.firstLine t
  match fenceLine? most line with
  | none => .absent
  | some fence =>
    if fence.mark == '\x60' && fence.description.contains '\x60' then .refused
    else
      let start := line.length + 1
      let body := t.drop start
      let (size, stop) :=
        match beforeLine? (closesFence fence) true body with
        | some n => (n, start + n + lineLength (body.drop n))
        | none => (body.length, t.length)
      let source := mapLines (dropSpaces fence.indent) (body.take size)
      let description :=
        if fence.description.isEmpty then none
        else some (Text.trim (unescapeMarks fence.description))
      .done (draft.add (.code source description)) stop

/-- Whether a text begins with a line of indented code. -/
def isCodeLine (t : Text) : Bool :=
  let line := Text.firstLine t
  let indent := Text.runLength ' ' line
  (4 ≤ indent && 4 < line.length) ||
    ((line.drop indent).head? == some '\t' && indent + 1 < line.length)

/-- Whether a text begins with a line of white space of any script. -/
def beginsSpace (t : Text) : Bool := (Text.firstLine t).all Text.isBlank

/-- Reads indented code. Behind a paragraph it is a line of it. -/
def indentedAt (draft : Draft) (t : Text) : Outcome :=
  if isCodeLine t then
    match draft.continueText? (wholeLine t) with
    | some draft => .done draft (lineLength t)
    | none =>
      let length := (beforeLine? (fun t => !isCodeLine t && !beginsSpace t) true t).getD t.length
      let source := mapLines (dropSpaces 4) (alignTabs 4 (t.take length))
      .done (draft.add (.code (Text.trimChar '\n' source) none)) length
  else .absent

/-- The text of a heading without the number signs that close it, behind white space. -/
def dropClosingSigns (t : Text) : Text :=
  let signed := Text.trimEnd Text.isBlank t
  let body := Text.trimEnd (· == '#') signed
  if body.length == signed.length then t
  else
    match body.getLast? with
    | none => []
    | some c => if Text.isBlank c then Text.trimEnd Text.isBlank body else t

/-- White space around the text of a heading that is no part of it. -/
def isHeadingMargin (c : Char) : Bool := c == ' ' || ('\t' ≤ c && c ≤ '\x0d')

/-- Reads a heading behind number signs. -/
def headingAt (most : Nat) (draft : Draft) (t : Text) : Outcome :=
  let line := Text.firstLine t
  match indented? most line with
  | none => .absent
  | some (_, body) =>
    let level := Text.runLength '#' body
    let rest := body.drop level
    if 1 ≤ level && level ≤ 6 && ((rest.head?.map isSpace).getD true) then
      .done (draft.add (.heading level (dropClosingSigns (Text.trimBy isHeadingMargin rest)))) (line.length + 1)
    else .absent

/-- The level of the heading that a line of hyphens or equals signs makes of the paragraph above. -/
def underlineLevel? (line : Text) : Option Nat :=
  match indented? 3 line with
  | some (_, body) =>
    let marks := body.takeWhile fun c => c == '=' || c == '-'
    if (body.drop marks.length).all isSpace then
      marks.getLast?.map fun c => if c == '=' then 1 else 2
    else none
  | none => none

/-- Reads a definition. What looks like one behind a paragraph is a line of it. -/
def definitionAt (draft : Draft) (t : Text) : Outcome :=
  match indented? 3 t with
  | some (indent, '[' :: rest) =>
    match readDefinedLabel rest with
    | some (label, n) =>
      if (rest.drop n).head? == some ':' then
        match readDefinition (rest.drop (n + 1)) with
        | some (target, m) =>
          if (draft.continueText? []).isSome || (labelKey label).isEmpty then .refused
          else
            .done { draft with definitions := draft.definitions.add label target }
              (indent + n + 2 + m)
        | none => .refused
      else .absent
    | none => .absent
  | _ => .absent

/-! ## HTML -/

/-- Reads a block of HTML up to the line in which `stop` comes next, behind the first `start`
characters. -/
def htmlUntil (draft : Draft) (t stop : Text) (start : Nat) : Outcome :=
  let length :=
    match beforePart? stop (t.drop start) with
    | some n => start + n + lineLength (t.drop (start + n))
    | none => t.length
  .done (draft.add (.html (t.take length))) length

/-- Reads a block of HTML up to the next blank line. -/
def htmlUntilBlank (draft : Draft) (t : Text) : Outcome :=
  let length := (beforeLine? beginsBlank true t).getD t.length
  .done (draft.add (.html (t.take length))) length

/-- Reads a block of HTML. A single tag that is none of a block begins one only if it is alone on its
line and continues no paragraph. -/
def htmlAt (most : Nat) (draft : Draft) (t : Text) : Outcome :=
  match indented? most t with
  | none => .absent
  | some (indent, body) =>
    let single (isRest : Text → Bool) (n : Nat) : Outcome :=
      match draft.continueText? (wholeLine t) with
      | some draft => .done draft (lineLength t)
      | none =>
        if isRest ((wholeLine t).drop (indent + n)) then htmlUntilBlank draft t else .refused
    match htmlStart? body with
    | none => .absent
    | some (.until stop, n) => htmlUntil draft t stop (indent + n)
    | some (.closing name, n) =>
      if isAmong blockTags name then htmlUntilBlank draft t else single isRestOfCloseTag n
    | some (.opening name, n) =>
      if isAmong rawTextTags name then
        htmlUntil draft t ("</".toList ++ Text.lowerAscii name ++ ['>']) (indent + n)
      else if isAmong blockTags name then htmlUntilBlank draft t
      else single isRestOfOpenTag n

/-- Reads a block of HTML that ends a paragraph of a quote or a list without a blank line. -/
def interruptingHtmlAt (most : Nat) (draft : Draft) (t : Text) : Outcome :=
  match indented? most t with
  | some (_, body) => if interrupts body then htmlAt most draft t else .absent
  | none => .absent

/-! ## Tables -/

/-- Reads a table. Rows between bars that are no table are text. -/
def tableAt (draft : Draft) (t : Text) : Outcome :=
  match Table.found? t with
  | none => .absent
  | some (.table found length) =>
    .done (draft.add (.table found)) (length + Text.runLength '\n' (t.drop length))
  | some (.rows length) => .done (draft.addText (t.take length)) length

/-! ## List items -/

/-- The first line of a list item: the spaces in front of its mark, the mark, and what stands behind
it. -/
structure ItemLine where
  indent : Nat
  mark : Text
  text : Text
deriving DecidableEq, Repr

/-- The length of the mark of a list item: a bullet, or a number of at most nine digits with a point or
a parenthesis. -/
def markLength? (t : Text) : Option Nat :=
  let digits := (t.takeWhile Digit.isDecimal).length
  match t with
  | [] => none
  | c :: _ =>
    if c == '*' || c == '+' || c == '-' then some 1
    else
      match t.drop digits with
      | d :: _ =>
        if 1 ≤ digits && digits ≤ 9 && (d == '.' || d == ')') then some (digits + 1) else none
      | [] => none

/-- The list item that a line begins, behind at most `most` spaces. -/
def itemLine? (most : Nat) (line : Text) : Option ItemLine :=
  match indented? most line with
  | none => none
  | some (indent, body) =>
    (markLength? body).bind fun n =>
      let text := body.drop n
      if (text.head?.map isSpace).getD true then some ⟨indent, body.take n, text⟩ else none

/-- The kind of a mark: items of one list have marks of one kind. -/
def ItemLine.kind (item : ItemLine) : Char := (item.mark.getLast?).getD '-'

/-- A numbered item. -/
def ItemLine.isOrdered (item : ItemLine) : Bool := 1 < item.mark.length

/-- The number of a numbered item. -/
def ItemLine.number (item : ItemLine) : Nat := Digit.number item.mark.dropLast

/-- The width of the spaces and the mark of an item. -/
def ItemLine.leadWidth (item : ItemLine) : Nat := item.indent + item.mark.length

/-- The first line of an item's content, and the width of the spaces in front of it; five spaces or
more are one space and indented code. -/
def ItemLine.content (item : ItemLine) : Text × Nat :=
  let text := expandTabs item.leadWidth item.text
  if text.all Text.isBlank then ([], 1)
  else
    let spaces := Text.runLength ' ' text
    let width := if 5 ≤ spaces then 1 else spaces
    (text.drop width ++ ['\n'], width)

/-- The content of an item behind its first line, without the indentation of the item. -/
def unindent (width : Nat) (t : Text) : Text :=
  mapLines (fun line =>
    if Text.startsWith (List.replicate width ' ') line then line.drop width else line) t

/-- A text without the white space behind a line end at its end. -/
def trimLastLines (t : Text) : Text :=
  let body := Text.trimEnd Text.isBlank t
  let space := t.drop body.length
  match Text.after? '\n' space with
  | some (_ :: _) => body ++ Text.before '\n' space ++ ['\n']
  | _ => t

/-- Whether the blocks of an item set its list apart: there is a blank line among them, or more than
one paragraph. -/
def isLoose (blocks : List Block) : Bool :=
  let isBlankBlock : Block → Bool
    | .blank => true
    | _ => false
  let isParagraph : Block → Bool
    | .paragraph _ => true
    | _ => false
  blocks.any isBlankBlock || 1 < blocks.countP isParagraph

/-- The blocks of an item in a list that is not set apart. -/
def tighten (blocks : List Block) : List Block :=
  blocks.map fun
    | .paragraph text => .line text
    | block => block

/-- How an item ends. -/
inductive ItemEnd where
  /-- With the list. -/
  | last
  /-- With the next item, behind a blank line or not. -/
  | next (item : ItemLine) (spaced : Bool)
  /-- With another block, which has been read. -/
  | broken (draft : Draft)
deriving Repr

/-! ## Quotes -/

/-- Whether a line belongs to a quote. -/
def isQuoteLine (most : Nat) (line : Text) : Bool :=
  match indented? most line with
  | some (_, '>' :: _) => true
  | _ => false

/-- A line of a quote without its mark: one space behind it belongs to it. -/
def unquoteLine (line : Text) : Text :=
  let body := (line.dropWhile (· == ' ')).drop 1
  dropSpaces 1 (replaceLeadingTab (fun _ => List.replicate 3 ' ') body)

/-- Whether the first line of a quote can only be continued by lines with a mark. -/
def needsMark (t : Text) : Bool :=
  beginsBlank t || isCodeLine t || (fenceLine? 3 (Text.firstLine t)).isSome

/-- A line of a quote. A lazy one has no mark: it continues a paragraph. -/
structure QuotedLine where
  text : Text
  isLazy : Bool
deriving DecidableEq, Repr

namespace QuotedLine

/-- The line of a quote that a text begins with. -/
def ofMarked (t : Text) : QuotedLine := ⟨unquoteLine (Text.firstLine t) ++ ['\n'], false⟩

/-- The lazy line that a text begins with. -/
def ofLazy (t : Text) : QuotedLine :=
  ⟨replaceLeadingTab (fun _ => List.replicate 3 ' ') (wholeLine t), true⟩

/-- Some lines as they are read in the quote. -/
def source (lines : List QuotedLine) : Text := lines.flatMap fun quoted => widenTab quoted.text

/-- How many characters of some lines come before each lazy one, behind `start` characters. -/
def lazyStarts : Nat → List QuotedLine → List Nat
  | _, [] => []
  | start, first :: lines =>
    let starts := lazyStarts (start + first.text.length) lines
    if first.isLazy then start :: starts else starts

end QuotedLine

/-! ## The reader -/

/-- Which blocks are recognised, and how deep in the page. -/
structure Scope where
  depth : Nat := 0
  tables : Bool := true
  /-- How many characters are left of the text at the beginning of each line that is no underline. -/
  lazyPlaces : List Nat := []
deriving DecidableEq, Repr

/-- The deepest level of nesting. -/
def deepest : Nat := 20

/-- Whether quotes and lists can stand at this depth. -/
def Scope.nests (scope : Scope) : Bool := scope.depth < deepest

/-- What is recognised inside of a quote or a list item. -/
def Scope.inner (scope : Scope) (lazyPlaces : List Nat) : Scope where
  depth := scope.depth + 1
  tables := false
  lazyPlaces := lazyPlaces

mutual

/-- Reads blocks to the end of a text. A line that begins no block is text. -/
def readFrom : Nat → Scope → Draft → Text → Draft
  | 0, _, draft, t => draft.addText t
  | _ + 1, _, draft, [] => draft
  | fuel + 1, scope, draft, c :: rest =>
    let t := c :: rest
    match readAt fuel scope draft t with
    | .done draft n => readFrom fuel scope draft (t.drop n)
    | _ => readFrom fuel scope (draft.addText (wholeLine t)) (t.drop (lineLength t))
termination_by structural fuel => fuel

/-- Reads the block that begins at the beginning of a line. -/
def readAt : Nat → Scope → Draft → Text → Outcome
  | 0, _, _, _ => .absent
  | fuel + 1, scope, draft, t =>
    (fencedAt 3 draft t).orElse fun _ =>
    (indentedAt draft t).orElse fun _ =>
    (headingAt 3 draft t).orElse fun _ =>
    (underlineAt fuel scope draft t).orElse fun _ =>
    (ruleAt 3 draft t).orElse fun _ =>
    (if scope.nests then quoteAt fuel scope 3 draft t else .absent).orElse fun _ =>
    (if scope.nests then listAt fuel scope draft t else .absent).orElse fun _ =>
    (definitionAt draft t).orElse fun _ =>
    (htmlAt 3 draft t).orElse fun _ =>
    (blankAt draft t).orElse fun _ =>
    if scope.tables then tableAt draft t else .absent
termination_by structural fuel => fuel

/-- Reads a line of hyphens or equals signs: it makes a heading of the paragraph above it, or else is a
rule or the first line of a list. As a lazy line of a quote it is text. -/
def underlineAt : Nat → Scope → Draft → Text → Outcome
  | 0, _, _, _ => .absent
  | fuel + 1, scope, draft, t =>
    let line := Text.firstLine t
    match underlineLevel? line with
    | none => .absent
    | some level =>
      if scope.lazyPlaces.contains t.length then .refused else
      match draft.blocks with
      | .paragraph text :: blocks =>
        .done { draft with blocks := .heading level text :: blocks } (line.length + 1)
      | _ =>
        match (ruleAt 3 draft t).orElse fun _ => listAt fuel scope draft t with
        | .absent => .refused
        | outcome => outcome
termination_by structural fuel => fuel

/-- Reads a quote, behind at most `most` spaces. -/
def quoteAt : Nat → Scope → Nat → Draft → Text → Outcome
  | 0, _, _, _, _ => .absent
  | fuel + 1, scope, most, draft, t =>
    if isQuoteLine most (Text.firstLine t) then
      let first := unquoteLine (Text.firstLine t) ++ ['\n']
      let (lines, length, broken?) :=
        quoteFrom fuel scope draft (needsMark first) [.ofMarked t] (lineLength t)
          (t.drop (lineLength t))
      let source := QuotedLine.source lines.reverse
      let lazyPlaces := (QuotedLine.lazyStarts 0 lines.reverse).map (source.length - ·)
      let child (definitions : Definitions) : Draft :=
        readFrom fuel (scope.inner lazyPlaces) { definitions } source
      match broken? with
      | some (draft, n) =>
        let child := child draft.definitions
        let draft := { draft with definitions := child.definitions }
        .done (draft.addBeforeLast (.quote child.blocks.reverse)) (length + n)
      | none =>
        let child := child draft.definitions
        let draft := { draft with definitions := child.definitions }
        .done (draft.add (.quote child.blocks.reverse)) length
    else .absent
termination_by structural fuel => fuel

/-- Reads the lines of a quote behind the lines `lines`, the last one first, which take `length`
characters. A line without a mark continues a paragraph, unless all lines of the quote need a mark,
or the line above it is blank, or it begins a block of another kind; that block is read then. -/
def quoteFrom : Nat → Scope → Draft → Bool → List QuotedLine → Nat → Text →
    List QuotedLine × Nat × Option (Draft × Nat)
  | 0, _, _, _, lines, length, _ => (lines, length, none)
  | _ + 1, _, _, _, lines, length, [] => (lines, length, none)
  | fuel + 1, scope, draft, needsMark, lines, length, c :: rest =>
    let t := c :: rest
    let n := lineLength t
    if isQuoteLine 3 (Text.firstLine t) then
      quoteFrom fuel scope draft needsMark (.ofMarked t :: lines) (length + n) (t.drop n)
    else
      let afterBlank :=
        match lines with
        | last :: _ :: _ => !last.isLazy && last.text.all Text.isBlank
        | _ => false
      if needsMark || afterBlank then (lines, length, none)
      else
        let outcome :=
          (blankAt draft t).orElse fun _ =>
          (ruleAt 3 draft t).orElse fun _ =>
          (fencedAt 3 draft t).orElse fun _ =>
          (listAt fuel scope draft t).orElse fun _ =>
          interruptingHtmlAt 3 draft t
        match outcome.done? with
        | some broken => (lines, length, some broken)
        | none =>
          quoteFrom fuel scope draft needsMark (.ofLazy t :: lines) (length + n) (t.drop n)
termination_by structural fuel => fuel

/-- Reads a list. An empty item, or a number other than one, begins no list behind a paragraph. -/
def listAt : Nat → Scope → Draft → Text → Outcome
  | 0, _, _, _ => .absent
  | fuel + 1, scope, draft, t =>
    let line := Text.firstLine t
    match itemLine? 3 line with
    | none => .absent
    | some item =>
      let start := if item.isOrdered && item.number != 1 then some item.number else none
      let continued :=
        if item.text.all Text.isBlank || start.isSome then draft.continueText? (wholeLine t)
        else none
      match continued with
      | some draft => .done draft (lineLength t)
      | none => itemsFrom fuel scope draft item.isOrdered start true [] item (line.length + 1) t
termination_by structural fuel => fuel

/-- Reads the items of a list from `item` on, whose first line ends at `length`. `tight` tells whether
the list is not set apart by blank lines so far, and `items` holds the items before, the last one
first. -/
def itemsFrom : Nat → Scope → Draft → Bool → Option Nat → Bool → List (List Block) → ItemLine →
    Nat → Text → Outcome
  | 0, _, _, _, _, _, _, _, _, _ => .absent
  | fuel + 1, scope, draft, ordered, start, tight, items, item, length, t =>
    let (first, space) := item.content
    let width := item.leadWidth + space
    let (source, length, itemEnd) :=
      itemFrom fuel scope draft item width first.isEmpty false [] length (t.drop length)
    let text := trimLastLines (first ++ unindent width source)
    let read :=
      match itemEnd with
      | .broken draft => draft
      | _ => draft
    let child := readFrom fuel (scope.inner []) { definitions := read.definitions } text
    let read := { read with definitions := child.definitions }
    let spaced :=
      match itemEnd with
      | .next _ spaced => spaced
      | _ => false
    let tight := tight && !spaced && !isLoose child.blocks
    let items := child.blocks.reverse :: items
    let block : Block :=
      .list ordered start ((if tight then items.map tighten else items).reverse)
    match itemEnd with
    | .last => .done (read.add block) length
    | .broken _ => .done (read.addBehind draft.blocks.length block) length
    | .next item _ => itemsFrom fuel scope read ordered start tight items item length t
termination_by structural fuel => fuel

/-- Reads the lines of an item behind its first one: its source, with all tabs at the beginning of lines
aligned, the length of the list so far, and how the item ends. A line that is not indented to the
`width` of the item continues a paragraph, unless the line above it is blank or it begins a block of
another kind. An item whose first line is empty has no more than one blank line there. -/
def itemFrom : Nat → Scope → Draft → ItemLine → Nat → Bool → Bool → Text → Nat → Text →
    Text × Nat × ItemEnd
  | 0, _, _, _, _, _, _, source, length, _ => (source, length, .last)
  | _ + 1, _, _, _, _, _, _, source, length, [] => (source, length, .last)
  | fuel + 1, scope, draft, item, width, isEmpty, afterBlank, source, length, c :: rest =>
    let t := c :: rest
    let n := lineLength t
    let line := wholeLine t
    let aligned := expandTabs 0 line
    if beginsBlank line then
      itemFrom fuel scope draft item width isEmpty true (source ++ ['\n']) (length + n) (t.drop n)
    else if Text.startsWith (List.replicate width ' ') aligned then
      if afterBlank && isEmpty && source.all Text.isBlank then (source, length, .last)
      else
        itemFrom fuel scope draft item width isEmpty false (source ++ aligned) (length + n)
          (t.drop n)
    else
      let most := min item.leadWidth 3
      let bare := Text.firstLine t
      let next? :=
        if isRule most bare then none
        else (itemLine? most bare).filter fun next => next.kind == item.kind
      match next? with
      | some next => (source, length + bare.length + 1, .next next afterBlank)
      | none =>
        let broken :=
          (ruleAt most draft t).orElse fun _ =>
          (fencedAt most draft t).orElse fun _ =>
          (headingAt most draft t).orElse fun _ =>
          (quoteAt fuel scope most draft t).orElse fun _ =>
          interruptingHtmlAt most draft t
        match broken with
        | .done draft n => (source, length + n, .broken draft)
        | outcome =>
          let beginsList :=
            match outcome with
            | .absent => (itemLine? most bare).isSome
            | _ => false
          if beginsList || afterBlank then (source, length, .last)
          else
            itemFrom fuel scope draft item width isEmpty false (source ++ aligned) (length + n)
              (t.drop n)
termination_by structural fuel => fuel

end

end Block

/-- A text in which every line ends with a line feed. -/
def normalizeLineEnds : Text → Text
  | '\x0d' :: '\n' :: rest => '\n' :: normalizeLineEnds rest
  | '\x0d' :: rest => '\n' :: normalizeLineEnds rest
  | c :: rest => c :: normalizeLineEnds rest
  | [] => []

/-- Reads a page. Each call of the readers goes on by a line or down by a level, so the fuel cannot run
out before the text does. -/
def Document.read (t : Text) : Document :=
  let t := normalizeLineEnds t
  let t := if t.getLast? == some '\n' then t else t ++ ['\n']
  let draft := Block.readFrom (8 * t.length + 64) {} {} t
  ⟨draft.blocks.reverse, draft.definitions⟩

end Markdown
end WikiMarkup
