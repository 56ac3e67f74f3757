import WikiMarkup.Text.Basic

/-!
# Raw HTML

Which segments of a page are HTML and left as they are: tags with their attributes, comments,
processing instructions, declarations and character data. Each reader gives the length of what it
has found at the beginning of a text.
-/

namespace WikiMarkup
namespace Markdown

/-! ## Tags -/

/-- A character of the name of a tag, behind the first. -/
def isTagChar (c : Char) : Bool := Text.isLetterOrDigit c || c == '-'

/-- The length of the name of a tag. -/
def tagNameLength? : Text → Option Nat
  | c :: rest => if Text.isLetter c then some (1 + (rest.takeWhile isTagChar).length) else none
  | [] => none

/-- A character of the name of an attribute, at its beginning. -/
def isAttributeStart (c : Char) : Bool := Text.isLetter c || c == '_' || c == ':'

/-- A character of the name of an attribute. -/
def isAttributeChar (c : Char) : Bool :=
  isAttributeStart c || Text.isDigit c || c == '.' || c == '-'

/-- A character of an attribute's value without quotes. -/
def isBareValueChar (c : Char) : Bool := !(" !\"'=<>\x60".toList.contains c)

/-- The lengths that a value at the beginning of a text can have, the longest first. A value without
quotes can also end before any of its white space. -/
def valueLengths (t : Text) : List Nat :=
  match t with
  | [] => []
  | quote :: rest =>
    if quote == '"' || quote == '\'' then
      let body := Text.before quote rest
      if (rest.drop body.length).isEmpty then [] else [body.length + 2]
    else
      let body := t.takeWhile isBareValueChar
      let cuts := (List.range body.length).filter fun n =>
        n != 0 && ((body.drop n).head?.map Text.isBlank).getD false
      if body.isEmpty then [] else body.length :: cuts.reverse

/-- The lengths that an attribute at the beginning of a text can have, with the white space in front
of it, the longest first. -/
def attributeLengths (t : Text) : List Nat :=
  let skipped := (t.takeWhile Text.isBlank).length
  match t.drop skipped with
  | [] => []
  | c :: rest =>
    if skipped == 0 || !isAttributeStart c then []
    else
      let named := skipped + 1 + (rest.takeWhile isAttributeChar).length
      let gap := ((t.drop named).takeWhile Text.isBlank).length
      match t.drop (named + gap) with
      | '=' :: value =>
        let space := (value.takeWhile Text.isBlank).length
        (valueLengths (value.drop space)).map (· + (named + gap + 1 + space))
      | _ => [named]

/-- The length of the attributes at the beginning of a text, as many as there can be but fewer than
`fuel`, and of what `close` finds behind them. -/
def attributesThen? (close : Text → Option Nat) : Nat → Text → Option Nat
  | 0, _ => none
  | fuel + 1, t =>
    match (attributeLengths t).findSome? fun n =>
        (attributesThen? close fuel (t.drop n)).map (· + n) with
    | some n => some n
    | none => close t

/-- The length of a closing bracket, perhaps behind a slash, behind white space. -/
def tagClose? (t : Text) : Option Nat :=
  let skipped := (t.takeWhile Text.isBlank).length
  match t.drop skipped with
  | '>' :: _ => some (skipped + 1)
  | '/' :: '>' :: _ => some (skipped + 2)
  | _ => none

/-- The length of an opening tag with fewer than `fuel` attributes. -/
def openTag? (fuel : Nat) (t : Text) : Option Nat :=
  match t with
  | '<' :: rest => do
    let name ← tagNameLength? rest
    let n ← attributesThen? tagClose? fuel (rest.drop name)
    return 1 + name + n
  | _ => none

/-- The length of a closing tag. -/
def closeTag? : Text → Option Nat
  | '<' :: '/' :: rest => do
    let name ← tagNameLength? rest
    let skipped := ((rest.drop name).takeWhile Text.isBlank).length
    if (rest.drop (name + skipped)).head? == some '>' then return 2 + name + skipped + 1 else none
  | _ => none

/-! ## Other segments -/

/-- How many characters come before the first occurrence of `part`. -/
def beforePart? (part : Text) : Text → Option Nat
  | [] => if part.isEmpty then some 0 else none
  | c :: rest =>
    if Text.startsWith part (c :: rest) then some 0 else (beforePart? part rest).map (· + 1)

/-- The length of a segment that begins with `start` and ends with the next `stop`. -/
def segment? (start stop t : Text) : Option Nat :=
  (Text.dropPrefix? start t).bind fun rest =>
    (beforePart? stop rest).map fun n => start.length + n + stop.length

/-- The length of a comment. It ends with the next `-->`, or at once with `>` or `->`. -/
def comment? (t : Text) : Option Nat :=
  segment? "<!-->".toList [] t <|> segment? "<!--->".toList [] t <|>
    segment? "<!--".toList "-->".toList t

/-- White space in a declaration. -/
def isDeclarationSpace (c : Char) : Bool := c == ' ' || c == '\t' || c == '\n' || c == '\x0c'

/-- The length of a declaration: a name in upper case, and white space behind it. -/
def declaration? (t : Text) : Option Nat :=
  (Text.dropPrefix? "<!".toList t).bind fun rest =>
    let name := rest.takeWhile Text.isUpperLetter
    let start := 2 + name.length
    if !name.isEmpty && ((t.drop start).head?.map isDeclarationSpace).getD false then
      segment? (t.take start) ['>'] t
    else none

/-- The length of a segment of HTML within a line of text, of a tag with fewer than `fuel`
attributes. -/
def inlineHtml? (fuel : Nat) (t : Text) : Option Nat :=
  match t with
  | '<' :: _ =>
    openTag? fuel t <|> closeTag? t <|> comment? t <|> segment? "<?".toList "?>".toList t <|>
      declaration? t <|> segment? "<![CDATA[".toList "]]>".toList t
  | _ => none

/-! ## Blocks -/

/-- The tags whose elements are blocks. -/
def blockTags : List String :=
  ["address", "article", "aside", "base", "basefont", "blockquote", "body", "caption", "center",
   "col", "colgroup", "dd", "details", "dialog", "dir", "div", "dl", "dt", "fieldset",
   "figcaption", "figure", "footer", "form", "frame", "frameset", "h1", "h2", "h3", "h4", "h5",
   "h6", "head", "header", "hr", "html", "iframe", "legend", "li", "link", "main", "menu",
   "menuitem", "meta", "nav", "noframes", "ol", "optgroup", "option", "p", "param", "section",
   "source", "summary", "table", "tbody", "td", "tfoot", "th", "thead", "title", "tr", "track",
   "ul"]

/-- The tags whose elements hold text that is not HTML. -/
def rawTextTags : List String := ["pre", "script", "style", "textarea"]

/-- Whether a name is among tags, in any case of its letters. -/
def isAmong (tags : List String) (name : Text) : Bool :=
  tags.any fun tag => tag.toList == Text.lowerAscii name

/-- How a block of HTML begins. -/
inductive HtmlStart where
  /-- A segment that goes on to the line with the text that ends it. -/
  | until (stop : Text)
  /-- An opening tag. -/
  | opening (name : Text)
  /-- A closing tag. -/
  | closing (name : Text)
deriving DecidableEq, Repr

/-- The beginning of a block of HTML, and its length. -/
def htmlStart? (t : Text) : Option (HtmlStart × Nat) :=
  match t with
  | '<' :: '/' :: rest => (tagNameLength? rest).map fun n => (.closing (rest.take n), n + 2)
  | '<' :: '?' :: _ => some (.until "?>".toList, 2)
  | '<' :: '!' :: rest =>
    if Text.startsWith "--".toList rest then some (.until "-->".toList, 4)
    else if Text.startsWith "[CDATA[".toList rest then some (.until "]]>".toList, 9)
    else
      match rest with
      | c :: _ => if Text.isUpperLetter c then some (.until ['>'], 3) else none
      | [] => none
  | '<' :: rest => (tagNameLength? rest).map fun n => (.opening (rest.take n), n + 1)
  | _ => none

/-- Whether a block of HTML that begins at the beginning of a text can end a paragraph of a quote or
a list without a blank line: the tag of a block or of text that is not HTML must be in lower case and
followed by white space or by the end of its line. -/
def interrupts (t : Text) : Bool :=
  match htmlStart? t with
  | none => false
  | some (.until _, _) => true
  | some (.opening name, n) | some (.closing name, n) =>
    ((blockTags ++ rawTextTags).any fun tag => tag.toList == name) &&
      match t.drop n with
      | [] => true
      | c :: _ => c == ' ' || c == '\t' || c == '\n'

/-- Whether the rest of a line, behind the name of a tag, closes an opening tag and holds nothing
else. -/
def isRestOfOpenTag (line : Text) : Bool :=
  let close (t : Text) : Option Nat :=
    match t.dropWhile fun c => c == ' ' || c == '\t' with
    | '>' :: rest =>
      let rest := rest.dropWhile fun c => c == ' ' || c == '\t'
      if rest.isEmpty || rest == ['\n'] then some 0 else none
    | _ => none
  (attributesThen? close (line.length + 1) line).isSome

/-- Whether the rest of a line, behind the name of a tag, closes a closing tag and holds nothing
else. -/
def isRestOfCloseTag (line : Text) : Bool :=
  match line.dropWhile fun c => c == ' ' || c == '\t' with
  | '>' :: rest =>
    let rest := rest.dropWhile fun c => c == ' ' || c == '\t'
    rest.isEmpty || rest == ['\n']
  | _ => false

end Markdown
end WikiMarkup
