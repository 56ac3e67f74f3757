import WikiMarkup.Markdown.Emphasis
import WikiMarkup.Markdown.Segment

/-!
# Reading inline markup

A text is read once, from left to right. Opening brackets are kept open until a closing one meets the
last of them and a target is found behind it, or the text ends. Links do not nest: the brackets that
are open around a link begin no link themselves, and a URL in the text of a link is text. Emphasis is
read last, within the brackets of a link and then around them. There is a limit to how deep pieces
stand in each other.
-/

namespace WikiMarkup
namespace Markdown
namespace Markup

/-- What has been read of a text behind a bracket. -/
inductive Item where
  | part (part : Part)
  /-- A URL that is a link by itself, and how it is written. -/
  | url (link : Inline) (source : Text)
deriving Repr

/-- An item as a part of the text of a link, or of other text. -/
def Item.toPart (inLink : Bool) : Item → Part
  | .part found => found
  | .url link source => .piece (if inLink then .text source else link)

/-- An opening bracket that is open. -/
structure Bracket where
  isImage : Bool
  /-- Whether there is no link behind it. -/
  isActive : Bool := true
  /-- The text behind it, and its place in the whole text. -/
  source : Text
  place : Nat
  /-- The items between the bracket before it and this one, the last one first. -/
  before : List Item
deriving Repr

/-- The mark of a bracket, as text. -/
def Bracket.text (bracket : Bracket) : Item :=
  .part (.piece (.text (if bracket.isImage then ['!', '['] else ['['])))

/-- What has been read: the brackets that are open, the last one first, the items behind them, the
last one first, and whether a link that is written as HTML is open. -/
structure Reading where
  brackets : List Bracket := []
  items : List Item := []
  inLink : Bool := false
  /-- The most levels of pieces. -/
  levels : Nat
deriving Repr

namespace Reading

/-- Puts an item at the end. -/
def add (reading : Reading) (item : Item) : Reading :=
  { reading with items := item :: reading.items }

/-- Puts a piece at the end. -/
def addPiece (reading : Reading) (piece : Inline) : Reading := reading.add (.part (.piece piece))

/-- Puts text at the end. -/
def addText (reading : Reading) (t : Text) : Reading := reading.addPiece (.text t)

/-- Puts a link from a URL to itself at the end. -/
def addUrl (reading : Reading) (url label source : Text) : Reading :=
  reading.add (.url (.link [.text label] ⟨toUrl url, none⟩) source)

/-- Puts a segment of HTML at the end. -/
def addHtml (reading : Reading) (html : Text) : Reading :=
  { reading.addPiece (.html html) with inLink := Segment.linkBehind reading.inLink html }

/-- Opens a bracket with some text behind it. -/
def openBracket (reading : Reading) (isImage : Bool) (source : Text) (place : Nat) : Reading :=
  { reading with
    brackets := { isImage, source, place, before := reading.items } :: reading.brackets
    items := [] }

/-- All items; the brackets that are open are text. -/
def flat (reading : Reading) : List Item :=
  reading.items ++ reading.brackets.flatMap fun bracket => bracket.text :: bracket.before

/-- The inline markup of the text that has been read. -/
def pieces (reading : Reading) : List Inline :=
  Emphasis.ofParts reading.levels (reading.flat.reverse.map (Item.toPart false))

end Reading

/-! ## Links and images -/

/-- The target behind the closing bracket of a link, with its length: one in parentheses, or else one
under the label that follows. If there is no label, or an empty one, the text of the link is one. -/
def target? (definitions : Definitions) (label? : Option Text) (behind : Text) :
    Option (Target × Nat) :=
  let direct? :=
    match behind with
    | '(' :: rest => (readTarget rest).map fun (target, n) => (target, n + 1)
    | _ => none
  match direct? with
  | some found => some found
  | none =>
    let (label?, n) : Option Text × Nat :=
      match behind with
      | '[' :: rest =>
        match readLabel rest with
        | some (label, n) => (if label.isEmpty then label? else some label, n + 1)
        | none => (label?, 0)
      | _ => (label?, 0)
    (label?.bind definitions.target?).map fun target => (target, n)

/-- The text of a bracket that is closed at a place, if it is a label. -/
def Bracket.label? (bracket : Bracket) (place : Nat) : Option Text :=
  (readLabel bracket.source).bind fun (label, n) =>
    if bracket.place + n == place + 1 then some label else none

/-- Whether a bracket can begin a link or an image. -/
def Bracket.canBegin (bracket : Bracket) (inLink : Bool) : Bool :=
  bracket.isImage || (bracket.isActive && !inLink)

/-- The link or image that a bracket begins which is closed at a place with some text behind it, and
how many characters of that text belong to it. -/
def Reading.linked? (definitions : Definitions) (reading : Reading) (bracket : Bracket)
    (behind : Text) (place : Nat) : Option (Inline × Nat) :=
  if bracket.canBegin reading.inLink then
    (target? definitions (bracket.label? place) behind).bind fun (target, n) =>
      let children :=
        Emphasis.ofParts (reading.levels - 1)
          (reading.items.reverse.map (Item.toPart !bracket.isImage))
      if reading.levels ≤ Inline.heights children then none
      else some (if bracket.isImage then .image children target else .link children target, n)
  else none

/-- Closes a bracket at a place, with some text behind the closing one; gives also how many characters
of it have been read. Where there is no link or image, the brackets are text. -/
def Reading.closeBracket (definitions : Definitions) (reading : Reading) (behind : Text)
    (place : Nat) : Reading × Nat :=
  match reading.brackets with
  | [] => (reading.addText [']'], 0)
  | bracket :: brackets =>
    match reading.linked? definitions bracket behind place with
    | none =>
      let items := reading.items ++ bracket.text :: bracket.before
      (Reading.addText { reading with brackets, items } [']'], 0)
    | some (piece, n) =>
      let brackets :=
        if bracket.isImage then brackets
        else brackets.map fun outer => { outer with isActive := false }
      (Reading.addPiece { reading with brackets, items := bracket.before } piece, n)

/-! ## The reader -/

/-- The length of a bare URL, which is none within a link. Within brackets it goes no further than to
the next closing one. -/
def Reading.bareUrl? (reading : Reading) (t : Text) : Option Nat :=
  if reading.inLink then none
  else
    (Segment.bareUrl? t).map fun n =>
      if reading.brackets.isEmpty then n else (Text.before ']' (t.take n)).length

/-- Reads a segment that begins with an angle bracket; gives also its length. Within a link there is
no URL. The fuel is the most attributes that a tag may have. -/
def Reading.readAngle (reading : Reading) (fuel : Nat) (t : Text) : Reading × Nat :=
  let body (n : Nat) := (t.take n).dropLast.drop 1
  let outside (found : Option Nat) := if reading.inLink then none else found
  match outside (Segment.bracketedUrl? t) with
  | some n => (reading.addUrl (body n) (body n) (t.take n), n)
  | none =>
    match outside (Segment.bracketedMail? t) with
    | some n => (reading.addUrl ("mailto:".toList ++ body n) (body n) (t.take n), n)
    | none =>
      match inlineHtml? fuel t with
      | some n => (reading.addHtml (t.take n), n)
      | none => (reading.addText (t.take 1), 1)

/-- Reads what begins at the beginning of a text, other than deleted text: gives also its length. -/
def Reading.readNext (definitions : Definitions) (reading : Reading) (fuel place : Nat) (t : Text) :
    Reading × Nat :=
  let plain := (reading.addText (t.take 1), 1)
  match t with
  | '\\' :: _ =>
    match Segment.escapes t, Segment.lineBreak? t with
    | n + 1, _ => (reading.addPiece (.literal (unescapeMarks (t.take (n + 1)))), n + 1)
    | 0, some n => (reading.addPiece .lineBreak, n)
    | 0, none => plain
  | '\x60' :: _ =>
    let (piece, n) := Segment.readCode t
    (reading.addPiece piece, n)
  | '[' :: rest => (reading.openBracket false rest (place + 1), 1)
  | '!' :: '[' :: rest => (reading.openBracket true rest (place + 2), 2)
  | ']' :: rest =>
    let (reading, n) := reading.closeBracket definitions rest place
    (reading, n + 1)
  | '<' :: _ => reading.readAngle fuel t
  | ' ' :: _ =>
    match Segment.lineBreak? t, Segment.softBreak? t with
    | some n, _ => (reading.addPiece .lineBreak, n)
    | none, some n => (reading.addPiece .softBreak, n)
    | none, none => plain
  | '\n' :: _ =>
    match Segment.softBreak? t with
    | some n => (reading.addPiece .softBreak, n)
    | none => plain
  | 'h' :: _ =>
    match reading.bareUrl? t with
    | some n => (reading.addUrl (t.take n) (t.take n) (t.take n), n)
    | none => plain
  | c :: _ =>
    if isEmphasisMark c then
      let count := Text.runLength c t
      (reading.add (.part (.marks c count)), count)
    else plain
  | [] => plain

/-- Reads inline markup behind `place` characters. -/
def readFrom (definitions : Definitions) : Nat → Reading → Nat → Text → Reading
  | 0, reading, _, t => reading.addText t
  | _ + 1, reading, _, [] => reading
  | fuel + 1, reading, place, c :: rest =>
    let t := c :: rest
    let deleted? := if Segment.beginsDeletion t then Segment.deletion? (t.drop 2) else none
    let (reading, n) :=
      match deleted? with
      | some n =>
        let inner : Reading := { inLink := reading.inLink, levels := reading.levels - 1 }
        let inner := readFrom definitions fuel inner 0 ((t.drop 2).take n)
        (reading.addPiece (.deleted inner.pieces), n + 4)
      | none => reading.readNext definitions fuel place t
    readFrom definitions fuel reading (place + n) (t.drop n)

/-- The most levels of pieces. -/
def deepest : Nat := 20

/-- Reads the inline markup of a text. Every step of the reader goes on by a character at least, so
the fuel cannot run out before the text does. -/
def read (definitions : Definitions) (t : Text) : List Inline :=
  (readFrom definitions (t.length + 1) { levels := deepest } 0 t).pieces

end Markup
end Markdown
end WikiMarkup
