import WikiMarkup.Code.Fence
import WikiMarkup.Markdown.Inline
import WikiMarkup.Markdown.RawHtml

/-!
# Segments without markup in them

What can stand in a line of text and holds no other markup: escaped marks, code, URLs, line breaks,
and the marks around deleted text. Each reader looks at the beginning of a text and gives the length
of what it has found.
-/

namespace WikiMarkup
namespace Markdown
namespace Segment

/-- The length of a row of escaped punctuation. -/
def escapes : Text → Nat
  | '\\' :: c :: rest => if Text.isPunctuation c then 2 + escapes rest else 0
  | _ => 0

/-! ## Code -/

/-- The text of a code span: its line ends are spaces, and one space at each end is left out if there
is more than spaces in it. -/
def codeText (t : Text) : Text :=
  let code := t.map fun c => if c == '\n' then ' ' else c
  if !(code.all (· == ' ')) && code.head? == some ' ' && code.getLast? == some ' ' then
    code.dropLast.drop 1
  else code

/-- How many characters stand before the run of exactly `size` backticks that closes a code span; the
first argument tells whether a backtick comes just before the text. -/
def closingTicks? (size : Nat) : Bool → Text → Option Nat
  | _, [] => none
  | afterTick, c :: rest =>
    if c == Span.tick && !afterTick && Text.runLength Span.tick (c :: rest) == size then some 0
    else (closingTicks? size (c == Span.tick) rest).map (· + 1)

/-- Reads a code span; a run of backticks that none closes is text. -/
def readCode (t : Text) : Inline × Nat :=
  let size := Text.runLength Span.tick t
  match closingTicks? size false (t.drop size) with
  | some n => (.code (codeText ((t.drop size).take n)), size + n + size)
  | none => (.text (t.take size), size)

/-! ## URLs -/

/-- A character of the scheme of a URL in angle brackets, behind the first. -/
def isSchemeChar (c : Char) : Bool := Text.isLetterOrDigit c || c == '.' || c == '+' || c == '-'

/-- The length of a scheme in an opening angle bracket, with its colon. -/
def scheme? : Text → Option Nat
  | '<' :: c :: rest =>
    let more := (rest.takeWhile isSchemeChar).length
    if Text.isLetter c && 1 ≤ more && more ≤ 31 && (rest.drop more).head? == some ':' then
      some (more + 3)
    else none
  | _ => none

/-- The length of a URL in angle brackets. -/
def bracketedUrl? (t : Text) : Option Nat :=
  (scheme? t).bind fun n =>
    let body := (t.drop n).takeWhile fun c => !(c == '<' || c == '>' || c.toNat ≤ 0x20)
    if (t.drop (n + body.length)).head? == some '>' then some (n + body.length + 1) else none

/-- A character of the part of a mail address before the `@`. -/
def isMailboxChar (c : Char) : Bool :=
  Text.isLetterOrDigit c || ".!#$%&'*+/=?^_\x60\x7b|\x7d~-".toList.contains c

/-- Whether a text is a part of a domain name. -/
def isDomainLabel (t : Text) : Bool :=
  match t with
  | [] => false
  | first :: _ =>
    Text.isLetterOrDigit first && ((t.getLast?.map Text.isLetterOrDigit).getD false) &&
      t.length ≤ 63 && t.all fun c => Text.isLetterOrDigit c || c == '-'

/-- The length of a mail address in angle brackets. -/
def bracketedMail? (t : Text) : Option Nat :=
  match t with
  | '<' :: rest =>
    let mailbox := rest.takeWhile isMailboxChar
    match mailbox, rest.drop mailbox.length with
    | _ :: _, '@' :: rest =>
      let domain := Text.before '>' rest
      if !(rest.drop domain.length).isEmpty && (domain.splitOn '.').all isDomainLabel then
        some (mailbox.length + domain.length + 3)
      else none
    | _, _ => none
  | _ => none

/-- The length of a bare URL: it goes on to white space or to `<`, but does not end with a mark that
closes a sentence or a quotation. -/
def bareUrl? (t : Text) : Option Nat :=
  let body? :=
    match Text.dropPrefix? "https://".toList t with
    | some rest => some (8, rest)
    | none => (Text.dropPrefix? "http://".toList t).map fun rest => (7, rest)
  body?.bind fun (start, rest) =>
    let body := rest.takeWhile fun c => !(Text.isBlank c || c == '<')
    let url := Text.trimEnd (fun c => ".,:;\"')]".toList.contains c) body
    if url.length < 2 then none else some (start + url.length)

/-! ## Line breaks -/

/-- The length of a line break: a backslash or two or more spaces, a line end, and all white space
behind it. -/
def lineBreak? (t : Text) : Option Nat :=
  let start :=
    match t with
    | '\\' :: _ => 1
    | _ => Text.runLength ' ' t
  if t.head? == some '\\' || 2 ≤ start then
    match t.drop start with
    | '\n' :: rest => some (start + 1 + (rest.takeWhile Text.isBlank).length)
    | _ => none
  else none

/-- The length of a line end with the spaces in front of it and all white space behind it. -/
def softBreak? (t : Text) : Option Nat :=
  let spaces := Text.runLength ' ' t
  match t.drop spaces with
  | '\n' :: rest => some (spaces + 1 + (rest.takeWhile Text.isBlank).length)
  | _ => none

/-! ## Deleted text -/

/-- Whether a text begins with the marks that begin deleted text. -/
def beginsDeletion (t : Text) : Bool :=
  match t with
  | '~' :: '~' :: c :: _ => !Text.isBlank c && c != '~'
  | _ => false

/-- The length of deleted text from behind the marks that begin it to before those that end it; the
first argument tells whether the character before the text is an escaping backslash. The marks that end
it stand behind something other than white space and their own mark. Three marks in a row end it only
if the first of them is escaped, and belongs to the deleted text. -/
def deletionFrom? : Bool → Text → Option Nat
  | _, [] => none
  | escaped, c :: rest =>
    let escapes := c == '\\' && !escaped
    let marks := if Text.isBlank c || c == '~' then 0 else Text.runLength '~' rest
    if marks == 3 && escapes then some 2
    else if 2 ≤ marks && marks != 3 then some 1
    else (deletionFrom? escapes rest).map (· + 1)

/-- The length of deleted text from behind the marks that begin it to before those that end it. -/
def deletion? (t : Text) : Option Nat := deletionFrom? false t

/-! ## HTML -/

/-- Whether a link is open behind a segment of HTML, where `inLink` tells whether one is before it. -/
def linkBehind (inLink : Bool) (html : Text) : Bool :=
  let begins (starts : List String) := starts.any fun start => Text.startsWith start.toList html
  if begins ["<a ", "<a>", "<A ", "<A>"] then true
  else if begins ["</a ", "</a>", "</A ", "</A>"] then false
  else inLink

end Segment
end Markdown
end WikiMarkup
