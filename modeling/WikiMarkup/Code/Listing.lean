import WikiMarkup.Fault
import WikiMarkup.Text.Casing
import WikiMarkup.Text.Entity

/-!
# Code listings

The HTML of a block of code in some language. A highlighter sets the code of the languages that it
knows; any other code is escaped and otherwise left alone.
-/

namespace WikiMarkup
namespace Listing

/-- Languages that have another name. -/
def aliases : List (String × String) :=
  [("htmlcb", "html"), ("latte", "html"), ("javascript", "js")]

/-- A highlighter: for the name of a language that it knows, how its code is written as HTML. -/
abbrev Highlighter := Text → Option (Text → Text)

/-- The name of a language: in lower case, and the usual one of several. -/
def languageName (language : Text) : Text :=
  let name := Casing.lower language
  match aliases.find? fun entry => entry.1.toList == name with
  | some (_, usual) => usual.toList
  | none => name

/-- The HTML of a listing. -/
def render (highlighter : Highlighter) (code language : Text) : Text :=
  let name := languageName language
  let content :=
    match if name.isEmpty then none else highlighter name with
    | some highlight => highlight code
    | none => Entity.escape code
  "<pre class=\"src-".toList ++ name ++ "\"><code>".toList ++ content ++
    "</code></pre>\n".toList

/-- The language of a block of code: the first word of its description. A description of white space
only has none. -/
def language (description : Text) : Except Fault Text :=
  match description with
  | [] => .ok []
  | _ =>
    match Text.words description with
    | [] => .error .blankLanguage
    | word :: _ => .ok word

/-- The HTML of a listing with a description. -/
def ofBlock (highlighter : Highlighter) (code description : Text) : Except Fault Text := do
  return render highlighter code (← language description)

/-! ## Code as lines -/

/-- A text in which only line feeds end lines; a carriage return does in front of one or alone. -/
def unifyLineEnds : Text → Text
  | '\x0d' :: '\n' :: rest => '\n' :: unifyLineEnds rest
  | '\x0d' :: rest => '\n' :: unifyLineEnds rest
  | c :: rest => c :: unifyLineEnds rest
  | [] => []

/-- The mark of the order of bytes, which can stand at the beginning of a file. -/
def byteOrderMark : Char := '\ufeff'

/-- Code as lines: no mark of the order of bytes and no line end at the beginning, one line end at the
end. -/
def asLines (code : Text) : Text :=
  let code := if code.head? == some byteOrderMark then code.drop 1 else code
  Text.trimChar '\n' (unifyLineEnds code) ++ ['\n']

/-- The languages whose code is set as lines. -/
def linedLanguages : List String := ["text", "html", "js"]

/-- The highlighter that sets the code of some languages as lines, and marks nothing in it. -/
def setLines : Highlighter := fun name =>
  if linedLanguages.any (·.toList == name) then some fun code => Entity.escapeContent (asLines code)
  else none

end Listing
end WikiMarkup
