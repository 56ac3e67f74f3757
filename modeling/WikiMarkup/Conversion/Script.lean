import WikiMarkup.Conversion.Link

/-!
# Scripts

A script is a command between double braces that sets something about the page and leaves nothing in
its text: `command`, `command: arguments` or `command(arguments)`. Arguments are separated by commas.
-/

namespace WikiMarkup

/-- A command with its arguments. -/
structure Command where
  name : Text
  /-- What is written behind the name. -/
  raw : Text
deriving DecidableEq, Repr

namespace Command

/-- A character that a command's name can begin with. -/
def isNameStart (c : Char) : Bool := Text.isCasedLetter c || c == '_'

/-- A character of a command's name. -/
def isNameChar (c : Char) : Bool := isNameStart c || Text.isDigit c || c == '-'

/-- What is written behind a command's name: nothing, or text behind a colon, or text in
parentheses. -/
def readRaw (t : Text) : Option Text :=
  match Text.trim t with
  | [] => some []
  | ':' :: raw => some raw
  | '(' :: raw => if raw.getLast? == some ')' then some raw.dropLast else none
  | _ => none

/-- Reads the command that stands between braces. -/
def read (body : Text) : Option Command :=
  let t := Text.trim body
  let name := t.takeWhile isNameChar
  match name with
  | [] => none
  | first :: _ =>
    if isNameStart first then
      (readRaw (t.drop name.length)).map fun raw => ⟨name, Text.trim raw⟩
    else none

/-- The arguments of a command. -/
def arguments (raw : Text) : List Text :=
  if raw.isEmpty then [] else (raw.splitOn ',').map Text.trim

/-- What a page can say in a script. -/
inductive Kind where
  | nofollow
  | title
  | lang
  | tags
  | contents
  | sidebar
  | themeIcon
  | theme
  | mainTitle
deriving DecidableEq, Repr

/-- The names of the commands. -/
def names : List (String × Kind) :=
  [("nofollow", .nofollow), ("title", .title), ("lang", .lang), ("tags", .tags),
   ("toc", .contents), ("sidebar", .sidebar), ("themeicon", .themeIcon), ("theme", .theme),
   ("maintitle", .mainTitle)]

/-- The command of a name, if there is one. -/
def kind? (name : Text) : Option Kind :=
  (names.find? fun entry => entry.1.toList == name).map (·.2)

end Command

/-- A script: its text with the braces, and the text between them. -/
structure Script where
  source : Text
  body : Text
deriving DecidableEq, Repr

namespace Script

/-- A character that can stand in a script. -/
def isBodyChar (c : Char) : Bool := !(c == '\x7b' || c == '\x7d' || c == '\n')

/-- Recognises a script. -/
def recognise : Recogniser Script := fun _ t =>
  match t with
  | '\x7b' :: '\x7b' :: rest =>
    let body := rest.takeWhile isBodyChar
    match body, rest.drop body.length with
    | _ :: _, '\x7d' :: '\x7d' :: _ => some (⟨t.take (body.length + 4), body⟩, body.length + 4)
    | _, _ => none
  | _ => none

end Script

namespace Conversion

/-- The word that switches something off. -/
def no : Text := "no".toList

/-- Runs a command. A page's language version is recorded if its name leads to a page. -/
def runCommand (setup : Setup) (name : Text) (args : List Text) (raw : Text) : Action Unit :=
  match Command.kind? name with
  | some .nofollow => Action.change fun s => { s with nofollow := args.head? != some no }
  | some .title => Action.change fun s => { s with title := some raw }
  | some .lang =>
    match args with
    | [] => pure ()
    | token :: _ => do
      match ← resolve setup token with
      | .page ref =>
        Action.record fun session =>
          { session with langs := session.langs ++ [Address.indexEntry ref] }
      | .url _ => pure ()
  | some .tags =>
    Action.record fun session =>
      { session with tags := session.tags ++ args.filter fun tag => !tag.isEmpty }
  | some .contents =>
    Action.change fun s =>
      { s with contentsMode := if raw == no then .off else .asked raw }
  | some .sidebar => Action.change fun s => { s with sidebar := some (raw != no) }
  | some .themeIcon =>
    Action.change fun s =>
      { s with
        themeIcon := if raw.isEmpty then none else some (setup.site.mediaUrl ++ '/' :: raw) }
  | some .theme =>
    Action.change fun s =>
      { s with
        headingTop := if raw == homepage then 2 else s.headingTop
        theme := some raw }
  | some .mainTitle => Action.change fun s => { s with mainTitle := some raw }
  | none =>
    Action.record fun session =>
      { session with
        errors := session.errors ++
          ["Unknown \x7b\x7b".toList ++ name ++ "\x7d\x7d".toList] }

/-- Runs a script and gives what it leaves in the text: nothing, or its own text if it is no
command. -/
def script (setup : Setup) (s : Script) : Action Text :=
  match Command.read s.body with
  | none => pure s.source
  | some command => do
    runCommand setup command.name (Command.arguments command.raw) command.raw
    return []

/-- Runs the scripts of a text and takes them out of it. -/
def scripts (setup : Setup) (t : Text) : Action Text :=
  Action.replacePieces (script setup) (Text.scan Script.recognise t)

end Conversion
end WikiMarkup
