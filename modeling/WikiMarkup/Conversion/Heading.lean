import WikiMarkup.Conversion.Basic
import WikiMarkup.Text.Entity

/-!
# Headings

Every heading of a page with words in it gets an anchor that no other heading has, and a place in the
table of contents.
-/

namespace WikiMarkup
namespace Conversion

/-- The lowest level of a heading in HTML. -/
def lowestLevel : Int := 6

/-- The level of a heading in the HTML of the page. -/
def outputLevel (s : State) (level : Int) : Int := min (level + s.headingTop - 1) lowestLevel

/-- The text of a heading: its HTML without tags and references and the space around it. -/
def headingTitle (html : Text) : Except Fault Text := do
  return Text.trim (← Entity.unescape (Tag.strip html))

/-- An anchor with a number behind it. -/
def numbered (anchor : Text) (n : Nat) : Text := anchor ++ '-' :: Digit.write n

/-- The first number from `n` on that is not among the `count` numbers that are taken. A number that is
passed need not be looked for again. -/
def firstFree : Nat → List Text → Nat → Nat
  | 0, _, n => n
  | count + 1, taken, n =>
    let digits := Digit.write n
    if taken.contains digits then firstFree count (taken.erase digits) (n + 1) else n

/-- The anchor that a heading gets where others are in use: its own, or else its own with the first
number from two on that is free. -/
def freeAnchor (used : List Text) (anchor : Text) : Text :=
  if used.contains anchor then
    let taken := used.filterMap (Text.dropPrefix? (anchor ++ ['-']))
    numbered anchor (firstFree taken.length taken 2)
  else anchor

/-- Registers a heading; gives its level in the HTML, and its anchor if it has words. -/
def addHeading (html : Text) (level : Int) : Action (Int × Option Text) := do
  let level ← Action.look (outputLevel · level)
  let title ← Action.ofExcept (headingTitle html)
  let slug := Slug.ofHeading title
  if slug.isEmpty then return (level, none)
  else
    let anchor ← Action.look fun s => freeAnchor s.anchors (Anchor.mark ++ slug)
    Action.change fun s =>
      { s with
        anchors := s.anchors ++ [anchor]
        headings := s.headings ++ [⟨level, title, anchor⟩] }
    return (level, some anchor)

/-- The mode of the table of contents in which the first heading is its title. -/
def titleMode : Text := "title".toList

/-- Whether a page with HTML of some length gets a table of contents. -/
def wantsContents (setup : Setup) (s : State) (length : Nat) : Bool :=
  match s.contentsMode with
  | .byLength => setup.contentsThreshold < length
  | .off => false
  | .asked mode => !mode.isEmpty

/-- The table of contents of a page with HTML of some length. The first heading is the title of the
page: it is left out, or else stands out by one level. -/
def contentsFor (setup : Setup) (s : State) (length : Nat) : List Heading :=
  if wantsContents setup s length then
    match s.headings.filter fun h => !h.title.isEmpty with
    | [] => []
    | first :: rest =>
      if s.contentsMode == .asked titleMode then { first with level := first.level + 1 } :: rest
      else rest
  else []

end Conversion
end WikiMarkup
