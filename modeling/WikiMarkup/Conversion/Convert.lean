import WikiMarkup.Code.Shield
import WikiMarkup.Conversion.Reference
import WikiMarkup.Conversion.Render
import WikiMarkup.Conversion.Script

/-!
# Converting a page

A page is converted in two passes over its text and one over its blocks: with its code put aside its
scripts are run and its references are replaced; then the code is put back, and the page is read and
written as HTML.
-/

namespace WikiMarkup

/-- The HTML of a page, and all that the page declares or links to. -/
structure Report where
  html : Text
  title : Option Text := none
  mainTitle : Option Text := none
  theme : Option Text := none
  themeIcon : Option Text := none
  sidebar : Option Bool := none
  contents : List Heading := []
  links : List PageRef := []
  langs : List PageRef := []
  tags : List Text := []
  errors : List Text := []
deriving DecidableEq, Repr

namespace Conversion

/-- Runs the scripts of a page and replaces its references, outside of its code. -/
def prepare (setup : Setup) (t : Text) : Action Text := do
  let shielded := Shield.protect t
  let t ← scripts setup shielded.text
  let t ← references setup t
  Action.ofExcept (Shield.restore { shielded with text := t })

/-- Gives a page the title of its first heading, if it has none, and its table of contents. -/
def conclude (setup : Setup) (html : Text) : Action Unit :=
  Action.change fun s =>
    { s with
      title := s.title.or (s.headings.head?.map (·.title))
      contents := contentsFor setup s html.length }

/-- What has been found about a page with some HTML. -/
def State.report (s : State) (html : Text) : Report where
  html := html
  title := s.title
  mainTitle := s.mainTitle
  theme := s.theme
  themeIcon := s.themeIcon
  sidebar := s.sidebar
  contents := s.contents
  links := s.session.links
  langs := s.session.langs
  tags := s.session.tags
  errors := s.session.errors

/-- Converts a page. -/
def convert (setup : Setup) (t : Text) : Action Report := do
  let html ← renderPage setup (← prepare setup t)
  conclude setup html
  Action.look (·.report html)

end Conversion
end WikiMarkup
