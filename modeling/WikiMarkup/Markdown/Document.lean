import WikiMarkup.Markdown.Inline
import WikiMarkup.Markdown.Table

/-!
# Pages as trees

What a page in Markdown is read as: a tree of blocks, and the inline markup of a block as a tree of its
own. How a page is read is not settled here. Whatever gives such trees is a reader, and a conversion
works with any.
-/

namespace WikiMarkup
namespace Markdown

/-- A block. -/
inductive Block where
  | blank
  | rule
  | code (source : Text) (description : Option Text)
  | heading (level : Nat) (text : Text)
  | paragraph (text : Text)
  /-- A paragraph of a list without blank lines. -/
  | line (text : Text)
  | quote (children : List Block)
  /-- A list, with its first number if it is numbered and does not start with one. -/
  | list (ordered : Bool) (start : Option Nat) (items : List (List Block))
  | html (source : Text)
  | table (table : Table)
deriving Repr

/-- A page as blocks, with its definitions. -/
structure Document where
  blocks : List Block
  definitions : Definitions
deriving Repr

/-- A reader of Markdown: how it takes a page apart into blocks, and the text of a block, with the
definitions of the page, into inline markup. -/
structure Reader where
  document : Text → Document
  inlines : Definitions → Text → List Inline

end Markdown
end WikiMarkup
