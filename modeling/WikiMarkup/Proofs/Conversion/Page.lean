import WikiMarkup.Conversion.Convert
import WikiMarkup.Proofs.Conversion.Run

/-!
# Pages as runs

Converting a page is a run: whatever is written on it, all that its parts do to what has been
collected is done by calls, one after the other. So what holds after every run holds of every page,
and a page is reported as its run is concluded.
-/

namespace WikiMarkup
namespace Conversion

open Conversion.Action WikiMarkup.Markdown

/-- Some calls lead from one state to the other. -/
def Reaches (setup : Setup) (s t : State) : Prop := ∃ calls, t = run setup calls s

instance (setup : Setup) : IsPreorder State (Reaches setup) where
  refl _ := ⟨[], rfl⟩
  trans := by
    rintro s _ _ ⟨calls, rfl⟩ ⟨more, rfl⟩
    exact ⟨calls ++ more, (run_append setup calls more s).symm⟩

variable (setup : Setup)

theorem reaches_perform (call : Call) (s : State) : Reaches setup s (call.perform setup s) :=
  ⟨[call], rfl⟩

/-! ## The parts of a page -/

theorem reaches_link (content url : Text) (title : Option Text) :
    Moves (Reaches setup) (link setup content url title) :=
  moves_bind (reaches_perform setup (.linkUrl url content)) fun _ => moves_pure _

theorem reaches_image (description url : Text) (title : Option Text) :
    Moves (Reaches setup) (image setup description url title) :=
  moves_bind (reaches_perform setup (.imageUrl url)) fun _ => moves_pure _

theorem reaches_heading (content : Text) (level : Int) :
    Moves (Reaches setup) (heading content level) :=
  moves_bind (reaches_perform setup (.heading content level)) fun _ => moves_pure _

mutual

theorem reaches_renderInline : ∀ piece : Inline, Moves (Reaches setup) (renderInline setup piece)
  | .text _ | .literal _ | .code _ | .html _ | .lineBreak | .softBreak => by
    unfold renderInline
    exact moves_pure _
  | .emphasis children | .strong children | .deleted children => by
    unfold renderInline
    exact moves_bind (reaches_renderInlines children) fun _ => moves_pure _
  | .link children target => by
    unfold renderInline
    exact moves_bind (reaches_renderInlines children) fun content =>
      reaches_link setup content target.url target.title
  | .image children target => by
    unfold renderInline
    exact moves_bind (reaches_renderInlines children) fun description =>
      reaches_image setup description target.url target.title

theorem reaches_renderInlines :
    ∀ pieces : List Inline, Moves (Reaches setup) (renderInlines setup pieces)
  | [] => by
    unfold renderInlines
    exact moves_pure _
  | piece :: pieces => by
    unfold renderInlines
    exact moves_bind (reaches_renderInline piece) fun _ =>
      moves_bind (reaches_renderInlines pieces) fun _ => moves_pure _

end

section Blocks

variable (definitions : Definitions)

theorem reaches_renderText (t : Text) :
    Moves (Reaches setup) (renderText setup definitions t) :=
  reaches_renderInlines setup _

theorem reaches_renderCell (name : String) (cell : Cell) :
    Moves (Reaches setup) (renderCell setup definitions name cell) :=
  moves_bind (reaches_renderText setup definitions cell.text) fun _ => moves_pure _

theorem reaches_renderCells (name : String) :
    ∀ cells : List Cell, Moves (Reaches setup) (renderCells setup definitions name cells)
  | [] => moves_pure _
  | cell :: cells =>
    moves_bind (reaches_renderCell setup definitions name cell) fun _ =>
      moves_bind (reaches_renderCells name cells) fun _ => moves_pure _

theorem reaches_renderRows :
    ∀ rows : List (List Cell), Moves (Reaches setup) (renderRows setup definitions rows)
  | [] => moves_pure _
  | row :: rows =>
    moves_bind (reaches_renderCells setup definitions "td" row) fun _ =>
      moves_bind (reaches_renderRows rows) fun _ => moves_pure _

theorem reaches_renderTable (table : Table) :
    Moves (Reaches setup) (renderTable setup definitions table) :=
  moves_bind (reaches_renderCells setup definitions "th" table.headings) fun _ =>
    moves_bind (reaches_renderRows setup definitions table.rows) fun _ => moves_pure _

mutual

theorem reaches_renderBlock :
    ∀ block : Block, Moves (Reaches setup) (renderBlock setup definitions block)
  | .blank | .rule | .html _ => by
    unfold renderBlock
    exact moves_pure _
  | .code source description => by
    unfold renderBlock
    exact moves_ofExcept _
  | .heading level text => by
    unfold renderBlock
    exact moves_bind (reaches_renderText setup definitions text) fun content =>
      reaches_heading setup content level
  | .paragraph text => by
    unfold renderBlock
    exact moves_bind (reaches_renderText setup definitions text) fun _ => moves_pure _
  | .line text => by
    unfold renderBlock
    exact reaches_renderText setup definitions text
  | .quote children => by
    unfold renderBlock
    exact moves_bind (reaches_renderBlocks children) fun _ => moves_pure _
  | .list ordered start items => by
    unfold renderBlock
    exact moves_bind (reaches_renderItems items) fun _ => moves_pure _
  | .table table => by
    unfold renderBlock
    exact reaches_renderTable setup definitions table

theorem reaches_renderBlocks :
    ∀ blocks : List Block, Moves (Reaches setup) (renderBlocks setup definitions blocks)
  | [] => by
    unfold renderBlocks
    exact moves_pure _
  | block :: blocks => by
    unfold renderBlocks
    exact moves_bind (reaches_renderBlock block) fun _ =>
      moves_bind (reaches_renderBlocks blocks) fun _ => moves_pure _

theorem reaches_renderItems :
    ∀ items : List (List Block), Moves (Reaches setup) (renderItems setup definitions items)
  | [] => by
    unfold renderItems
    exact moves_pure _
  | item :: items => by
    unfold renderItems
    exact moves_bind (reaches_renderBlocks item) fun _ =>
      moves_bind (reaches_renderItems items) fun _ => moves_pure _

end

end Blocks

/-! ## Whole pages -/

theorem reaches_prepare (t : Text) : Moves (Reaches setup) (prepare setup t) :=
  moves_bind (reaches_perform setup (.scripts (Shield.protect t).text)) fun u =>
    moves_bind (reaches_perform setup (.references u)) fun _ => moves_ofExcept _

/-- What is reported of a page with some HTML once some calls have been made. -/
def concluded (calls : List Call) (html : Text) : Report :=
  (conclude setup html (run setup calls {})).2.report html

/-- A page that is converted, perhaps behind some calls, is reported as the conclusion of a run that
goes on from these. -/
theorem convert_concluded {before : List Call} {t : Text} {report : Report}
    (h : (convert setup t (run setup before {})).1 = .ok report) :
    ∃ calls html, report = concluded setup (before ++ calls) html := by
  generalize hstart : run setup before {} = s at h
  change ((prepare setup t).andThen (fun u => (renderPage setup u).andThen fun html =>
    (conclude setup html).andThen fun _ => look (·.report html)) s).1 = .ok report at h
  -- a page is reported only if both of its passes end well
  cases hprepare : (prepare setup t s).1 with
  | error fault =>
    rw [andThen_error hprepare] at h
    cases h
  | ok u =>
    rw [andThen_ok hprepare] at h
    cases hrender : (renderPage setup u (prepare setup t s).2).1 with
    | error fault =>
      rw [andThen_error hrender] at h
      cases h
    | ok html =>
      rw [andThen_ok hrender] at h
      obtain ⟨calls, hcalls⟩ := trans_of (Reaches setup) (reaches_prepare setup t s)
        (reaches_renderBlocks setup _ _ (prepare setup t s).2)
      refine ⟨calls, html, ?_⟩
      rw [concluded, run_append, hstart, ← hcalls]
      exact (Except.ok.inj h).symm

end Conversion
end WikiMarkup
