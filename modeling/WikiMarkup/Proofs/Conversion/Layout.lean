import WikiMarkup.Proofs.Conversion.Declaration
import WikiMarkup.Proofs.Conversion.Heading

/-!
# The layout of a page

What the commands of a run say about the title of the page and its headings, whatever other calls
come between them. For the title, the theme and the table of contents the last command counts. The
headings are moved down by a command for the theme of the first page, and no command moves them up
again: so their level need not go with the theme once another one has been set.
-/

namespace WikiMarkup
namespace Conversion

/-! ## Commands of a run -/

/-- The commands that a call runs. -/
def Call.commands (setup : Setup) : Call → List Command
  | .command name _ raw => [⟨name, raw⟩]
  | .scripts t => performed setup t
  | .resolve _ | .pageUrl _ | .linkUrl _ _ | .imageUrl _ | .references _ | .heading _ _ => []

/-- The commands of a run, one after the other. -/
def commands (setup : Setup) (calls : List Call) : List Command :=
  calls.flatMap (Call.commands setup)

/-- The themes that commands set, one after the other. -/
def themes (commands : List Command) : List Text :=
  (commands.filter (Command.isOf .theme)).map (·.raw)

theorem themes_concat (commands : List Command) (c : Command) :
    themes (commands ++ [c]) = themes commands ++ if c.isOf .theme then [c.raw] else [] := by
  unfold themes
  by_cases h : c.isOf .theme = true
  · rw [List.filter_append, List.filter_cons_of_pos h, List.filter_nil, List.map_append, if_pos h]
    rfl
  · rw [List.filter_append, List.filter_cons_of_neg h, List.filter_nil, List.append_nil, if_neg h,
      List.append_nil]

/-! ## Layouts -/

/-- What a page says about its title and its headings. -/
structure Layout where
  title : Option Text
  theme : Option Text
  contentsMode : ContentsMode
  /-- The level of a heading of the first level. -/
  headingTop : Int
deriving DecidableEq, Repr

/-- What a page has said so far about its title and its headings. -/
def State.layout (s : State) : Layout where
  title := s.title
  theme := s.theme
  contentsMode := s.contentsMode
  headingTop := s.headingTop

/-- What commands say about the title and the headings of a page: the last of each kind counts, but
for the level of the headings any theme of the first page does. -/
def laidOut (commands : List Command) : Layout where
  title := lastRaw .title commands
  theme := (themes commands).getLast?
  contentsMode := (lastRaw .contents commands).elim .byLength contentsOf
  headingTop := if homepage ∈ themes commands then 2 else 1

/-- The layout stays as it is. -/
def KeepsLayout (s t : State) : Prop := t.layout = s.layout

instance : IsPreorder State KeepsLayout where
  refl _ := rfl
  trans _ _ _ hst htu := htu.trans hst

theorem keepsLayout_session (s : State) (f : Session → Session) :
    KeepsLayout s { s with session := f s.session } := rfl

variable {setup : Setup} {before : List Command} {s : State}

/-- One more command counts for its kind. -/
theorem layout_command (h : s.layout = laidOut before) (name : Text) (args : List Text)
    (raw : Text) :
    (runCommand setup name args raw s).2.layout = laidOut (before ++ [⟨name, raw⟩]) := by
  have hof : ∀ kind, Command.isOf kind ⟨name, raw⟩ = (Command.kind? name == some kind) :=
    fun kind => rfl
  simp only [State.layout, laidOut, Layout.mk.injEq] at h ⊢
  simp only [themes_concat, lastRaw_concat, hof]
  cases hkind : Command.kind? name with
  | none => simpa [runCommand, hkind, Action.record, Action.change] using h
  | some kind =>
    cases kind with
    | lang =>
      have hkeeps := moves_lang keepsLayout_session setup hkind args raw s
      simp only [KeepsLayout, State.layout, Layout.mk.injEq] at hkeeps
      simp [hkeeps, h]
    | theme =>
      -- the level is moved down for the first page, and else stays where it was
      by_cases hraw : raw = homepage
      · simp [runCommand, hkind, Action.change, h, hraw]
      · simp [runCommand, hkind, Action.change, h, hraw, Ne.symm hraw]
    | contents => simp [runCommand, hkind, Action.change, h, contentsOf]
    | _ => simp [runCommand, hkind, Action.change, Action.record, h]

theorem layout_commands (h : s.layout = laidOut before) (more : List Command) :
    (run setup (more.map Command.call) s).layout = laidOut (before ++ more) := by
  induction more generalizing before s with
  | nil => rwa [List.append_nil]
  | cons c more ih =>
    have hfirst : (c.call.perform setup s).layout = laidOut (before ++ [c]) :=
      layout_command h c.name (Command.arguments c.raw) c.raw
    rw [List.append_cons]
    exact ih hfirst

/-- A call says what its commands say. -/
theorem Call.layout_perform (h : s.layout = laidOut before) (call : Call) :
    (call.perform setup s).layout = laidOut (before ++ call.commands setup) := by
  have hkeeps : KeepsLayout s (call.perform setup s) → call.commands setup = [] →
      (call.perform setup s).layout = laidOut (before ++ call.commands setup) := by
    intro hkeeps hnone
    rw [hnone, List.append_nil]
    exact Eq.trans hkeeps h
  cases call with
  | command name args raw => exact layout_command h name args raw
  | scripts t =>
    rw [Call.perform, scripts_snd]
    exact layout_commands h (performed setup t)
  | heading html level => exact hkeeps (moves_addHeading (fun _ _ _ => rfl) html level s) rfl
  | _ => exact hkeeps (Call.moves_perform keepsLayout_session rfl setup s) rfl

/-- What a page says about its title and its headings is what the commands of the run say. -/
theorem layout_run (setup : Setup) (calls : List Call) :
    (run setup calls {}).layout = laidOut (commands setup calls) := by
  induction calls using List.reverseRecOn with
  | nil => rfl
  | append_singleton calls call ih =>
    rw [run_append, commands, List.flatMap_append, List.flatMap_singleton]
    exact call.layout_perform ih

/-! ## Levels and themes -/

/-- In every run the theme is the last that was set, and a heading is a level lower if any theme was
that of the first page. So the levels agree with the theme exactly if that of the first page was never
set, or is the last that was. -/
theorem shifted_iff_themed (setup : Setup) (calls : List Call) :
    let s := run setup calls {}
    let chosen := themes (commands setup calls)
    s.theme = chosen.getLast? ∧
      (∀ html level, (addHeading html level s).1.map Prod.fst = (headingTitle html).map fun _ =>
        min (if homepage ∈ chosen then level + 1 else level) lowestLevel) ∧
      ((s.headingTop = 2 ↔ s.theme = some homepage) ↔
        (homepage ∈ chosen → chosen.getLast? = some homepage)) := by
  intro s chosen
  have hlayout : s.layout = laidOut (commands setup calls) := layout_run setup calls
  have htheme : s.theme = chosen.getLast? := congrArg Layout.theme hlayout
  have htop : s.headingTop = if homepage ∈ chosen then 2 else 1 :=
    congrArg Layout.headingTop hlayout
  refine ⟨htheme, fun html level => ?_, ?_⟩
  · have hlevel : outputLevel s level =
        min (if homepage ∈ chosen then level + 1 else level) lowestLevel := by
      rw [outputLevel, htop]
      split <;> congr 1 <;> omega
    rw [addHeading_level, hlevel]
  · rw [htheme, htop]
    by_cases hmem : homepage ∈ chosen
    · simp [hmem]
    · have hlast : chosen.getLast? ≠ some homepage := fun h => hmem (List.mem_of_getLast? h)
      simp [hmem, hlast]

/-- A page that takes another theme behind that of the first page: its headings stay a level lower. -/
theorem shifted_unthemed :
    let setup : Setup := .bare ⟨"doc".toList, "en".toList, homepage⟩
    let s := run setup
      [.scripts "\x7b\x7btheme: homepage\x7d\x7d\x7b\x7btheme: dark\x7d\x7d".toList] {}
    s.theme = some "dark".toList ∧
      (addHeading "Welcome".toList 1 s).1 = .ok (2, some "toc-welcome".toList) ∧
      ¬ (s.headingTop = 2 ↔ s.theme = some homepage) := by
  decide +kernel

end Conversion
end WikiMarkup
