import Mathlib.Order.Defs.Unbundled
import WikiMarkup.Conversion.Heading
import WikiMarkup.Conversion.Reference
import WikiMarkup.Conversion.Script

/-!
# Runs of a conversion

What the parts of a page ask of a conversion are calls, and a run is any sequence of them; a call
that fails leaves its state to the next. What a call leaves alone is shown action by action: an
action moves along a relation between states if it does so whether it succeeds or fails, and a
composed action moves along it if its parts do.
-/

namespace WikiMarkup
namespace Conversion

namespace Action

/-- Whether an action leads from every state to a related one, whether it succeeds or fails. -/
def Moves {α : Type} (R : State → State → Prop) (a : Action α) : Prop := ∀ s, R s (a s).2

theorem moves_change {R : State → State → Prop} {f : State → State} (h : ∀ s, R s (f s)) :
    Moves R (change f) := h

section Moves

variable {α β : Type} {R : State → State → Prop} [IsPreorder State R]

theorem moves_pure (a : α) : Moves R (pure a : Action α) := fun s => refl_of R s

theorem moves_ofExcept (r : Except Fault α) : Moves R (ofExcept r) := fun s => refl_of R s

theorem moves_look (f : State → α) : Moves R (look f) := fun s => refl_of R s

theorem moves_bind {a : Action α} {f : α → Action β} (ha : Moves R a) (hf : ∀ x, Moves R (f x)) :
    Moves R (a >>= f) := by
  intro s
  have hfirst : R s (a s).2 := ha s
  show R s (andThen a f s).2
  unfold andThen
  split
  · rename_i x t heq
    rw [heq] at hfirst
    exact trans_of R hfirst (hf x t)
  · rename_i e t heq
    rw [heq] at hfirst
    exact hfirst

/-- Running an action for each segment of a text moves along what the action moves along. -/
theorem moves_replacePieces {act : α → Action Text} (h : ∀ a, Moves R (act a)) :
    ∀ pieces : List (Piece α), Moves R (replacePieces act pieces)
  | [] => moves_pure []
  | .plain c :: pieces =>
    moves_bind (moves_replacePieces h pieces) fun rest => moves_pure (c :: rest)
  | .found a :: pieces =>
    moves_bind (h a) fun t =>
      moves_bind (moves_replacePieces h pieces) fun rest => moves_pure (t ++ rest)

end Moves

/-! ## Actions for segments -/

section Segments

variable {α β : Type}

theorem andThen_ok {first : Action α} {next : α → Action β} {s : State} {a : α}
    (h : (first s).1 = .ok a) : first.andThen next s = next a (first s).2 := by
  unfold andThen
  rw [← Prod.eta (first s), h]

theorem andThen_error {first : Action α} {next : α → Action β} {s : State} {fault : Fault}
    (h : (first s).1 = .error fault) : first.andThen next s = (.error fault, (first s).2) := by
  unfold andThen
  rw [← Prod.eta (first s), h]

theorem andThen_give (first : Action α) (f : α → β) (s : State) :
    first.andThen (fun a => give (f a)) s = ((first s).1.map f, (first s).2) := by
  cases h : (first s).1 with
  | ok a => rw [andThen_ok h]; rfl
  | error fault => rw [andThen_error h]; rfl

/-- Whether an action for each of some things succeeds for those in `succeeds`, whatever the state,
and fails for the others, where it changes nothing. -/
structure Decides (act : α → Action β) (succeeds : α → Bool) : Prop where
  ok : ∀ {a : α}, succeeds a = true → ∀ s, ∃ b, (act a s).1 = .ok b
  error : ∀ {a : α}, succeeds a = false → ∀ s, ∃ fault, act a s = (.error fault, s)

variable {act : α → Action Text} {succeeds : α → Bool}

theorem replacePieces_plain (c : Char) (pieces : List (Piece α)) (s : State) :
    replacePieces act (.plain c :: pieces) s =
      ((replacePieces act pieces s).1.map (c :: ·), (replacePieces act pieces s).2) := by
  rw [replacePieces, andThen_give]

theorem replacePieces_found {a : α} {t : Text} {s : State} (h : (act a s).1 = .ok t)
    (pieces : List (Piece α)) :
    replacePieces act (.found a :: pieces) s =
      ((replacePieces act pieces (act a s).2).1.map (t ++ ·),
        (replacePieces act pieces (act a s).2).2) := by
  rw [replacePieces, andThen_ok h, andThen_give]

theorem replacePieces_fails {a : α} {s s' : State} {fault : Fault}
    (h : act a s = (.error fault, s')) (pieces : List (Piece α)) :
    replacePieces act (.found a :: pieces) s = (.error fault, s') := by
  rw [replacePieces, andThen_error (by rw [h]), h]

/-- A text that is one segment is replaced by what the action for the segment gives. -/
theorem replacePieces_singleton (a : α) (s : State) :
    replacePieces act [.found a] s = act a s := by
  have happend : ∀ r : Except Fault Text, r.map (· ++ []) = r := by
    intro r
    cases r with
    | error fault => rfl
    | ok t => exact congrArg Except.ok (List.append_nil t)
  show (act a).andThen (fun t => give (t ++ [])) s = act a s
  rw [andThen_give, happend]

/-- The segments of a text take their steps one after the other, up to the first that fails. -/
theorem replacePieces_snd (h : Decides act succeeds) (pieces : List (Piece α)) (s : State) :
    (replacePieces act pieces s).2 =
      ((pieces.filterMap Piece.segment?).takeWhile succeeds).foldl (fun s a => (act a s).2) s := by
  induction pieces generalizing s with
  | nil => rfl
  | cons piece pieces ih =>
    cases piece with
    | plain c => rw [replacePieces_plain, ih]; rfl
    | found a =>
      show _ = ((a :: pieces.filterMap Piece.segment?).takeWhile succeeds).foldl _ s
      cases ha : succeeds a with
      | false =>
        obtain ⟨fault, hfault⟩ := h.error ha s
        rw [replacePieces_fails hfault, List.takeWhile_cons_of_neg (by simp [ha]), List.foldl_nil]
      | true =>
        obtain ⟨t, ht⟩ := h.ok ha s
        rw [replacePieces_found ht, ih, List.takeWhile_cons_of_pos ha, List.foldl_cons]

theorem toOption_map (r : Except Fault α) (f : α → β) :
    (r.map f).toOption = r.toOption.map f := by
  cases r <;> rfl

/-- Running an action for each segment of a text succeeds exactly if it succeeds for each of them,
and then gives the text with the results in their places. -/
theorem replacePieces_toOption (h : Decides act succeeds) {write : α → Text}
    (hwrite : ∀ a s t, (act a s).1 = .ok t → t = write a) (pieces : List (Piece α)) (s : State) :
    (replacePieces act pieces s).1.toOption =
      if (pieces.filterMap Piece.segment?).all succeeds then
        some (pieces.flatMap (Piece.text write)) else none := by
  induction pieces generalizing s with
  | nil => rfl
  | cons piece pieces ih =>
    cases piece with
    | plain c =>
      rw [replacePieces_plain, toOption_map, ih, apply_ite (Option.map (c :: ·))]
      rfl
    | found a =>
      show _ = if (a :: pieces.filterMap Piece.segment?).all succeeds then _ else none
      cases ha : succeeds a with
      | false =>
        obtain ⟨fault, hfault⟩ := h.error ha s
        rw [replacePieces_fails hfault, List.all_cons, ha]
        rfl
      | true =>
        obtain ⟨t, ht⟩ := h.ok ha s
        rw [replacePieces_found ht, hwrite a s t ht, toOption_map, ih, List.all_cons, ha,
          Bool.true_and, apply_ite (Option.map (write a ++ ·))]
        rfl

end Segments
end Action

/-! ## Calls -/

/-- A machine that has no files, knows no languages and reads every page as an empty one. -/
def Host.bare : Host where
  files := .empty
  highlighter := fun _ => none
  markdown := ⟨fun _ => ⟨[], []⟩, fun _ _ => []⟩
  safeUrl := id

/-- The conversion of a page on such a machine, in a wiki that is to be found nowhere. -/
def Setup.bare (page : Page) : Setup := ⟨.bare, page, {}, 4000⟩

/-- What a part of a page asks of a conversion. -/
inductive Call where
  | resolve (token : Text)
  | pageUrl (ref : PageRef)
  | linkUrl (link text : Text)
  | imageUrl (link : Text)
  /-- All references of a text. -/
  | references (t : Text)
  /-- All scripts of a text. -/
  | scripts (t : Text)
  /-- One command, with its arguments apart and as they are written. -/
  | command (name : Text) (args : List Text) (raw : Text)
  | heading (html : Text) (level : Int)

/-- The state that a call leaves, whether it succeeds or fails. -/
def Call.perform (setup : Setup) : Call → State → State
  | .resolve token, s => (Conversion.resolve setup token s).2
  | .pageUrl ref, s => (Conversion.pageUrl setup ref s).2
  | .linkUrl link text, s => (Conversion.linkUrl setup link text s).2
  | .imageUrl link, s => (Conversion.imageUrl setup link s).2
  | .references t, s => (Conversion.references setup t s).2
  | .scripts t, s => (Conversion.scripts setup t s).2
  | .command name args raw, s => (runCommand setup name args raw s).2
  | .heading html level, s => (addHeading html level s).2

/-- Whether a call neither runs commands nor registers a heading. -/
def Call.onlyRecords : Call → Bool
  | .scripts _ | .command _ _ _ | .heading _ _ => false
  | .resolve _ | .pageUrl _ | .linkUrl _ _ | .imageUrl _ | .references _ => true

/-- The state after some calls, one after the other. -/
def run (setup : Setup) (calls : List Call) (s : State) : State :=
  calls.foldl (fun s call => call.perform setup s) s

theorem run_append (setup : Setup) (calls more : List Call) (s : State) :
    run setup (calls ++ more) s = run setup more (run setup calls s) :=
  List.foldl_append

/-- What every call keeps is kept by every run. -/
theorem run_invariant {setup : Setup} {inv : State → Prop}
    (hstep : ∀ call s, inv s → inv (Call.perform setup call s)) :
    ∀ (calls : List Call) (s : State), inv s → inv (run setup calls s) := by
  intro calls
  induction calls with
  | nil => exact fun s hs => hs
  | cons call calls ih => exact fun s hs => ih (call.perform setup s) (hstep call s hs)

/-! ## Calls that only record -/

section Record

open Conversion.Action

variable {R : State → State → Prop} [IsPreorder State R]
  (hsession : ∀ (s : State) (f : Session → Session), R s { s with session := f s.session })

include hsession

omit [IsPreorder State R] in
theorem moves_record (f : Session → Session) : Moves R (record f) :=
  moves_change fun s => hsession s f

theorem moves_resolve (setup : Setup) (token : Text) : Moves R (resolve setup token) :=
  moves_bind (moves_ofExcept _) fun r =>
    moves_bind (moves_record hsession r.record) fun _ => moves_pure _

theorem moves_pageUrl (setup : Setup) (ref : PageRef) : Moves R (pageUrl setup ref) :=
  moves_bind (moves_record hsession _) fun _ => moves_pure _

theorem moves_linkUrl (setup : Setup) (link text : Text) : Moves R (linkUrl setup link text) := by
  refine moves_bind (moves_ofExcept _) fun token => ?_
  refine moves_bind (moves_resolve hsession setup token) fun destination => ?_
  cases destination with
  | page ref => exact moves_bind (moves_pageUrl hsession setup ref) fun _ => moves_pure _
  | url url => exact moves_bind (moves_look _) fun _ => moves_pure _

theorem moves_imageUrl (setup : Setup) (link : Text) : Moves R (imageUrl setup link) := by
  refine moves_bind (moves_resolve hsession setup _) fun destination => ?_
  cases destination with
  | page ref => exact moves_pure _
  | url url => exact moves_pure _

theorem moves_reference (setup : Setup) (r : Reference) : Moves R (reference setup r) := by
  refine moves_bind (moves_resolve hsession setup _) fun destination => ?_
  cases destination with
  | page ref => exact moves_bind (moves_pageUrl hsession setup ref) fun _ => moves_pure _
  | url url => exact moves_bind (moves_look _) fun _ => moves_pure _

theorem moves_references (setup : Setup) (t : Text) : Moves R (references setup t) :=
  moves_replacePieces (moves_reference hsession setup) _

/-- A call that neither runs commands nor registers a heading only records. -/
theorem Call.moves_perform {call : Call} (h : call.onlyRecords = true) (setup : Setup) (s : State) :
    R s (call.perform setup s) := by
  cases call with
  | resolve token => exact moves_resolve hsession setup token s
  | pageUrl ref => exact moves_pageUrl hsession setup ref s
  | linkUrl link text => exact moves_linkUrl hsession setup link text s
  | imageUrl link => exact moves_imageUrl hsession setup link s
  | references t => exact moves_references hsession setup t s
  | scripts t => cases h
  | command name args raw => cases h
  | heading html level => cases h

/-- A command for a language records at most the page that its token leads to. -/
theorem moves_lang (setup : Setup) {name : Text} (h : Command.kind? name = some .lang)
    (args : List Text) (raw : Text) : Moves R (runCommand setup name args raw) := by
  unfold runCommand
  rw [h]
  cases args with
  | nil => exact moves_pure ()
  | cons token args =>
    refine moves_bind (moves_resolve hsession setup token) fun destination => ?_
    cases destination with
    | page ref => exact moves_record hsession _
    | url url => exact moves_pure ()

end Record

end Conversion
end WikiMarkup
