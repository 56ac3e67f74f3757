import WikiMarkup.Conversion.Convert
import WikiMarkup.Proofs.Conversion.Resolution
import WikiMarkup.Proofs.Conversion.Run
import WikiMarkup.Proofs.Conversion.Script

/-!
# What a page declares

Before a page is read as blocks its scripts are run and its references are resolved. What this
leaves is told here by the commands and the tokens of the page alone: of the commands of one kind the
last counts, tags add up, and the errors are those of the commands and then of the references.
Scripts are run up to the first that breaks off, and if one does no reference is resolved;
references are resolved up to the first that breaks off.
-/

namespace WikiMarkup

/-! ## Commands -/

namespace Command

/-- Whether a command is of a kind. -/
def isOf (kind : Kind) (c : Command) : Bool := kind? c.name == some kind

theorem isOf_iff {kind : Kind} {c : Command} : c.isOf kind = true ↔ kind? c.name = some kind :=
  beq_iff_eq

/-- The token by which a command names the page in another language. -/
def token? (c : Command) : Option Text :=
  if c.isOf .lang then (arguments c.raw).head? else none

/-- The tags that a command gives to the page. -/
def tags (c : Command) : List Text :=
  if c.isOf .tags then (arguments c.raw).filter fun tag => !tag.isEmpty else []

/-- What a command asks of a conversion. -/
def call (c : Command) : Conversion.Call := .command c.name (arguments c.raw) c.raw

end Command

/-- What a script leaves in the text: nothing, or its own text if it is no command. -/
def Script.leftover (s : Script) : Text := if (Command.read s.body).isSome then [] else s.source

namespace Conversion

open Text

/-! ## Tokens -/

/-- Whether resolving a token leads anywhere, and does not break off. -/
def leads (setup : Setup) (token : Text) : Bool :=
  (Link.resolve setup.files setup.site setup.page token).isOk

/-- The problems that resolving a token records. -/
def problems (setup : Setup) (token : Text) : List Text :=
  match Link.resolve setup.files setup.site setup.page token with
  | .ok r => r.problem.toList
  | .error _ => []

/-- Resolving a token for something else either leads there, with the problems of the token among the
errors, or breaks off and changes nothing. -/
theorem resolve_andThen {α : Type} (setup : Setup) (token : Text) (next : Destination → Action α)
    (s : State) :
    (leads setup token = true ∧ ∃ destination,
        (resolve setup token).andThen next s = next destination { s with session := { s.session with
          errors := s.session.errors ++ problems setup token } }) ∨
      (leads setup token = false ∧ problems setup token = [] ∧ ∃ fault,
        (resolve setup token).andThen next s = (.error fault, s)) := by
  rw [leads, problems]
  cases h : Link.resolve setup.files setup.site setup.page token with
  | ok r => exact Or.inl ⟨rfl, r.destination, resolve_andThen_of_ok h next s⟩
  | error fault => exact Or.inr ⟨rfl, rfl, fault, resolve_andThen_of_error h next s⟩

theorem resolve_andThen_ok {α : Type} {setup : Setup} {token : Text}
    {next : Destination → Action α} (hnext : ∀ destination s, ∃ a, (next destination s).1 = .ok a)
    (h : leads setup token = true) (s : State) :
    ∃ a, ((resolve setup token).andThen next s).1 = .ok a := by
  rcases resolve_andThen setup token next s with ⟨-, destination, heq⟩ | ⟨hnot, -⟩
  · rw [heq]
    exact hnext destination _
  · rw [h] at hnot
    cases hnot

theorem resolve_andThen_error {α : Type} {setup : Setup} {token : Text}
    (next : Destination → Action α) (h : leads setup token = false) (s : State) :
    ∃ fault, (resolve setup token).andThen next s = (.error fault, s) := by
  rcases resolve_andThen setup token next s with ⟨hleads, -⟩ | ⟨-, -, hfault⟩
  · rw [h] at hleads
    cases hleads
  · exact hfault

/-- A problem that resolving records is that an attachment is not there, and every attachment that
is not there is recorded, unless resolving breaks off. -/
theorem mem_problems_iff {setup : Setup} {token problem : Text} :
    problem ∈ problems setup token ↔ leads setup token = true ∧
      ∃ name, Link.IsMissing setup.files setup.site setup.page token name ∧
        problem = Link.missingFile name := by
  cases h : Link.resolve setup.files setup.site setup.page token with
  | ok r =>
    rw [problems, leads, h, ← Link.problem_eq_some_iff h, Option.mem_toList]
    exact ⟨fun hproblem => ⟨rfl, hproblem⟩, fun hproblem => hproblem.2⟩
  | error fault =>
    rw [problems, leads, h]
    constructor
    · intro hproblem
      cases hproblem
    · rintro ⟨hleads, -⟩
      cases hleads

/-! ## Commands of a conversion -/

/-- Runs a command with the arguments that it is written with. -/
def perform (setup : Setup) (c : Command) : Action Unit :=
  runCommand setup c.name (Command.arguments c.raw) c.raw

/-- Whether a command is run to its end. -/
def completes (setup : Setup) (c : Command) : Bool := c.token?.all (leads setup)

/-- What becomes of the page that the token of a command leads to. -/
def recordLang : Destination → Action Unit
  | .page ref =>
    Action.record fun session =>
      { session with langs := session.langs ++ [Address.indexEntry ref] }
  | .url _ => pure ()

theorem recordLang_fst (destination : Destination) (s : State) :
    (recordLang destination s).1 = .ok () := by
  cases destination <;> rfl

theorem recordLang_snd (destination : Destination) (s : State) : ∃ langs,
    (recordLang destination s).2 =
      { s with session := { s.session with langs := s.session.langs ++ langs } } := by
  cases destination with
  | page ref => exact ⟨[Address.indexEntry ref], rfl⟩
  | url url => exact ⟨[], by rw [List.append_nil]; rfl⟩

theorem perform_token {setup : Setup} {c : Command} {token : Text} (h : c.token? = some token) :
    perform setup c = (resolve setup token).andThen recordLang := by
  rw [Command.token?, Option.ite_none_right_eq_some, Command.isOf_iff] at h
  obtain ⟨args, hargs⟩ := List.head?_eq_some_iff.mp h.2
  unfold perform runCommand
  rw [h.1, hargs]
  rfl

/-- Only a command with a token can break off. -/
theorem perform_no_token {setup : Setup} {c : Command} (h : c.token? = none) (s : State) :
    (perform setup c s).1 = .ok () := by
  unfold perform runCommand
  cases hkind : Command.kind? c.name with
  | none => rfl
  | some kind =>
    cases kind with
    | lang =>
      rw [Command.token?, if_pos (Command.isOf_iff.mpr hkind), List.head?_eq_none_iff] at h
      rw [h]
      rfl
    | _ => rfl

/-- A command with a token adds the problems of the token to the errors, and else records at most
the page that the token leads to. -/
theorem perform_token_snd (setup : Setup) {c : Command} {token : Text} (h : c.token? = some token)
    (s : State) : ∃ langs, (perform setup c s).2 =
      { s with session := { s.session with
          errors := s.session.errors ++ problems setup token
          langs := s.session.langs ++ langs } } := by
  rw [perform_token h]
  rcases resolve_andThen setup token recordLang s with ⟨-, destination, heq⟩ | ⟨-, hnone, fault, heq⟩
  · rw [heq]
    exact recordLang_snd destination _
  · rw [heq, hnone]
    exact ⟨[], by simp⟩

theorem perform_lang_snd (setup : Setup) {c : Command} (h : c.isOf .lang = true) (s : State) :
    ∃ langs, (perform setup c s).2 =
      { s with session := { s.session with
          errors := s.session.errors ++ c.token?.toList.flatMap (problems setup)
          langs := s.session.langs ++ langs } } := by
  cases htoken : c.token? with
  | some token =>
    rw [Option.toList_some, List.flatMap_singleton]
    exact perform_token_snd setup htoken s
  | none =>
    rw [Command.token?, if_pos h, List.head?_eq_none_iff] at htoken
    unfold perform runCommand
    rw [Command.isOf_iff.mp h, htoken]
    exact ⟨[], by simp [pure, Action.give]⟩

/-- A command breaks off exactly if resolving its token does. -/
theorem decides_perform (setup : Setup) : Action.Decides (perform setup) (completes setup) where
  ok := by
    intro c hcompletes s
    cases htoken : c.token? with
    | none => exact ⟨(), perform_no_token htoken s⟩
    | some token =>
      rw [completes, htoken, Option.all_some] at hcompletes
      rw [perform_token htoken]
      exact resolve_andThen_ok (fun destination s => ⟨(), recordLang_fst destination s⟩)
        hcompletes s
  error := by
    intro c hcompletes s
    cases htoken : c.token? with
    | none =>
      rw [completes, htoken] at hcompletes
      cases hcompletes
    | some token =>
      rw [completes, htoken, Option.all_some] at hcompletes
      rw [perform_token htoken]
      exact resolve_andThen_error recordLang hcompletes s

/-! ## Scripts -/

/-- Whether a script is run to its end. -/
def runs (setup : Setup) (s : Script) : Bool := (Command.read s.body).all (completes setup)

/-- The commands that are run when a text is searched for scripts. -/
def performed (setup : Setup) (t : Text) : List Command :=
  ((segments Script.recognise t).takeWhile (runs setup)).filterMap fun s => Command.read s.body

/-- What is left of a text when its scripts have been run. -/
def leftover (t : Text) : Text := (scan Script.recognise t).flatMap (Piece.text Script.leftover)

theorem script_none {setup : Setup} {sc : Script} (h : Command.read sc.body = none) (s : State) :
    script setup sc s = (.ok sc.source, s) := by
  rw [script, h]
  rfl

theorem script_some {setup : Setup} {sc : Script} {c : Command}
    (h : Command.read sc.body = some c) (s : State) :
    script setup sc s = ((perform setup c s).1.map fun _ => [], (perform setup c s).2) := by
  rw [script, h]
  exact Action.andThen_give (perform setup c) (fun _ => []) s

theorem decides_script (setup : Setup) : Action.Decides (script setup) (runs setup) where
  ok := by
    intro sc hruns s
    cases hread : Command.read sc.body with
    | none => exact ⟨sc.source, by rw [script_none hread]⟩
    | some c =>
      rw [runs, hread, Option.all_some] at hruns
      obtain ⟨u, hok⟩ := (decides_perform setup).ok hruns s
      exact ⟨[], by rw [script_some hread, hok]; rfl⟩
  error := by
    intro sc hruns s
    cases hread : Command.read sc.body with
    | none =>
      rw [runs, hread] at hruns
      cases hruns
    | some c =>
      rw [runs, hread, Option.all_some] at hruns
      obtain ⟨fault, hfault⟩ := (decides_perform setup).error hruns s
      exact ⟨fault, by rw [script_some hread, hfault]; rfl⟩

theorem script_fst {setup : Setup} {sc : Script} {s : State} {t : Text}
    (h : (script setup sc s).1 = .ok t) : t = sc.leftover := by
  rw [Script.leftover]
  cases hread : Command.read sc.body with
  | none =>
    rw [script_none hread] at h
    exact (Except.ok.inj h).symm
  | some c =>
    rw [script_some hread] at h
    cases hresult : (perform setup c s).1 with
    | ok u =>
      rw [hresult] at h
      exact (Except.ok.inj h).symm
    | error fault =>
      rw [hresult] at h
      cases h

/-- Running the scripts of a text is running its commands, up to the first that breaks off. -/
theorem scripts_snd (setup : Setup) (t : Text) (s : State) :
    (scripts setup t s).2 = run setup ((performed setup t).map Command.call) s := by
  rw [scripts, Action.replacePieces_snd (decides_script setup), ← segments, performed]
  generalize (segments Script.recognise t).takeWhile (runs setup) = found
  induction found generalizing s with
  | nil => rfl
  | cons sc found ih =>
    rw [List.foldl_cons, ih]
    cases hread : Command.read sc.body with
    | none =>
      have hskip := List.filterMap_cons_none (f := fun s : Script => Command.read s.body)
        (l := found) hread
      rw [hskip, script_none hread]
    | some c =>
      have hrun := List.filterMap_cons_some (f := fun s : Script => Command.read s.body)
        (l := found) hread
      rw [hrun, script_some hread]
      rfl

/-- If no script breaks off, the text is left without its commands. -/
theorem scripts_toOption (setup : Setup) (t : Text) (s : State) :
    (scripts setup t s).1.toOption =
      if (segments Script.recognise t).all (runs setup) then some (leftover t) else none :=
  Action.replacePieces_toOption (decides_script setup) (fun _ _ _ => script_fst) _ s

/-! ## Declarations -/

/-- What a page declares about itself. -/
structure Declaration where
  title : Option Text := none
  mainTitle : Option Text := none
  theme : Option Text := none
  themeIcon : Option Text := none
  sidebar : Option Bool := none
  contentsMode : ContentsMode := .byLength
  nofollow : Bool := false
  tags : List Text := []
deriving DecidableEq, Repr

/-- What a page has declared so far. -/
def State.declaration (s : State) : Declaration where
  title := s.title
  mainTitle := s.mainTitle
  theme := s.theme
  themeIcon := s.themeIcon
  sidebar := s.sidebar
  contentsMode := s.contentsMode
  nofollow := s.nofollow
  tags := s.session.tags

/-- What the last command of a kind is given. -/
def lastRaw (kind : Command.Kind) (commands : List Command) : Option Text :=
  (commands.filter (Command.isOf kind)).getLast?.map (·.raw)

theorem lastRaw_concat (kind : Command.Kind) (commands : List Command) (c : Command) :
    lastRaw kind (commands ++ [c]) =
      if c.isOf kind then some c.raw else lastRaw kind commands := by
  unfold lastRaw
  by_cases h : c.isOf kind = true
  · rw [List.filter_append, List.filter_cons_of_pos h, List.filter_nil, List.getLast?_concat,
      if_pos h]
    rfl
  · rw [List.filter_append, List.filter_cons_of_neg h, List.filter_nil, List.append_nil, if_neg h]

theorem exists_of_lastRaw {kind : Command.Kind} {commands : List Command} {raw : Text}
    (h : lastRaw kind commands = some raw) : ∃ c ∈ commands, c.isOf kind = true ∧ c.raw = raw := by
  obtain ⟨c, hc, rfl⟩ := Option.map_eq_some_iff.mp h
  have hmem := List.mem_filter.mp (List.mem_of_getLast? hc)
  exact ⟨c, hmem.1, hmem.2, rfl⟩

theorem lastRaw_eq_none {kind : Command.Kind} {commands : List Command}
    (h : ∀ c ∈ commands, c.isOf kind = false) : lastRaw kind commands = none := by
  cases hraw : lastRaw kind commands with
  | none => rfl
  | some raw =>
    obtain ⟨c, hc, hof, -⟩ := exists_of_lastRaw hraw
    rw [h c hc] at hof
    cases hof

/-- The icon that a command for it sets: without a name it sets none. -/
def iconUrl (setup : Setup) (raw : Text) : Option Text :=
  if raw.isEmpty then none else some (setup.site.mediaUrl ++ '/' :: raw)

/-- The table of contents that a command asks for. -/
def contentsOf (raw : Text) : ContentsMode := if raw == no then .off else .asked raw

/-- What a page declares by its commands: the last of each kind counts, and tags add up. -/
def declared (setup : Setup) (commands : List Command) : Declaration where
  title := lastRaw .title commands
  mainTitle := lastRaw .mainTitle commands
  theme := lastRaw .theme commands
  themeIcon := (lastRaw .themeIcon commands).bind (iconUrl setup)
  sidebar := (lastRaw .sidebar commands).map (· != no)
  contentsMode := (lastRaw .contents commands).elim .byLength contentsOf
  nofollow := (lastRaw .nofollow commands).any fun raw =>
    (Command.arguments raw).head? != some no
  tags := commands.flatMap Command.tags

/-- One more command counts for its kind. -/
theorem declaration_perform {setup : Setup} {commands : List Command} {s : State}
    (h : s.declaration = declared setup commands) (c : Command) :
    (c.call.perform setup s).declaration = declared setup (commands ++ [c]) := by
  show (perform setup c s).2.declaration = _
  -- the parts of the declaration one by one: the command changes the one of its own kind
  simp only [State.declaration, declared, Declaration.mk.injEq] at h ⊢
  simp only [lastRaw_concat, List.flatMap_append, List.flatMap_singleton, Command.tags]
  cases hkind : Command.kind? c.name with
  | none =>
    have hother : ∀ kind, c.isOf kind = false := fun kind => by rw [Command.isOf, hkind]; rfl
    simp [perform, runCommand, hkind, Action.record, Action.change, hother, h]
  | some kind =>
    have hof : ∀ kind', c.isOf kind' = (some kind == some kind') := fun kind' => by
      rw [Command.isOf, hkind]
    simp only [hof]
    cases kind with
    | lang =>
      -- the one kind that resolves a token, and leaves nothing that is declared
      obtain ⟨langs, hstate⟩ := perform_lang_snd setup (Command.isOf_iff.mpr hkind) s
      rw [hstate]
      simp [h]
    | tags => simp [perform, runCommand, hkind, Action.record, Action.change, h]
    | contents => simp [perform, runCommand, hkind, Action.change, h, contentsOf]
    | themeIcon => simp [perform, runCommand, hkind, Action.change, h, iconUrl]
    | _ => simp [perform, runCommand, hkind, Action.change, h]

/-- What the commands of a page declare when they are run one after the other. -/
theorem declaration_run (setup : Setup) (commands : List Command) :
    (run setup (commands.map Command.call) {}).declaration = declared setup commands := by
  induction commands using List.reverseRecOn with
  | nil => rfl
  | append_singleton commands c ih =>
    rw [List.map_append, run, List.foldl_append]
    exact declaration_perform ih c

/-! ## Errors -/

/-- What a command adds to the errors. -/
def complaints (setup : Setup) (c : Command) : List Text :=
  if (Command.kind? c.name).isSome then c.token?.toList.flatMap (problems setup)
  else ["Unknown \x7b\x7b".toList ++ c.name ++ "\x7d\x7d".toList]

theorem errors_perform (setup : Setup) (c : Command) (s : State) :
    (c.call.perform setup s).session.errors = s.session.errors ++ complaints setup c := by
  show (perform setup c s).2.session.errors = _
  rw [complaints]
  cases hkind : Command.kind? c.name with
  | none =>
    unfold perform runCommand
    rw [hkind]
    rfl
  | some kind =>
    rw [if_pos (Option.isSome_some)]
    cases kind with
    | lang =>
      obtain ⟨langs, hstate⟩ := perform_lang_snd setup (Command.isOf_iff.mpr hkind) s
      rw [hstate]
    | _ =>
      rw [Command.token?, Command.isOf, hkind, if_neg (by decide)]
      simp [perform, runCommand, hkind, Action.record, Action.change]

/-- The errors of the commands of a page are recorded one after the other. -/
theorem errors_run (setup : Setup) (commands : List Command) (s : State) :
    (run setup (commands.map Command.call) s).session.errors =
      s.session.errors ++ commands.flatMap (complaints setup) := by
  induction commands generalizing s with
  | nil => simp [run]
  | cons c commands ih =>
    rw [List.map_cons, run, List.foldl_cons, ← run, ih, errors_perform, List.flatMap_cons,
      List.append_assoc]

/-! ## References -/

/-- The tokens that are resolved, without breaking off, when the references of a text are. -/
def referred (setup : Setup) (t : Text) : List Text :=
  ((segments Reference.recognise t).takeWhile fun r => leads setup r.token).map Reference.token

/-- A reference is resolved, and then it is written and at most the page that it leads to is
recorded. -/
theorem reference_eq (setup : Setup) (r : Reference) : ∃ next,
    reference setup r = (resolve setup r.token).andThen next ∧
      ∀ destination s, (∃ t, (next destination s).1 = .ok t) ∧ ∃ links,
        (next destination s).2 =
          { s with session := { s.session with links := s.session.links ++ links } } := by
  refine ⟨_, rfl, fun destination s => ?_⟩
  cases destination with
  | page ref => exact ⟨⟨_, rfl⟩, [Address.indexEntry ref], rfl⟩
  | url url => exact ⟨⟨_, rfl⟩, [], by rw [List.append_nil]; rfl⟩

/-- Resolving a reference adds the problems of its token to the errors, and else records at most the
page that it leads to. -/
theorem reference_snd (setup : Setup) (r : Reference) (s : State) : ∃ links,
    (reference setup r s).2 =
      { s with session := { s.session with
          errors := s.session.errors ++ problems setup r.token
          links := s.session.links ++ links } } := by
  obtain ⟨next, hreference, hnext⟩ := reference_eq setup r
  rw [hreference]
  rcases resolve_andThen setup r.token next s with ⟨-, destination, heq⟩ | ⟨-, hnone, fault, heq⟩
  · rw [heq]
    exact (hnext destination _).2
  · rw [heq, hnone]
    exact ⟨[], by simp⟩

theorem decides_reference (setup : Setup) :
    Action.Decides (reference setup) fun r => leads setup r.token where
  ok := by
    intro r hleads s
    obtain ⟨next, hreference, hnext⟩ := reference_eq setup r
    rw [hreference]
    exact resolve_andThen_ok (fun destination s => (hnext destination s).1) hleads s
  error := by
    intro r hnot s
    obtain ⟨next, hreference, -⟩ := reference_eq setup r
    rw [hreference]
    exact resolve_andThen_error next hnot s

/-- Resolving the references of a text changes nothing that the page declares, and adds the problems
of their tokens to the errors. -/
theorem references_snd (setup : Setup) (t : Text) (s : State) :
    (references setup t s).2.declaration = s.declaration ∧
      (references setup t s).2.session.errors =
        s.session.errors ++ (referred setup t).flatMap (problems setup) := by
  rw [references, Action.replacePieces_snd (decides_reference setup), ← segments, referred]
  generalize (segments Reference.recognise t).takeWhile _ = found
  induction found generalizing s with
  | nil => simp
  | cons r found ih =>
    obtain ⟨links, hstate⟩ := reference_snd setup r s
    rw [List.foldl_cons, hstate, List.map_cons, List.flatMap_cons, ← List.append_assoc]
    exact ih _

/-! ## The passes together -/

/-- The tokens of references that are resolved, without breaking off, once the scripts of a text
have been run. -/
def asked (setup : Setup) (t : Text) : List Text :=
  if (segments Script.recognise t).all (runs setup) then referred setup (leftover t) else []

/-- Putting the code back changes nothing but the text. -/
theorem prepare_eq (setup : Setup) (t : Text) (s : State) :
    (prepare setup t s).2 =
      match (scripts setup (Shield.protect t).text s).1 with
      | .ok u => (references setup u (scripts setup (Shield.protect t).text s).2).2
      | .error _ => (scripts setup (Shield.protect t).text s).2 := by
  show ((scripts setup (Shield.protect t).text).andThen (fun u => (references setup u).andThen _)
    s).2 = _
  cases hscripts : (scripts setup (Shield.protect t).text s).1 with
  | error fault => rw [Action.andThen_error hscripts]
  | ok u =>
    rw [Action.andThen_ok hscripts]
    generalize (scripts setup (Shield.protect t).text s).2 = s'
    cases hreferences : (references setup u s').1 with
    | error fault => rw [Action.andThen_error hreferences]
    | ok v => rw [Action.andThen_ok hreferences]; rfl

/-- What a page has declared before it is read as blocks is what its commands declare, and its errors
are those of its commands and then those of its references. -/
theorem prepare_snd (setup : Setup) (t : Text) :
    let s := (prepare setup t {}).2
    let shielded := (Shield.protect t).text
    s.declaration = declared setup (performed setup shielded) ∧
      s.session.errors = (performed setup shielded).flatMap (complaints setup) ++
        (asked setup shielded).flatMap (problems setup) := by
  simp only [prepare_eq]
  generalize (Shield.protect t).text = shielded
  have hstate : (scripts setup shielded {}).2.declaration =
      declared setup (performed setup shielded) := by
    rw [scripts_snd, declaration_run]
  have herrors : (scripts setup shielded {}).2.session.errors =
      (performed setup shielded).flatMap (complaints setup) := by
    rw [scripts_snd, errors_run, List.nil_append]
  have hresult := scripts_toOption setup shielded {}
  rw [asked]
  cases hscripts : (scripts setup shielded {}).1 with
  | error fault =>
    have hnone : ¬ (segments Script.recognise shielded).all (runs setup) = true := by
      intro hall
      rw [hscripts, if_pos hall] at hresult
      cases hresult
    rw [if_neg hnone, List.flatMap_nil, List.append_nil]
    exact ⟨hstate, herrors⟩
  | ok u =>
    have hsome : (if (segments Script.recognise shielded).all (runs setup) then
        some (leftover shielded) else none) = some u := by
      rw [← hresult, hscripts]
      rfl
    obtain ⟨hall, hleftover⟩ := Option.ite_none_right_eq_some.mp hsome
    obtain ⟨hdeclaration, hproblems⟩ := references_snd setup u (scripts setup shielded {}).2
    rw [if_pos hall, ← hstate, ← herrors, Option.some.inj hleftover]
    exact ⟨hdeclaration, hproblems⟩

end Conversion
end WikiMarkup
