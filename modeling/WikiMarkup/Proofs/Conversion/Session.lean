import WikiMarkup.Proofs.Conversion.Declaration
import WikiMarkup.Proofs.Conversion.Heading
import WikiMarkup.Proofs.Page.Address

/-!
# What a session records

A session only grows. What a call adds to it is told by the call alone, and not by what was collected
before: the problems of the tokens that it resolves, the pages that it links to, the versions of the
page in other languages and its tags. So the session after a run is the session before, followed by
what the calls of the run record, one after the other.
-/

namespace WikiMarkup

/-! ## Sessions behind each other -/

namespace Session

/-- What one part of a page records, and then what a later part does. -/
instance : Append Session where
  append a b := ⟨a.errors ++ b.errors, a.links ++ b.links, a.langs ++ b.langs, a.tags ++ b.tags⟩

variable (a b c : Session)

@[simp] theorem errors_append : (a ++ b).errors = a.errors ++ b.errors := rfl
@[simp] theorem links_append : (a ++ b).links = a.links ++ b.links := rfl
@[simp] theorem langs_append : (a ++ b).langs = a.langs ++ b.langs := rfl
@[simp] theorem tags_append : (a ++ b).tags = a.tags ++ b.tags := rfl

theorem append_empty : a ++ ({} : Session) = a := by
  show Session.mk _ _ _ _ = a
  simp

theorem append_assoc : a ++ b ++ c = a ++ (b ++ c) := by
  show Session.mk _ _ _ _ = Session.mk _ _ _ _
  simp

theorem append_errors (errors : List Text) :
    a ++ { errors := errors } = { a with errors := a.errors ++ errors } := by
  show Session.mk _ _ _ _ = Session.mk _ _ _ _
  simp

theorem append_links (links : List PageRef) :
    a ++ { links := links } = { a with links := a.links ++ links } := by
  show Session.mk _ _ _ _ = Session.mk _ _ _ _
  simp

theorem append_langs (langs : List PageRef) :
    a ++ { langs := langs } = { a with langs := a.langs ++ langs } := by
  show Session.mk _ _ _ _ = Session.mk _ _ _ _
  simp

theorem append_tags (tags : List Text) :
    a ++ { tags := tags } = { a with tags := a.tags ++ tags } := by
  show Session.mk _ _ _ _ = Session.mk _ _ _ _
  simp

/-- Sessions one after the other. -/
def joined (sessions : List Session) : Session := sessions.foldr (· ++ ·) {}

/-- A list of joined sessions is the lists of the sessions, one after the other. -/
theorem field_joined {α : Type} {field : Session → List α} (hempty : field {} = [])
    (happend : ∀ a b : Session, field (a ++ b) = field a ++ field b) (sessions : List Session) :
    field (joined sessions) = sessions.flatMap field := by
  induction sessions with
  | nil => exact hempty
  | cons first sessions ih =>
    rw [List.flatMap_cons, ← ih]
    exact happend first (joined sessions)

theorem links_joined (sessions : List Session) :
    (joined sessions).links = sessions.flatMap (·.links) := field_joined rfl links_append sessions

theorem langs_joined (sessions : List Session) :
    (joined sessions).langs = sessions.flatMap (·.langs) := field_joined rfl langs_append sessions

end Session

namespace Conversion

open Text

/-! ## Actions that record -/

namespace Action

variable {α β : Type}

/-- Whether an action adds just `added` to the session, whatever the state, and whether it succeeds or
fails. -/
def Records (a : Action α) (added : Session) : Prop :=
  ∀ s, (a s).2.session = s.session ++ added

theorem records_pure (a : α) : Records (pure a : Action α) {} := fun s =>
  (Session.append_empty s.session).symm

theorem records_look (f : State → α) : Records (look f) {} := fun s =>
  (Session.append_empty s.session).symm

theorem records_change {f : State → State} (h : ∀ s, (f s).session = s.session) :
    Records (change f) {} := fun s => (h s).trans (Session.append_empty s.session).symm

theorem records_ofExcept_bind {r : Except Fault α} {next : α → Action β} {added : Session}
    (hok : ∀ a, r = .ok a → Records (next a) added)
    (herror : ∀ fault, r = .error fault → added = {}) :
    Records (ofExcept r >>= next) added := by
  intro s
  cases r with
  | ok a => exact hok a rfl s
  | error fault =>
    rw [herror fault rfl]
    exact (Session.append_empty s.session).symm

/-- What the steps of a list record, one after the other. -/
theorem session_foldl {step : State → α → State} {added : α → Session}
    (hstep : ∀ s a, (step s a).session = s.session ++ added a) (l : List α) (s : State) :
    (l.foldl step s).session = s.session ++ Session.joined (l.map added) := by
  induction l generalizing s with
  | nil => exact (Session.append_empty s.session).symm
  | cons a l ih =>
    rw [List.foldl_cons, ih, hstep, Session.append_assoc]
    rfl

end Action

/-! ## Tokens -/

/-- The page that a token leads to, if it leads to one. -/
def page? (setup : Setup) (token : Text) : Option PageRef :=
  match Link.resolve setup.files setup.site setup.page token with
  | .ok ⟨.page ref, _⟩ => some ref
  | _ => none

/-- What is recorded for a link or a reference: the problem of its token, and the page that it leads
to. -/
def linkRecord (setup : Setup) (token : Text) : Session where
  errors := problems setup token
  links := (page? setup token).toList.map Address.indexEntry

/-- What is recorded for the token of a page in another language. -/
def versionRecord (setup : Setup) (token : Text) : Session where
  errors := problems setup token
  langs := (page? setup token).toList.map Address.indexEntry

theorem records_resolve (setup : Setup) (token : Text) :
    (resolve setup token).Records { errors := problems setup token } := by
  intro s
  rw [problems]
  cases h : Link.resolve setup.files setup.site setup.page token with
  | ok r =>
    rw [resolve_eq h]
    exact (Session.append_errors s.session r.problem.toList).symm
  | error fault =>
    rw [resolve_error h]
    exact (Session.append_empty s.session).symm

/-- What is recorded for where a token leads comes behind the problem of the token. -/
theorem records_resolve_bind {α : Type} {setup : Setup} {token : Text}
    {next : Destination → Action α} {added : Session} (found : Option PageRef → Session)
    (hpage : ∀ ref, (next (.page ref)).Records (found (some ref)))
    (hurl : ∀ url, (next (.url url)).Records (found none)) (hnone : found none = {})
    (hadded : { errors := problems setup token } ++ found (page? setup token) = added) :
    (resolve setup token >>= next).Records added := by
  intro s
  show ((resolve setup token).andThen next s).2.session = _
  -- the problem is recorded whatever follows, so only what is found remains to be told
  have hsession := records_resolve setup token s
  rw [← hadded, page?, ← Session.append_assoc, ← hsession]
  cases h : Link.resolve setup.files setup.site setup.page token with
  | ok r =>
    obtain ⟨destination, problem⟩ := r
    rw [Action.andThen_ok (by rw [resolve_eq h])]
    cases destination with
    | page ref => exact hpage ref _
    | url url => exact hurl url _
  | error fault =>
    rw [Action.andThen_error (by rw [resolve_error h]), hnone]
    exact (Session.append_empty _).symm

/-- What becomes of a link or a reference: the page that it leads to is recorded. -/
theorem records_link {α : Type} {setup : Setup} {token : Text} {next : Destination → Action α}
    (hpage : ∀ ref, (next (.page ref)).Records { links := [Address.indexEntry ref] })
    (hurl : ∀ url, (next (.url url)).Records {}) :
    (resolve setup token >>= next).Records (linkRecord setup token) :=
  records_resolve_bind (fun page => { links := page.toList.map Address.indexEntry }) hpage hurl rfl
    (Session.append_links _ _)

theorem records_pageUrl (setup : Setup) (ref : PageRef) :
    (pageUrl setup ref).Records { links := [Address.indexEntry ref] } := fun s =>
  (Session.append_links s.session [Address.indexEntry ref]).symm

theorem records_linkUrl (setup : Setup) (link text : Text) :
    (linkUrl setup link text).Records
      ((linkToken link text).toOption.elim {} (linkRecord setup)) := by
  refine Action.records_ofExcept_bind (fun token htoken => ?_) (fun fault hfault => ?_)
  · rw [htoken]
    exact records_link (fun ref => records_pageUrl setup ref) (fun url => Action.records_look _)
  · rw [hfault]
    rfl

theorem records_imageUrl (setup : Setup) (link : Text) :
    (imageUrl setup link).Records { errors := problems setup (Percent.decode link) } :=
  records_resolve_bind (fun _ => {}) (fun _ => Action.records_pure link)
    (fun url => Action.records_pure (finalUrl url (Percent.decode link) link)) rfl
    (Session.append_empty _)

theorem records_reference (setup : Setup) (r : Reference) :
    (reference setup r).Records (linkRecord setup r.token) :=
  records_link (fun ref => records_pageUrl setup ref)
    (fun url => Action.records_look (isMarked · url))

/-! ## Calls -/

/-- What a command records. -/
def commandRecord (setup : Setup) (name : Text) (args : List Text) : Session :=
  match Command.kind? name with
  | some .lang => args.head?.elim {} (versionRecord setup)
  | some .tags => { tags := args.filter fun tag => !tag.isEmpty }
  | some _ => {}
  | none => { errors := ["Unknown \x7b\x7b".toList ++ name ++ "\x7d\x7d".toList] }

/-- What a call records. -/
def Call.recorded (setup : Setup) : Call → Session
  | .resolve token => { errors := problems setup token }
  | .pageUrl ref => { links := [Address.indexEntry ref] }
  | .linkUrl link text => (linkToken link text).toOption.elim {} (linkRecord setup)
  | .imageUrl link => { errors := problems setup (Percent.decode link) }
  | .references t => .joined ((referred setup t).map (linkRecord setup))
  | .scripts t => .joined ((performed setup t).map fun c =>
      commandRecord setup c.name (Command.arguments c.raw))
  | .command name args _ => commandRecord setup name args
  | .heading _ _ => {}

theorem records_version (setup : Setup) (token : Text) :
    (resolve setup token >>= recordLang).Records (versionRecord setup token) :=
  records_resolve_bind (fun page => { langs := page.toList.map Address.indexEntry })
    (fun ref s => (Session.append_langs s.session [Address.indexEntry ref]).symm)
    (fun _ => Action.records_pure ()) rfl (Session.append_langs _ _)

theorem records_command (setup : Setup) (name : Text) (args : List Text) (raw : Text) :
    (runCommand setup name args raw).Records (commandRecord setup name args) := by
  intro s
  unfold runCommand commandRecord
  cases hkind : Command.kind? name with
  | none => exact (Session.append_errors s.session _).symm
  | some kind =>
    cases kind with
    | lang =>
      cases args with
      | nil => exact Action.records_pure () s
      | cons token args => exact records_version setup token s
    | tags => exact (Session.append_tags s.session _).symm
    | _ => exact Action.records_change (fun _ => rfl) s

/-- A call adds to the session what it records, whatever was collected before it. -/
theorem Call.session_perform (setup : Setup) (call : Call) (s : State) :
    (call.perform setup s).session = s.session ++ call.recorded setup := by
  cases call with
  | resolve token => exact records_resolve setup token s
  | pageUrl ref => exact records_pageUrl setup ref s
  | linkUrl link text => exact records_linkUrl setup link text s
  | imageUrl link => exact records_imageUrl setup link s
  | references t =>
    -- the pass goes over the references one by one, up to the first that breaks off
    have hsteps := Action.session_foldl (fun s r => records_reference setup r s)
      ((segments Reference.recognise t).takeWhile fun r => leads setup r.token) s
    rw [Call.perform, Conversion.references, Action.replacePieces_snd (decides_reference setup),
      ← segments, hsteps, Call.recorded, referred, List.map_map]
    rfl
  | scripts t =>
    have hsteps := Action.session_foldl (fun s c => records_command setup c.name
      (Command.arguments c.raw) c.raw s) (performed setup t) s
    rw [Call.perform, scripts_snd, run, List.foldl_map]
    exact hsteps
  | command name args raw => exact records_command setup name args raw s
  | heading html level =>
    rw [Call.perform, Call.recorded, Session.append_empty]
    rcases addHeading_cases html level s with ⟨fault, -, h⟩ | ⟨title, -, -, h⟩ |
      ⟨title, anchor, -, -, -, h⟩ <;> rw [h]

/-- The session after a run is the session before it, followed by what the calls record. -/
theorem session_run (setup : Setup) (calls : List Call) (s : State) :
    (run setup calls s).session =
      s.session ++ Session.joined (calls.map (Call.recorded setup)) :=
  Action.session_foldl (fun s call => call.session_perform setup s) calls s

/-! ## Links and versions -/

/-- The page that a command names as a version of the page in another language. -/
def version? (setup : Setup) (name : Text) (args : List Text) : Option PageRef :=
  if Command.kind? name = some .lang then args.head?.bind (page? setup) else none

/-- The pages that a call links to: the page that the token of a link leads to, and the pages that
references lead to. No other call links to any. -/
def Call.pages (setup : Setup) : Call → List PageRef
  | .pageUrl ref => [ref]
  | .linkUrl link text => ((linkToken link text).toOption.bind (page? setup)).toList
  | .references t => (referred setup t).filterMap (page? setup)
  | .resolve _ | .imageUrl _ | .scripts _ | .command _ _ _ | .heading _ _ => []

/-- The versions of the page that a call names: those of its commands for a language. -/
def Call.versions (setup : Setup) : Call → List PageRef
  | .command name args _ => (version? setup name args).toList
  | .scripts t => (performed setup t).filterMap fun c =>
      version? setup c.name (Command.arguments c.raw)
  | .resolve _ | .pageUrl _ | .linkUrl _ _ | .imageUrl _ | .references _ | .heading _ _ => []

theorem flatMap_toList_map {α β γ : Type} (f : α → Option β) (g : β → γ) (l : List α) :
    (l.flatMap fun a => (f a).toList.map g) = (l.filterMap f).map g := by
  rw [List.filterMap_eq_flatMap_toList, List.map_flatMap]

theorem links_commandRecord (setup : Setup) (name : Text) (args : List Text) :
    (commandRecord setup name args).links = [] := by
  rw [commandRecord]
  cases Command.kind? name with
  | none => rfl
  | some kind =>
    cases kind with
    | lang => cases args <;> rfl
    | _ => rfl

theorem langs_commandRecord (setup : Setup) (name : Text) (args : List Text) :
    (commandRecord setup name args).langs =
      (version? setup name args).toList.map Address.indexEntry := by
  rw [commandRecord, version?]
  cases Command.kind? name with
  | none => rfl
  | some kind =>
    cases kind with
    | lang => cases args <;> rfl
    | _ => rfl

theorem Call.links_recorded (setup : Setup) (call : Call) :
    (call.recorded setup).links = (call.pages setup).map Address.indexEntry := by
  cases call with
  | linkUrl link text =>
    rw [Call.recorded, Call.pages]
    cases linkToken link text <;> rfl
  | references t =>
    rw [Call.recorded, Call.pages, Session.links_joined, List.flatMap_map, ← flatMap_toList_map]
    rfl
  | scripts t =>
    simp [Call.recorded, Call.pages, Session.links_joined, List.flatMap_map, links_commandRecord]
  | command name args raw => exact links_commandRecord setup name args
  | _ => rfl

theorem Call.langs_recorded (setup : Setup) (call : Call) :
    (call.recorded setup).langs = (call.versions setup).map Address.indexEntry := by
  cases call with
  | linkUrl link text =>
    rw [Call.recorded]
    cases linkToken link text <;> rfl
  | references t =>
    simp [Call.recorded, Call.versions, Session.langs_joined, List.flatMap_map, linkRecord]
  | scripts t =>
    rw [Call.recorded, Call.versions, Session.langs_joined, List.flatMap_map, ← flatMap_toList_map]
    simp only [langs_commandRecord]
  | command name args raw => exact langs_commandRecord setup name args
  | _ => rfl

/-- An entry has no section, and its name is its own slug. -/
theorem indexEntry_normal (ref : PageRef) : (Address.indexEntry ref).fragment = none ∧
    Slug.ofPath (Address.indexEntry ref).name = (Address.indexEntry ref).name :=
  ⟨rfl, Slug.ofPath_ofPath ref.name⟩

/-- A link to a page adds one entry to the links, and is written with the URL of that entry and the
section behind it. The entry is one that stands for itself. -/
theorem pageUrl_agrees_entry (setup : Setup) (ref : PageRef) (s : State) : ∃ entry : PageRef,
    (pageUrl setup ref s).2.session.links = s.session.links ++ [entry] ∧
      entry = Address.indexEntry ref ∧ Address.indexEntry entry = entry ∧
      (pageUrl setup ref s).1 = .ok (Address.ofPage entry setup.page setup.site ++
        Address.fragmentPart ref.fragment) := by
  refine ⟨Address.indexEntry ref, ?_, rfl, Address.indexEntry_indexEntry ref, ?_⟩
  · rw [records_pageUrl setup ref s]
    rfl
  · rw [Address.ofPage_indexEntry]
    rfl

/-! ## Calls that fail -/

namespace Action

variable {α β : Type}

/-- Whether an action that fails changes nothing. -/
def Atomic (a : Action α) : Prop := ∀ s, (a s).1.isOk = false → (a s).2 = s

/-- An action that never fails. -/
theorem atomic_of_isOk {a : Action α} (h : ∀ s, (a s).1.isOk = true) : Atomic a := by
  intro s hfails
  rw [h s] at hfails
  cases hfails

theorem atomic_ofExcept_bind {r : Except Fault α} {next : α → Action β}
    (hnext : ∀ a, Atomic (next a)) : Atomic (ofExcept r >>= next) := by
  intro s hfails
  cases r with
  | ok a => exact hnext a s hfails
  | error fault => rfl

/-- Behind an action that may have changed something, only what never fails can follow. -/
theorem atomic_bind {a : Action α} {next : α → Action β} (ha : Atomic a)
    (hnext : ∀ x s, (next x s).1.isOk = true) : Atomic (a >>= next) := by
  intro s hfails
  change (a.andThen next s).1.isOk = false at hfails
  show (a.andThen next s).2 = s
  cases hfirst : (a s).1 with
  | ok x =>
    rw [andThen_ok hfirst, hnext] at hfails
    cases hfails
  | error fault =>
    rw [andThen_error hfirst]
    exact ha s (by rw [hfirst]; rfl)

end Action

theorem atomic_resolve (setup : Setup) (token : Text) : (resolve setup token).Atomic := by
  intro s hfails
  cases h : Link.resolve setup.files setup.site setup.page token with
  | ok r =>
    rw [resolve_eq h] at hfails
    cases hfails
  | error fault => rw [resolve_error h]

theorem atomic_linkUrl (setup : Setup) (link text : Text) : (linkUrl setup link text).Atomic :=
  Action.atomic_ofExcept_bind fun token => Action.atomic_bind (atomic_resolve setup token)
    fun destination s => by cases destination <;> rfl

theorem atomic_imageUrl (setup : Setup) (link : Text) : (imageUrl setup link).Atomic :=
  Action.atomic_bind (atomic_resolve setup (Percent.decode link))
    fun destination s => by cases destination <;> rfl

theorem atomic_command (setup : Setup) (name : Text) (args : List Text) (raw : Text) :
    (runCommand setup name args raw).Atomic := by
  unfold runCommand
  cases Command.kind? name with
  | none => exact Action.atomic_of_isOk fun s => rfl
  | some kind =>
    cases kind with
    | lang =>
      cases args with
      | nil => exact Action.atomic_of_isOk fun s => rfl
      | cons token args =>
        exact Action.atomic_bind (atomic_resolve setup token)
          fun destination s => by cases destination <;> rfl
    | _ => exact Action.atomic_of_isOk fun s => rfl

theorem atomic_addHeading (html : Text) (level : Int) : (addHeading html level).Atomic := by
  intro s hfails
  rcases addHeading_cases html level s with ⟨fault, -, h⟩ | ⟨title, -, -, h⟩ |
    ⟨title, anchor, -, -, -, h⟩
  · rw [h]
  · rw [h]
  · rw [h] at hfails
    cases hfails

/-- Whether a call succeeds. -/
def Call.succeeds (setup : Setup) : Call → State → Bool
  | .resolve token, s => (Conversion.resolve setup token s).1.isOk
  | .pageUrl ref, s => (Conversion.pageUrl setup ref s).1.isOk
  | .linkUrl link text, s => (Conversion.linkUrl setup link text s).1.isOk
  | .imageUrl link, s => (Conversion.imageUrl setup link s).1.isOk
  | .references t, s => (Conversion.references setup t s).1.isOk
  | .scripts t, s => (Conversion.scripts setup t s).1.isOk
  | .command name args raw, s => (runCommand setup name args raw s).1.isOk
  | .heading html level, s => (addHeading html level s).1.isOk

/-- Whether a call goes over a text, and so may have changed something before it fails. -/
def Call.isPass : Call → Bool
  | .references _ => true
  | .scripts _ => true
  | _ => false

theorem Call.perform_of_fails {setup : Setup} {call : Call} {s : State}
    (hpass : call.isPass = false) (hfails : call.succeeds setup s = false) :
    call.perform setup s = s := by
  cases call with
  | resolve token => exact atomic_resolve setup token s hfails
  | pageUrl ref => cases hfails
  | linkUrl link text => exact atomic_linkUrl setup link text s hfails
  | imageUrl link => exact atomic_imageUrl setup link s hfails
  | references t => cases hpass
  | scripts t => cases hpass
  | command name args raw => exact atomic_command setup name args raw s hfails
  | heading html level => exact atomic_addHeading html level s hfails

/-! ## Runs -/

/-- How the session of a conversion grows while some calls are made, whether they succeed or fail:
nothing is taken back, and there is one more link for each page that is linked to, and one more
version for each page that is named as one, in the form of an index. -/
structure Grows (setup : Setup) (calls : List Call) (before after : Session) : Prop where
  errors : before.errors <+: after.errors
  tags : before.tags <+: after.tags
  links : after.links = before.links ++ (calls.flatMap (Call.pages setup)).map Address.indexEntry
  langs : after.langs = before.langs ++ (calls.flatMap (Call.versions setup)).map Address.indexEntry
  normal : ∀ entry ∈ after.links.drop before.links.length ++ after.langs.drop before.langs.length,
    entry.fragment = none ∧ Slug.ofPath entry.name = entry.name

/-- A run appends to the lists of the session: an entry in its normal form for each link or reference
that leads to a page and for each command for a language that does, and for nothing else. A call for
a single token that fails changes nothing at all. -/
theorem session_append_only (setup : Setup) (calls : List Call) (s : State) :
    Grows setup calls s.session (run setup calls s).session ∧
      ∀ call : Call, call.isPass = false → call.succeeds setup s = false →
        call.perform setup s = s := by
  have hsession := session_run setup calls s
  have hlinks : (Session.joined (calls.map (Call.recorded setup))).links =
      (calls.flatMap (Call.pages setup)).map Address.indexEntry := by
    rw [Session.links_joined, List.flatMap_map, List.map_flatMap]
    exact List.flatMap_congr fun call _ => call.links_recorded setup
  have hlangs : (Session.joined (calls.map (Call.recorded setup))).langs =
      (calls.flatMap (Call.versions setup)).map Address.indexEntry := by
    rw [Session.langs_joined, List.flatMap_map, List.map_flatMap]
    exact List.flatMap_congr fun call _ => call.langs_recorded setup
  refine ⟨⟨?_, ?_, ?_, ?_, ?_⟩, fun call => Call.perform_of_fails⟩
  · rw [hsession, Session.errors_append]
    exact List.prefix_append _ _
  · rw [hsession, Session.tags_append]
    exact List.prefix_append _ _
  · rw [hsession, Session.links_append, hlinks]
  · rw [hsession, Session.langs_append, hlangs]
  · intro entry hentry
    rw [hsession, Session.links_append, Session.langs_append, List.drop_left, List.drop_left, hlinks,
      hlangs, ← List.map_append] at hentry
    obtain ⟨ref, -, rfl⟩ := List.mem_map.mp hentry
    exact indexEntry_normal ref

/-- A link, an image and a version of the page, and then a link that cannot be resolved. -/
theorem session_append_only_unresolved :
    let setup : Setup := .bare ⟨"doc".toList, "en".toList, homepage⟩
    let calls : List Call :=
      [.linkUrl "Guide/Set%20up#Intro".toList [], .imageUrl "Guide".toList,
       .scripts "\x7b\x7blang: :de:Start\x7d\x7d".toList]
    let s : State := run setup calls {}
    let broken : Call := .linkUrl ("user:".toList ++ List.replicate 4301 '1') []
    s.session.links = [⟨"doc".toList, "en".toList, "guide/set-up".toList, none⟩] ∧
      s.session.langs = [⟨"doc".toList, "de".toList, "start".toList, none⟩] ∧
      broken.perform setup s = s := by
  intro setup calls s broken
  have hgrows := session_append_only setup calls {}
  have hfails : broken.succeeds setup s = false := by decide +kernel
  have hpages : (calls.flatMap (Call.pages setup)).map Address.indexEntry =
      [⟨"doc".toList, "en".toList, "guide/set-up".toList, none⟩] := by decide +kernel
  have hversions : (calls.flatMap (Call.versions setup)).map Address.indexEntry =
      [⟨"doc".toList, "de".toList, "start".toList, none⟩] := by decide +kernel
  refine ⟨?_, ?_, (session_append_only setup calls s).2 broken rfl hfails⟩
  · rw [hgrows.1.links, hpages]
    rfl
  · rw [hgrows.1.langs, hversions]
    rfl

end Conversion
end WikiMarkup
