import WikiMarkup.Proofs.Conversion.Declaration
import WikiMarkup.Proofs.Conversion.Heading
import WikiMarkup.Proofs.Conversion.Reference

/-!
# Marked links

Whether the links that leave the wiki are marked is what the last command about it says, whatever
other calls come between the commands. Which links leave the wiki is then told by their URL: those
are marked that have two slashes in it. An address of the web may have none, and then it is not
marked, although its token is external; a link to a page never is.
-/

namespace WikiMarkup

open Text

/-! ## Addresses of the web -/

namespace Token

/-- The beginnings of an address of the web. -/
def webStarts : List String := ["http:", "https:", "ftp:", "ftp.", "www."]

/-- Whether a token begins like an address of the web, in any case. -/
def IsWeb (token : Text) : Prop :=
  ∃ start ∈ webStarts, (dropPrefixAnyCase? start.toList token).isSome = true

instance (token : Text) : Decidable (IsWeb token) :=
  inferInstanceAs (Decidable (∃ start ∈ webStarts, _))

variable {token : Text}

/-- An address of the web stands for itself. -/
theorem IsWeb.isFinal (h : IsWeb token) : IsFinal token := by
  obtain ⟨start, hstart, hsome⟩ := h
  have hexternal : start ∈ externalStarts := by
    simp only [webStarts, List.mem_cons, List.not_mem_nil, or_false] at hstart
    rcases hstart with rfl | rfl | rfl | rfl | rfl <;> simp [externalStarts]
  left
  rw [isExternal, Bool.or_eq_true]
  exact Or.inr (List.any_eq_true.mpr ⟨start, hexternal, hsome⟩)

/-- An address of the web is a first letter in some case with more behind it. -/
theorem IsWeb.head (h : IsWeb token) :
    ∃ letter ∈ ['h', 'f', 'w'], ∃ c rest, token = c :: rest ∧ isCaseOf letter c = true := by
  obtain ⟨start, hstart, hsome⟩ := h
  obtain ⟨rest, hrest⟩ := Option.isSome_iff_exists.mp hsome
  obtain ⟨letter, hletter, start', hcons⟩ : ∃ letter ∈ ['h', 'f', 'w'], ∃ start',
      start.toList = letter :: start' := by
    simp only [webStarts, List.mem_cons, List.not_mem_nil, or_false] at hstart
    rcases hstart with rfl | rfl | rfl | rfl | rfl
    all_goals exact ⟨_, by decide, _, rfl⟩
  rw [hcons] at hrest
  obtain ⟨c, rest', htoken, hcase, -⟩ := dropPrefixAnyCase?_cons hrest
  exact ⟨letter, hletter, c, rest', htoken, hcase⟩

/-- An address of the web does not take its name from the text of a link. -/
theorem IsWeb.not_mem_textBooks (h : IsWeb token) :
    trimEnd (· == ':') token ∉ Conversion.textBooks := by
  obtain ⟨letter, hletter, c, rest, rfl, hcase⟩ := h.head
  intro hbook
  have hbegins : trimEnd (· == ':') (c :: rest) <+: c :: rest := List.rdropWhile_prefix _ _
  -- both books begin with another letter
  obtain ⟨hc, hnot⟩ : (c = 'a' ∨ c = 'p') ∧ (isCaseOf letter 'a' = false ∧
      isCaseOf letter 'p' = false) := by
    constructor
    · simp only [Conversion.textBooks, List.mem_cons, List.not_mem_nil, or_false] at hbook
      rcases hbook with hbook | hbook
      · rw [hbook] at hbegins
        exact Or.inl (List.cons_prefix_cons.mp hbegins).1.symm
      · rw [hbook] at hbegins
        exact Or.inr (List.cons_prefix_cons.mp hbegins).1.symm
    · simp only [List.mem_cons, List.not_mem_nil, or_false] at hletter
      rcases hletter with rfl | rfl | rfl <;> exact ⟨rfl, rfl⟩
  rcases hc with rfl | rfl
  · rw [hnot.1] at hcase
    cases hcase
  · rw [hnot.2] at hcase
    cases hcase

/-- White space around an address of the web makes no difference. -/
theorem IsWeb.trim (h : IsWeb token) : IsWeb (trim token) := by
  obtain ⟨start, hstart, hsome⟩ := h
  obtain ⟨rest, hrest⟩ := Option.isSome_iff_exists.mp hsome
  obtain ⟨row, rfl, hlength, hrow, hagain⟩ := dropPrefixAnyCase?_eq_some hrest
  -- the beginning has no white space, so only the end is trimmed
  obtain ⟨hlong, hplain⟩ : 0 < start.toList.length ∧
      (start.toList.all fun letter => !isBlank letter) = true := by
    simp only [webStarts, List.mem_cons, List.not_mem_nil, or_false] at hstart
    rcases hstart with rfl | rfl | rfl | rfl | rfl
    all_goals exact ⟨Nat.zero_lt_succ _, rfl⟩
  have hkept : ∀ c ∈ row, isBlank c = false := by
    intro c hc
    obtain ⟨letter, hletter, hcase⟩ := hrow c hc
    by_contra hblank
    rw [Bool.not_eq_false] at hblank
    have hnot := List.all_eq_true.mp hplain letter hletter
    rw [← eq_of_isCaseOf_blank hcase hblank, hblank] at hnot
    cases hnot
  have hne : row ≠ [] := List.length_pos_iff.mp (hlength ▸ hlong)
  refine ⟨start, hstart, ?_⟩
  rw [Text.trim, trimBy_append_kept hne hkept, hagain, Option.isSome_some]

end Token

namespace Conversion

/-! ## What the commands say -/

/-- What a command says about the mark, if it is one for it: it asks for the mark, unless its first
argument takes it back. -/
def marking (name : Text) (args : List Text) : Option Bool :=
  if Command.kind? name = some .nofollow then some (args.head? != some no) else none

/-- What a command of a page says about the mark. -/
def markingOf (c : Command) : Option Bool := marking c.name (Command.arguments c.raw)

/-- What the commands of a call say about the mark, one after the other. -/
def Call.markings (setup : Setup) : Call → List Bool
  | .command name args _ => (marking name args).toList
  | .scripts t => (performed setup t).filterMap markingOf
  | .resolve _ | .pageUrl _ | .linkUrl _ _ | .imageUrl _ | .references _ | .heading _ _ => []

/-- Whether the links of a page are to be marked behind some calls: what the last command says. -/
def asksForMark (setup : Setup) (calls : List Call) : Bool :=
  ((calls.flatMap (Call.markings setup)).getLast?).getD false

/-- Links are marked as they were. -/
def KeepsNofollow (s t : State) : Prop := t.nofollow = s.nofollow

instance : IsPreorder State KeepsNofollow where
  refl _ := rfl
  trans _ _ _ hst htu := htu.trans hst

theorem keepsNofollow_session (s : State) (f : Session → Session) :
    KeepsNofollow s { s with session := f s.session } := rfl

/-- A command for the mark counts, and no other does. -/
theorem nofollow_command (setup : Setup) (name : Text) (args : List Text) (raw : Text) (s : State) :
    (runCommand setup name args raw s).2.nofollow = (marking name args).getD s.nofollow := by
  cases hkind : Command.kind? name with
  | none => simp [runCommand, marking, hkind, Action.record, Action.change]
  | some kind =>
    cases kind with
    | lang =>
      have hkeeps : (runCommand setup name args raw s).2.nofollow = s.nofollow :=
        moves_lang keepsNofollow_session setup hkind args raw s
      simp [hkeeps, marking, hkind]
    | _ => simp [runCommand, marking, hkind, Action.record, Action.change]

/-- Of two that say something, one after the other, the last counts. -/
theorem getLast?_append_getD (first second : List Bool) (before : Bool) :
    ((first ++ second).getLast?).getD before =
      (second.getLast?).getD ((first.getLast?).getD before) := by
  cases hsecond : second.getLast? with
  | none => simp [List.getLast?_eq_none_iff.mp hsecond]
  | some last => simp [List.getLast?_append, hsecond]

theorem nofollow_commands (setup : Setup) (commands : List Command) (s : State) :
    (run setup (commands.map Command.call) s).nofollow =
      ((commands.filterMap markingOf).getLast?).getD s.nofollow := by
  induction commands generalizing s with
  | nil => rfl
  | cons c commands ih =>
    have hfirst : (c.call.perform setup s).nofollow = (markingOf c).getD s.nofollow :=
      nofollow_command setup c.name (Command.arguments c.raw) c.raw s
    have hstep : run setup ((c :: commands).map Command.call) s =
      run setup (commands.map Command.call) (c.call.perform setup s) := rfl
    rw [hstep, ih, hfirst]
    cases hmarking : markingOf c with
    | none => rw [List.filterMap_cons_none hmarking, Option.getD_none]
    | some asked =>
      rw [List.filterMap_cons_some hmarking, ← List.singleton_append, getLast?_append_getD]
      rfl

/-- What a call does to the mark is what its commands say. -/
theorem Call.nofollow_perform (setup : Setup) (call : Call) (s : State) :
    (call.perform setup s).nofollow = ((call.markings setup).getLast?).getD s.nofollow := by
  cases call with
  | command name args raw =>
    show (runCommand setup name args raw s).2.nofollow = _
    rw [nofollow_command, Call.markings]
    cases marking name args <;> rfl
  | scripts t =>
    rw [Call.perform, scripts_snd]
    exact nofollow_commands setup (performed setup t) s
  | heading html level =>
    exact moves_addHeading (R := KeepsNofollow) (fun _ _ _ => rfl) html level s
  | _ => exact Call.moves_perform keepsNofollow_session rfl setup s

/-- After any run the links are marked as the last command about it says. -/
theorem nofollow_run (setup : Setup) (calls : List Call) :
    (run setup calls {}).nofollow = asksForMark setup calls := by
  induction calls using List.reverseRecOn with
  | nil => rfl
  | append_singleton calls call ih =>
    rw [run_append, asksForMark, List.flatMap_append, List.flatMap_singleton,
      getLast?_append_getD]
    exact (call.nofollow_perform setup _).trans (congrArg _ ih)

/-! ## Links and references -/

theorem lead_of_isFinal {token : Text} (h : Token.IsFinal token) (setup : Setup) (s : State) :
    (lead setup token s).1 = .ok (token, isMarked s token) := by
  show ((resolve setup token).andThen _ s).1 = _
  rw [resolve_andThen_of_ok (Link.resolve_of_isFinal h setup.files setup.site setup.page)]
  rfl

section Page

variable {setup : Setup} {token : Text} {r : Link.Resolution} {ref : PageRef}
  (h : Link.resolve setup.files setup.site setup.page token = .ok r)
  (hpage : r.destination = .page ref)

include h hpage

theorem lead_page (s : State) :
    (lead setup token s).1 = .ok (Address.ofPage ref setup.page setup.site, false) := by
  show ((resolve setup token).andThen _ s).1 = _
  rw [resolve_andThen_of_ok h, hpage]
  rfl

theorem linkUrl_page {link text : Text} (htoken : linkToken link text = .ok token) (s : State) :
    (linkUrl setup link text s).1 = .ok (Address.ofPage ref setup.page setup.site, false) := by
  unfold linkUrl
  rw [htoken]
  show ((resolve setup token).andThen _ s).1 = _
  rw [resolve_andThen_of_ok h, hpage]
  rfl

end Page

/-- After any run, a link and a reference to an address of the web are marked if the last command
about it asks for the mark and the address has two slashes in it; those to a page are not marked. -/
theorem marked_run (setup : Setup) (calls : List Call) :
    let s := run setup calls {}
    (∀ token, Token.IsWeb token → '%' ∉ token →
        let marked := asksForMark setup calls && hasPart "//".toList token
        (∀ text, (linkUrl setup token text s).1 = .ok (token, marked)) ∧
          ∀ label, WritesLink (reference setup ⟨token, label⟩ s).1 (.ok (trim token, marked))) ∧
      ∀ token r ref, Link.resolve setup.files setup.site setup.page token = .ok r →
        r.destination = .page ref →
        let url := Address.ofPage ref setup.page setup.site
        (∀ link text, linkToken link text = .ok token →
            (linkUrl setup link text s).1 = .ok (url, false)) ∧
          ∀ r : Reference, r.token = token →
            WritesLink (reference setup r s).1 (.ok (url, false)) := by
  intro s
  constructor
  · intro token hweb hpercent marked
    have hmarked : isMarked s token = marked := by
      rw [isMarked, nofollow_run]
    constructor
    · intro text
      rw [linkUrl_eq_lead setup hpercent hweb.not_mem_textBooks text,
        lead_of_isFinal hweb.isFinal, hmarked]
    · intro label
      -- trimming takes away white space, and no slashes
      have hslashes : hasPart "//".toList (trim token) = hasPart "//".toList token := by
        have hplain : ∀ c ∈ "//".toList, isBlank c = false :=
          List.forall_mem_cons.mpr ⟨rfl, List.forall_mem_cons.mpr ⟨rfl, nofun⟩⟩
        rw [Bool.eq_iff_iff, hasPart_iff, hasPart_iff]
        exact infix_trimBy_iff hplain token
      have htrimmed : isMarked s (trim token) = marked := by
        rw [← hmarked, isMarked, isMarked, hslashes]
      have hwrites := (reference_eq_lead setup ⟨token, label⟩ s).1
      rwa [Reference.token, lead_of_isFinal hweb.trim.isFinal, htrimmed] at hwrites
  · intro token r ref h hpage url
    refine ⟨fun link text htoken => linkUrl_page h hpage htoken s, ?_⟩
    rintro reference rfl
    have hwrites := (reference_eq_lead setup reference s).1
    rwa [lead_page h hpage] at hwrites

/-- An address in capitals and a page, where the mark is taken back and asked for again. -/
theorem marked_run_again :
    let setup : Setup := .bare ⟨"doc".toList, "en".toList, homepage⟩
    let calls : List Call := [.scripts "\x7b\x7bnofollow: no\x7d\x7d".toList,
      .heading "Links".toList 1, .scripts "\x7b\x7bnofollow\x7d\x7d".toList]
    let s := run setup calls {}
    (linkUrl setup "HTTP://x.org".toList "here".toList s).1 = .ok ("HTTP://x.org".toList, true) ∧
      WritesLink (reference setup ⟨"HTTP://x.org ".toList, none⟩ s).1
        (.ok ("HTTP://x.org".toList, true)) ∧
      (linkUrl setup "setup".toList "here".toList s).1 = .ok ("/en/setup".toList, false) := by
  intro setup calls s
  have hasked : asksForMark setup calls = true := by decide +kernel
  have hpage : Link.resolve setup.files setup.site setup.page "setup".toList =
      .ok { destination := .page ⟨"doc".toList, "en".toList, "setup".toList, none⟩ } := by
    decide +kernel
  obtain ⟨hweb, hpages⟩ := marked_run setup calls
  rw [hasked] at hweb
  refine ⟨?_, ?_, ?_⟩
  · exact (hweb "HTTP://x.org".toList (by decide +kernel) (by decide +kernel)).1 "here".toList
  · exact (hweb "HTTP://x.org ".toList (by decide +kernel) (by decide +kernel)).2 none
  · exact (hpages "setup".toList _ _ hpage rfl).1 "setup".toList "here".toList rfl

/-- An address of the web without slashes, which is not marked although the page asks for it. -/
theorem marked_run_misses :
    let setup : Setup := .bare ⟨"doc".toList, "en".toList, homepage⟩
    let calls : List Call := [.scripts "\x7b\x7bnofollow\x7d\x7d".toList]
    let s := run setup calls {}
    let token : Text := "www.nette.org".toList
    asksForMark setup calls = true ∧ Token.IsWeb token ∧ '%' ∉ token ∧
      (linkUrl setup token "Nette".toList s).1 = .ok (token, false) ∧
      (references setup (Reference.bracketed token) s).1 =
        .ok "<a href=\"www.nette.org\">www.nette.org</a>".toList := by
  decide +kernel

end Conversion
end WikiMarkup
