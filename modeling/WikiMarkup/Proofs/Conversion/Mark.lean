import WikiMarkup.Proofs.Code.Shield
import WikiMarkup.Proofs.Conversion.Declaration

/-!
# Marks in what a page declares

Scripts are run and references are resolved while marks stand for the code of the page, and only the
text gets its code back. So a mark stays in what the page declares, or in an error, where code
stands in what a command is given or in the name of an attachment that is not there, and nowhere
else.
-/

namespace WikiMarkup
namespace Conversion

open Shield Text

/-! ## What is run and resolved -/

theorem mem_performed {setup : Setup} {t : Text} {c : Command} (h : c ∈ performed setup t) :
    completes setup c = true ∧ (∀ d ∈ c.name, Command.isNameChar d = true) ∧
      ∀ d ∈ c.raw, d ∈ t := by
  obtain ⟨s, hs, hread⟩ := List.mem_filterMap.mp h
  have hruns := List.mem_takeWhile_imp hs
  rw [runs, hread, Option.all_some] at hruns
  refine ⟨hruns, fun d hd => Command.isNameChar_of_read hread hd, fun d hd => ?_⟩
  obtain ⟨prev, u, n, hu, hfind⟩ :=
    exists_of_mem_segments ((List.takeWhile_prefix _).subset hs)
  exact hu.subset (Script.mem_of_mem_body hfind (Command.mem_of_mem_raw hread hd))

theorem mem_leftover {t : Text} {d : Char} (h : d ∈ leftover t) : d ∈ t := by
  have hflat := scan_flatten Script.recognise Script.source (fun _ _ _ _ => Script.source_eq_take) t
  obtain ⟨piece, hpiece, hd⟩ := List.mem_flatMap.mp h
  rw [← hflat]
  refine List.mem_flatMap.mpr ⟨piece, hpiece, ?_⟩
  cases piece with
  | plain c => exact hd
  | found s =>
    have hleft : d ∈ s.leftover := hd
    rw [Script.leftover] at hleft
    split at hleft
    · cases hleft
    · exact hleft

theorem mem_asked {setup : Setup} {t token : Text} (h : token ∈ asked setup t) :
    leads setup token = true ∧ ∀ d ∈ token, d ∈ t := by
  rw [asked] at h
  split at h
  · obtain ⟨r, hr, rfl⟩ := List.mem_map.mp h
    have hleads : leads setup r.token = true :=
      List.mem_takeWhile_imp (p := fun r : Reference => leads setup r.token) hr
    refine ⟨hleads, fun d hd => ?_⟩
    obtain ⟨prev, u, n, hu, hfind⟩ :=
      exists_of_mem_segments ((List.takeWhile_prefix _).subset hr)
    exact mem_leftover (hu.subset (Reference.mem_of_mem_token hfind hd))
  · cases h

/-- A text without code has no marks when its code is put aside. -/
theorem edge_not_mem_protect {t : Text} (h : edge ∉ t) (hsaved : (protect t).saved = []) :
    edge ∉ (protect t).text := by
  obtain ⟨blocks, spans, pieces, left, hprotected⟩ := isProtected_protect t
  rw [hprotected.result] at hsaved ⊢
  intro hmem
  obtain ⟨piece, hpiece, hedge⟩ := List.mem_flatMap.mp hmem
  cases piece with
  | plain c =>
    rw [← List.mem_singleton.mp hedge] at hpiece
    exact hprotected.clean h hpiece
  | found n =>
    have hlt := hprotected.lt_length (List.mem_filterMap.mpr ⟨_, hpiece, rfl⟩)
    rw [List.length_eq_zero_iff.mpr hsaved] at hlt
    exact absurd hlt (Nat.not_lt_zero n)

/-! ## Errors -/

/-- The tokens that are resolved, without breaking off, in the passes over a text: those of its
commands, and then those of its references. -/
def consulted (setup : Setup) (t : Text) : List Text :=
  (performed setup t).filterMap Command.token? ++ asked setup t

theorem leads_of_mem_consulted {setup : Setup} {t token : Text}
    (h : token ∈ consulted setup t) : leads setup token = true := by
  rcases List.mem_append.mp h with h | h
  · obtain ⟨c, hc, htoken⟩ := List.mem_filterMap.mp h
    have hcompletes := (mem_performed hc).1
    rwa [completes, htoken, Option.all_some] at hcompletes
  · exact (mem_asked h).1

theorem mem_consulted {setup : Setup} {t token : Text} (h : token ∈ consulted setup t) {d : Char}
    (hd : d ∈ token) : d ∈ t := by
  rcases List.mem_append.mp h with h | h
  · obtain ⟨c, hc, htoken⟩ := List.mem_filterMap.mp h
    have harg := (Option.ite_none_right_eq_some.mp htoken).2
    exact (mem_performed hc).2.2 d (Command.mem_of_mem_argument (List.mem_of_mem_head? harg) hd)
  · exact (mem_asked h).2 d hd

theorem mem_complaints_iff {setup : Setup} {c : Command} {error : Text} :
    error ∈ complaints setup c ↔
      (Command.kind? c.name = none ∧
        error = "Unknown \x7b\x7b".toList ++ c.name ++ "\x7d\x7d".toList) ∨
      ∃ token, c.token? = some token ∧ error ∈ problems setup token := by
  rw [complaints]
  cases hkind : Command.kind? c.name with
  | none =>
    have htoken : c.token? = none := by
      rw [Command.token?, Command.isOf, hkind]
      rfl
    simp [htoken]
  | some kind => simp

/-- The errors of a page, before it is read as blocks: its unknown commands, and the attachments
that its commands and references name and that are not there. -/
theorem mem_errors_prepare_iff {setup : Setup} {t error : Text} :
    error ∈ (prepare setup t {}).2.session.errors ↔
      (∃ c ∈ performed setup (protect t).text, Command.kind? c.name = none ∧
        error = "Unknown \x7b\x7b".toList ++ c.name ++ "\x7d\x7d".toList) ∨
      ∃ token ∈ consulted setup (protect t).text, ∃ name,
        Link.IsMissing setup.files setup.site setup.page token name ∧ error = Link.missingFile name := by
  have hproblem : ∀ token ∈ consulted setup (protect t).text,
      (error ∈ problems setup token ↔ ∃ name,
        Link.IsMissing setup.files setup.site setup.page token name ∧ error = Link.missingFile name) :=
    fun token htoken => by
      rw [mem_problems_iff, and_iff_right (leads_of_mem_consulted htoken)]
  have htokens : (∃ token ∈ consulted setup (protect t).text, error ∈ problems setup token) ↔
      (∃ c ∈ performed setup (protect t).text, ∃ token, c.token? = some token ∧
        error ∈ problems setup token) ∨
      ∃ token ∈ asked setup (protect t).text, error ∈ problems setup token := by
    simp only [consulted, List.mem_append, List.mem_filterMap, or_and_right, exists_or]
    refine or_congr_left ⟨?_, ?_⟩
    · rintro ⟨token, ⟨c, hc, htoken⟩, herror⟩
      exact ⟨c, hc, token, htoken, herror⟩
    · rintro ⟨c, hc, token, htoken, herror⟩
      exact ⟨token, ⟨c, hc, htoken⟩, herror⟩
  rw [(prepare_snd setup t).2, List.mem_append, List.mem_flatMap, List.mem_flatMap]
  simp only [mem_complaints_iff, and_or_left, exists_or]
  rw [or_assoc, ← htokens]
  exact or_congr_right (exists_congr fun token => and_congr_right (hproblem token))

/-! ## Marks -/

/-- Whether no mark stands in what a page has been found to declare, nor in an error. -/
structure IsUnmarked (s : State) : Prop where
  title : ∀ t, s.title = some t → edge ∉ t
  mainTitle : ∀ t, s.mainTitle = some t → edge ∉ t
  theme : ∀ t, s.theme = some t → edge ∉ t
  themeIcon : ∀ t, s.themeIcon = some t → edge ∉ t
  contentsMode : ∀ mode, s.contentsMode = .asked mode → edge ∉ mode
  tags : ∀ t ∈ s.session.tags, edge ∉ t
  errors : ∀ t ∈ s.session.errors, edge ∉ t

/-- The kinds of commands that set a text to what they are given. -/
def textKinds : List Command.Kind := [.title, .mainTitle, .theme, .themeIcon, .contents]

theorem edge_not_mem_iconUrl_iff {setup : Setup} (hurl : edge ∉ setup.site.mediaUrl)
    (icon : Option Text) :
    (∀ t, icon.bind (iconUrl setup) = some t → edge ∉ t) ↔ ∀ raw, icon = some raw → edge ∉ raw := by
  cases icon with
  | none => simp
  | some raw =>
    cases raw with
    | nil => simp [iconUrl]
    | cons c raw =>
      have hslash : edge ≠ '/' := by decide
      simp [iconUrl, hurl, hslash]

theorem edge_not_mem_contentsOf_iff (contents : Option Text) :
    (∀ mode, contents.elim .byLength contentsOf = .asked mode → edge ∉ mode) ↔
      ∀ raw, contents = some raw → edge ∉ raw := by
  cases contents with
  | none => simp
  | some raw =>
    by_cases hno : raw = no
    · have hedge : edge ∉ no := by decide
      simp [contentsOf, hno, hedge]
    · simp [contentsOf, hno]

theorem edge_not_mem_tags_iff {commands : List Command} :
    (∀ t ∈ commands.flatMap Command.tags, edge ∉ t) ↔
      ∀ c ∈ commands, c.isOf .tags = true → edge ∉ c.raw := by
  have hcommand : ∀ c : Command, (∃ t ∈ c.tags, edge ∈ t) ↔ c.isOf .tags = true ∧ edge ∈ c.raw := by
    intro c
    rw [Command.tags]
    split
    · rename_i hof
      rw [and_iff_right hof, ← Command.mem_arguments_iff (by decide) (by decide)]
      refine exists_congr fun t => ?_
      rw [List.mem_filter, and_assoc]
      refine and_congr_right fun _ => ⟨And.right, fun hedge => ⟨?_, hedge⟩⟩
      simp [List.ne_nil_of_mem hedge]
    · rename_i hof
      simp [hof]
  constructor
  · intro h c hc hof hedge
    obtain ⟨t, ht, hmem⟩ := (hcommand c).mpr ⟨hof, hedge⟩
    exact h t (List.mem_flatMap.mpr ⟨c, hc, ht⟩) hmem
  · intro h t ht hedge
    obtain ⟨c, hc, htag⟩ := List.mem_flatMap.mp ht
    obtain ⟨hof, hraw⟩ := (hcommand c).mp ⟨t, htag, hedge⟩
    exact h c hc hof hraw

/-- No error of a page shows a mark exactly if no missing attachment does: the name of an unknown
command has none. -/
theorem edge_not_mem_errors_iff {setup : Setup} {t : Text} :
    (∀ error ∈ (prepare setup t {}).2.session.errors, edge ∉ error) ↔
      ∀ token ∈ consulted setup (protect t).text, ∀ name,
        Link.IsMissing setup.files setup.site setup.page token name → edge ∉ name := by
  have hopen : edge ∉ "Unknown \x7b\x7b".toList := by decide
  have hclose : edge ∉ "\x7d\x7d".toList := by decide
  have hfile : edge ∉ "Missing file ".toList := by decide
  -- the signs of the two messages are no edges, so only the name of a command or a file could be
  constructor
  · intro h token htoken name hmissing hedge
    refine h _ (mem_errors_prepare_iff.mpr (Or.inr ⟨token, htoken, name, hmissing, rfl⟩)) ?_
    exact List.mem_append_right _ hedge
  · intro h error herror hedge
    rcases mem_errors_prepare_iff.mp herror with ⟨c, hc, -, rfl⟩ | ⟨token, htoken, name, hm, rfl⟩
    · rw [List.mem_append, List.mem_append, or_iff_right hopen, or_iff_left hclose] at hedge
      exact absurd ((mem_performed hc).2.1 edge hedge) (by decide)
    · rcases List.mem_append.mp hedge with hedge | hedge
      · exact hfile hedge
      · exact h token htoken name hm hedge

theorem isUnmarked_iff {setup : Setup} {t : Text} (hurl : edge ∉ setup.site.mediaUrl) :
    IsUnmarked (prepare setup t {}).2 ↔
      (∀ kind ∈ textKinds, ∀ raw, lastRaw kind (performed setup (protect t).text) = some raw →
        edge ∉ raw) ∧
      (∀ c ∈ performed setup (protect t).text, c.isOf .tags = true → edge ∉ c.raw) ∧
      ∀ token ∈ consulted setup (protect t).text, ∀ name,
        Link.IsMissing setup.files setup.site setup.page token name → edge ∉ name := by
  have hdeclaration := (prepare_snd setup t).1
  simp only [State.declaration, declared, Declaration.mk.injEq] at hdeclaration
  obtain ⟨htitle, hmain, htheme, hicon, -, hcontents, -, htags⟩ := hdeclaration
  have hicon' := edge_not_mem_iconUrl_iff hurl
    (lastRaw .themeIcon (performed setup (protect t).text))
  have hcontents' := edge_not_mem_contentsOf_iff
    (lastRaw .contents (performed setup (protect t).text))
  rw [← hicon] at hicon'
  rw [← hcontents] at hcontents'
  rw [← edge_not_mem_errors_iff, ← edge_not_mem_tags_iff, ← htags]
  constructor
  · intro h
    refine ⟨?_, h.tags, h.errors⟩
    simp only [textKinds, List.forall_mem_cons]
    exact ⟨htitle ▸ h.title, hmain ▸ h.mainTitle, htheme ▸ h.theme, hicon'.mp h.themeIcon,
      hcontents'.mp h.contentsMode, fun _ hkind => absurd hkind List.not_mem_nil⟩
  · rintro ⟨htexts, htags', herrors⟩
    exact {
      title := htitle ▸ htexts .title (by decide)
      mainTitle := hmain ▸ htexts .mainTitle (by decide)
      theme := htheme ▸ htexts .theme (by decide)
      themeIcon := hicon'.mpr (htexts .themeIcon (by decide))
      contentsMode := hcontents'.mpr (htexts .contents (by decide))
      tags := htags'
      errors := herrors }

/-- Marks stand in what a page declares, or in its errors, exactly where a mark stands in what the
last command for a title, the main title, the theme, its icon or the table of contents is given, in
what a command for tags is given, or in the name of an attachment that a token asks for and that is
not there. A page without code has none. -/
theorem isUnmarked_prepare_iff {setup : Setup} {t : Text} (ht : edge ∉ t)
    (hname : edge ∉ setup.page.name) (hurl : edge ∉ setup.site.mediaUrl) :
    let shielded := (protect t).text
    ((protect t).saved = [] → IsUnmarked (prepare setup t {}).2) ∧
      (IsUnmarked (prepare setup t {}).2 ↔
        (∀ kind ∈ textKinds, ∀ raw, lastRaw kind (performed setup shielded) = some raw →
          edge ∉ raw) ∧
        (∀ c ∈ performed setup shielded, c.isOf .tags = true → edge ∉ c.raw) ∧
        ∀ token ∈ consulted setup shielded, ∀ name,
          Link.IsMissing setup.files setup.site setup.page token name → edge ∉ name) := by
  refine ⟨fun hsaved => ?_, isUnmarked_iff hurl⟩
  -- without code the shielded text has no edge, and all that is given or asked for is part of it
  have hedge : edge ∉ (protect t).text := edge_not_mem_protect ht hsaved
  refine (isUnmarked_iff hurl).mpr ⟨?_, ?_, ?_⟩
  · intro kind _ raw hraw hmem
    obtain ⟨c, hc, -, rfl⟩ := exists_of_lastRaw hraw
    exact hedge ((mem_performed hc).2.2 edge hmem)
  · intro c hc _ hmem
    exact hedge ((mem_performed hc).2.2 edge hmem)
  · rintro token htoken name ⟨target, hreads, -, rfl, -⟩ hmem
    rcases hreads.mem_name (by decide) (by decide) hmem with hmem | hmem
    · exact hedge (mem_consulted htoken hmem)
    · exact hname hmem

/-- Code beside the commands and references of a page. -/
theorem isUnmarked_prepare_beside :
    let setup : Setup := .bare ⟨"doc".toList, "en".toList, "a/b".toList⟩
    let t := "\x7b\x7btitle: A\x7d\x7d\x60x\x60 \x7b\x7btags: b, c\x7d\x7d[[attachment:d]]".toList
    (edge ∉ t ∧ edge ∉ setup.page.name ∧ edge ∉ setup.site.mediaUrl) ∧
      (protect t).saved ≠ [] ∧ IsUnmarked (prepare setup t {}).2 := by
  intro setup t
  have ht : edge ∉ t := by decide +kernel
  have hname : edge ∉ setup.page.name := by decide
  have hurl : edge ∉ setup.site.mediaUrl := by decide
  have hperformed : performed setup (protect t).text =
      [⟨"title".toList, "A".toList⟩, ⟨"tags".toList, "b, c".toList⟩] := by decide +kernel
  have hconsulted : consulted setup (protect t).text = ["attachment:d".toList] := by
    decide +kernel
  refine ⟨⟨ht, hname, hurl⟩, by decide +kernel, ?_⟩
  refine (isUnmarked_prepare_iff ht hname hurl).2.mpr ⟨?_, ?_, ?_⟩
  · rw [hperformed]
    decide +kernel
  · rw [hperformed]
    decide +kernel
  · rw [hconsulted]
    intro token htoken name hmissing
    rw [List.mem_singleton.mp htoken] at hmissing
    obtain ⟨target, hreads, -, rfl, -⟩ := hmissing
    have hread : Token.Reads "attachment:d".toList setup.page
        ⟨"attachment".toList, "en".toList, "d".toList, "d".toList, []⟩ :=
      ⟨rfl, by decide, rfl⟩
    rw [hreads.unique hread]
    decide

/-- Code in a title. -/
theorem prepare_marked_title :
    let setup : Setup := .bare ⟨"doc".toList, "en".toList, homepage⟩
    let t := "\x7b\x7btitle: \x60a\x60\x7d\x7d".toList
    (edge ∉ t ∧ edge ∉ setup.page.name ∧ edge ∉ setup.site.mediaUrl) ∧
      (prepare setup t {}).2.title = some "\x00CODE0\x00".toList ∧
      ¬ IsUnmarked (prepare setup t {}).2 := by
  intro setup t
  have htitle : (prepare setup t {}).2.title = some "\x00CODE0\x00".toList := by decide +kernel
  refine ⟨by decide +kernel, htitle, fun h => ?_⟩
  exact absurd (h.title _ htitle) (by decide)

end Conversion
end WikiMarkup
