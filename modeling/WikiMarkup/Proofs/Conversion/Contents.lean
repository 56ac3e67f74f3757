import WikiMarkup.Proofs.Conversion.Layout
import WikiMarkup.Proofs.Conversion.Page

/-!
# Titles and tables of contents

What a page makes of its headings. A run answers each heading with a level, and with an anchor if
something of it can be spelled in ASCII; the answers with an anchor are the entries of the page. Its
table of contents is made of these entries, and its title, if no command sets one, is that of the
first of them: so a heading that has no ASCII spelling is passed over for the title, though it has a
text.
-/

namespace WikiMarkup
namespace Conversion

open Text

/-! ## Headings of a run -/

/-- Whether something of a title can be spelled in ASCII. -/
def hasWords (title : Text) : Bool := !(Slug.ofHeading title).isEmpty

theorem hasWords_iff {title : Text} :
    hasWords title = true ↔ ∃ c ∈ Folding.toAscii title, isLetterOrDigit c = true := by
  have hnil := Slug.ofHeading_eq_nil_iff (t := title)
  simp only [hasWords, Bool.not_eq_true', List.isEmpty_eq_false_iff, ne_eq, hnil, not_forall,
    Bool.not_eq_false, exists_prop]

/-- The title of the heading that a call is for. -/
def Call.title? : Call → Option Text
  | .heading html _ => (headingTitle html).toOption
  | .resolve _ | .pageUrl _ | .linkUrl _ _ | .imageUrl _ | .references _ | .scripts _
  | .command _ _ _ => none

/-- The titles of the headings of a run, whatever they are answered with. -/
def titles (calls : List Call) : List Text := calls.filterMap Call.title?

/-- The entry of a heading that is answered with an anchor: its title, with the level and the anchor
of the answer. -/
def Call.entry? (s : State) : Call → Option Heading
  | .heading html level =>
    match headingTitle html, (addHeading html level s).1 with
    | .ok title, .ok (out, some anchor) => some ⟨out, title, anchor⟩
    | _, _ => none
  | .resolve _ | .pageUrl _ | .linkUrl _ _ | .imageUrl _ | .references _ | .scripts _
  | .command _ _ _ => none

/-- The entries of a run, in the order of the headings. -/
def entries (setup : Setup) : List Call → State → List Heading
  | [], _ => []
  | call :: calls, s => (call.entry? s).toList ++ entries setup calls (call.perform setup s)

/-- A call adds its entry to the headings, and has one exactly for a title with words. -/
theorem Call.headings_perform (setup : Setup) (call : Call) (s : State) :
    (call.perform setup s).headings = s.headings ++ (call.entry? s).toList ∧
      (call.entry? s).map (·.title) = call.title?.filter hasWords := by
  have hcases := call.keepsHeadings setup s
  cases call with
  | heading html level =>
    rw [Call.perform, Call.entry?, Call.title?]
    rcases addHeading_cases html level s with
      ⟨e, htitle, heq⟩ | ⟨title, htitle, hslug, heq⟩ | ⟨title, anchor, htitle, hslug, -, heq⟩
    · rw [htitle, heq]
      exact ⟨(List.append_nil _).symm, rfl⟩
    · have hwords : hasWords title = false := by simp [hasWords, hslug]
      rw [htitle, heq]
      exact ⟨(List.append_nil _).symm, (Option.filter_some_neg hwords).symm⟩
    · have hwords : hasWords title = true := by simp [hasWords, hslug]
      rw [htitle, heq]
      exact ⟨rfl, (Option.filter_some_pos hwords).symm⟩
  | _ =>
    -- every other call keeps the headings, whatever it answers
    rcases hcases with ⟨html, level, hcall⟩ | hkeeps
    · cases hcall
    · exact ⟨hkeeps.2.1.trans (List.append_nil _).symm, rfl⟩

theorem headings_run (setup : Setup) (calls : List Call) (s : State) :
    (run setup calls s).headings = s.headings ++ entries setup calls s := by
  induction calls generalizing s with
  | nil => exact (List.append_nil _).symm
  | cons call calls ih =>
    rw [run, List.foldl_cons, ← run, ih, (call.headings_perform setup s).1, entries,
      List.append_assoc]

theorem titles_cons (call : Call) (calls : List Call) :
    titles (call :: calls) = call.title?.toList ++ titles calls := by
  rw [titles, List.filterMap_cons]
  cases call.title? <;> rfl

/-- The entries of a run are those of its titles that have words. -/
theorem titles_entries (setup : Setup) (calls : List Call) (s : State) :
    (entries setup calls s).map (·.title) = (titles calls).filter hasWords := by
  induction calls generalizing s with
  | nil => rfl
  | cons call calls ih =>
    have hfirst : (call.entry? s).toList.map (·.title) = call.title?.toList.filter hasWords := by
      rw [← Option.toList_map, (call.headings_perform setup s).2, Option.toList_filter]
    rw [entries, List.map_append, ih, titles_cons, List.filter_append, hfirst]

/-! ## Titles -/

theorem ne_nil_of_hasWords {title : Text} (h : hasWords title = true) : title ≠ [] := by
  rintro rfl
  cases h

/-- The first title with words is the first title with a text exactly if that one has words. -/
theorem find?_hasWords_iff (titles : List Text) :
    titles.find? hasWords = titles.find? (!·.isEmpty) ↔
      ∀ first, titles.find? (!·.isEmpty) = some first → hasWords first = true := by
  have hblank : ∀ title : Text, (!(!title.isEmpty)) = true → (!hasWords title) = true := by
    intro title hempty
    by_contra hwords
    exact ne_nil_of_hasWords (by simpa using hwords) (by simpa using hempty)
  constructor
  · intro heq first hfirst
    rw [← heq] at hfirst
    exact List.find?_some hfirst
  · intro hwords
    cases hfirst : titles.find? (!·.isEmpty) with
    | none =>
      rw [List.find?_eq_none] at hfirst ⊢
      intro title htitle
      simpa using hblank title (by simpa using hfirst title htitle)
    | some first =>
      obtain ⟨-, skipped, rest, rfl, hskipped⟩ := List.find?_eq_some_iff_append.mp hfirst
      exact List.find?_eq_some_iff_append.mpr ⟨hwords first hfirst, skipped, rest, rfl,
        fun title htitle => hblank title (hskipped title htitle)⟩

/-- A page is titled by the last command for its title, or else by its first heading with words. -/
theorem title_concluded (setup : Setup) (calls : List Call) (html : Text) :
    (concluded setup calls html).title =
      (lastRaw .title (commands setup calls)).or ((titles calls).find? hasWords) := by
  have htitle : (run setup calls {}).title = lastRaw .title (commands setup calls) :=
    congrArg Layout.title (layout_run setup calls)
  have hheadings : (run setup calls {}).headings = entries setup calls {} :=
    headings_run setup calls {}
  show (run setup calls {}).title.or ((run setup calls {}).headings.head?.map (·.title)) = _
  rw [htitle, hheadings, ← List.head?_map, titles_entries, List.head?_filter]

/-- If no command of a run sets a title, the page is titled by its first heading with words: the
first with a letter or a digit in its ASCII spelling. This is the first heading with a text exactly if
that one has such a spelling. -/
theorem title_concluded_iff {setup : Setup} {calls : List Call}
    (h : ∀ c ∈ commands setup calls, c.isOf .title = false) (html : Text) :
    let title := (concluded setup calls html).title
    title = (titles calls).find? hasWords ∧
      (title = (titles calls).find? (!·.isEmpty) ↔
        ∀ first, (titles calls).find? (!·.isEmpty) = some first →
          ∃ c ∈ Folding.toAscii first, isLetterOrDigit c = true) := by
  intro title
  have htitle : title = (titles calls).find? hasWords := by
    show (concluded setup calls html).title = _
    rw [title_concluded, lastRaw_eq_none h, Option.none_or]
  refine ⟨htitle, ?_⟩
  rw [htitle, find?_hasWords_iff]
  exact forall₂_congr fun first _ => hasWords_iff

/-- A blank heading, and then one with a ligature among its letters. -/
theorem title_concluded_ligature :
    let setup : Setup := .bare ⟨"doc".toList, "de".toList, homepage⟩
    let calls : List Call :=
      [.heading "<br />".toList 1, .command "theme".toList [] homepage,
       .heading " <b>Maß</b> &amp; Zahl".toList 1, .heading "Mehr".toList 2]
    (∀ c ∈ commands setup calls, c.isOf .title = false) ∧
      (concluded setup calls []).title = some "Maß & Zahl".toList := by
  intro setup calls
  have h : ∀ c ∈ commands setup calls, c.isOf .title = false := by decide +kernel
  have hfirst : (titles calls).find? hasWords = some "Maß & Zahl".toList := by decide +kernel
  exact ⟨h, (title_concluded_iff h []).1.trans hfirst⟩

/-- A page whose first heading is made of signs, which leave nothing for an anchor: it is titled by
its second heading, and so it is reported by a conversion that reads these two headings. -/
theorem title_second_heading :
    let bare : Setup := .bare ⟨"doc".toList, "en".toList, homepage⟩
    let blocks : List Markdown.Block := [.heading 1 "???".toList, .heading 2 "Setup".toList]
    let setup : Setup :=
      { bare with markdown := ⟨fun _ => ⟨blocks, []⟩, fun _ t => [.text t]⟩ }
    let calls : List Call := [.heading "???".toList 1, .heading "Setup".toList 2]
    commands setup calls = [] ∧ (titles calls).find? (!·.isEmpty) = some "???".toList ∧
      (concluded setup calls []).title = some "Setup".toList ∧
      (convert setup "# ???\n\n## Setup".toList {}).1.map (·.title) =
        .ok (some "Setup".toList) := by
  decide +kernel

/-! ## Tables of contents -/

/-- Every heading of a run has a title. -/
theorem titled_headings (setup : Setup) (calls : List Call) :
    let headings := (run setup calls {}).headings
    headings.filter (fun h => !h.title.isEmpty) = headings := by
  intro headings
  have htitles : headings.map (·.title) = (titles calls).filter hasWords := by
    rw [← titles_entries setup calls {}]
    exact congrArg _ (headings_run setup calls {})
  rw [List.filter_eq_self]
  intro h hh
  have hmem : h.title ∈ (titles calls).filter hasWords := by
    rw [← htitles]
    exact List.mem_map_of_mem hh
  simpa using ne_nil_of_hasWords (List.mem_filter.mp hmem).2

variable {setup : Setup} {s : State}

/-- If every heading has a title, the table of contents leaves out none but the first. -/
theorem contentsFor_eq (htitled : s.headings.filter (fun h => !h.title.isEmpty) = s.headings)
    (length : Nat) :
    contentsFor setup s length =
      if wantsContents setup s length then
        if s.contentsMode = .asked titleMode then
          s.headings.modifyHead fun first => { first with level := first.level + 1 }
        else s.headings.tail
      else [] := by
  rw [contentsFor, htitled]
  cases s.headings with
  | nil => simp
  | cons first rest => simp

/-- The table of contents of a page whose last command for it is known. -/
theorem contentsFor_told (htitled : s.headings.filter (fun h => !h.title.isEmpty) = s.headings)
    (told : Option Text) (length : Nat) :
    s.contentsMode = told.elim .byLength contentsOf →
      contentsFor setup s length =
        match told with
        | none => if (length : Int) ≤ setup.contentsThreshold then [] else s.headings.tail
        | some raw =>
          if raw = no ∨ raw = [] then []
          else if raw = titleMode then
            s.headings.modifyHead fun first => { first with level := first.level + 1 }
          else s.headings.tail := by
  intro hmode
  rw [contentsFor_eq htitled, wantsContents, hmode]
  cases told with
  | none =>
    by_cases hshort : (length : Int) ≤ setup.contentsThreshold
    · simp [hshort, not_lt.mpr hshort]
    · simp [hshort, not_le.mp hshort]
  | some raw =>
    simp only [Option.elim_some, contentsOf, beq_iff_eq]
    -- a command is asked whether it says `no` before it is asked whether it says anything
    by_cases hno : raw = no
    · simp [hno]
    · by_cases hnil : raw = []
      · subst hnil
        simp [hno]
      · simp [hno, hnil]

/-- A table of contents repeats no anchor that the headings do not repeat. -/
theorem ids_contentsFor (setup : Setup) (s : State) (length : Nat) :
    ((contentsFor setup s length).map (·.id)).Sublist (s.headings.map (·.id)) := by
  have hfilter : ((s.headings.filter fun h => !h.title.isEmpty).map (·.id)).Sublist
      (s.headings.map (·.id)) := List.filter_sublist.map _
  unfold contentsFor
  cases hkept : s.headings.filter fun h => !h.title.isEmpty with
  | nil => split <;> exact List.nil_sublist _
  | cons first rest =>
    rw [hkept] at hfilter
    split
    · dsimp only
      split
      · exact hfilter
      · exact (List.sublist_cons_self _ _).trans hfilter
    · exact List.nil_sublist _

/-- The table of contents of a page is told by the last command for it and the entries of the run.
There is none if that command says so or says nothing, or if there is no such command and the page is
not long; and else it has all entries, the first a level lower, if the command asks for the title, and
all entries but the first if it does not. No two of its anchors are the same, every heading has a
title, and the headings stay as they are. -/
theorem contentsFor_run (setup : Setup) (calls : List Call) (length : Nat) :
    let s := run setup calls {}
    let found := entries setup calls {}
    (contentsFor setup s length =
      match lastRaw .contents (commands setup calls) with
      | none => if (length : Int) ≤ setup.contentsThreshold then [] else found.tail
      | some raw =>
        if raw = no ∨ raw = [] then []
        else if raw = titleMode then
          found.modifyHead fun first => { first with level := first.level + 1 }
        else found.tail) ∧
      ((contentsFor setup s length).map (·.id)).Nodup ∧
      s.headings = found ∧ s.headings.filter (fun h => !h.title.isEmpty) = s.headings ∧
      ∀ html, (conclude setup html s).2.headings = found ∧
        (conclude setup html s).2.contents = contentsFor setup s html.length := by
  intro s found
  have hheadings : s.headings = found := headings_run setup calls {}
  have htitled : s.headings.filter (fun h => !h.title.isEmpty) = s.headings :=
    titled_headings setup calls
  have horder : HeadingsInOrder s := headingsInOrder_run setup calls
  have hmode : s.contentsMode =
      (lastRaw .contents (commands setup calls)).elim .byLength contentsOf :=
    congrArg Layout.contentsMode (layout_run setup calls)
  refine ⟨?_, ?_, hheadings, htitled, fun html => ⟨hheadings, rfl⟩⟩
  · rw [← hheadings]
    exact contentsFor_told htitled _ length hmode
  · exact (horder.anchors ▸ horder.nodup).sublist (ids_contentsFor setup s length)

end Conversion
end WikiMarkup
