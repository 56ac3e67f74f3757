import WikiMarkup.Proofs.Conversion.Run
import WikiMarkup.Proofs.Text.Digit
import WikiMarkup.Proofs.Text.Slug

/-!
# Anchors of headings

No two headings of a page share an anchor, in whatever order headings and other calls come. The
invariant of a run ties the anchors in use to the headings that have them; what one heading adds to
it is an anchor that was free, because the search for a number behind it ends at the first free one.
-/

namespace WikiMarkup
namespace Conversion

open Slug

/-! ## The search for a free number -/

theorem numbered_injective (anchor : Text) : Function.Injective (numbered anchor) := by
  intro m n h
  apply Digit.write_injective
  simpa [numbered] using h

theorem numbered_ne_self (anchor : Text) (n : Nat) : numbered anchor n ≠ anchor := by
  intro h
  have hlength := congrArg List.length h
  simp [numbered] at hlength

/-- The search stops at the first number whose digits are not taken. -/
theorem firstFree_spec (count : Nat) (taken : List Text) (n : Nat) (h : taken.length ≤ count) :
    n ≤ firstFree count taken n ∧ Digit.write (firstFree count taken n) ∉ taken ∧
      ∀ j, n ≤ j → j < firstFree count taken n → Digit.write j ∈ taken := by
  induction count generalizing taken n with
  | zero =>
    obtain rfl : taken = [] := List.length_eq_zero_iff.mp (Nat.le_zero.mp h)
    refine ⟨Nat.le_refl n, by simp, ?_⟩
    intro j hj hlt
    exact absurd hj (Nat.not_le.mpr hlt)
  | succ count ih =>
    unfold firstFree
    simp only [List.contains_iff_mem]
    split
    · rename_i hmem
      have hlength : (taken.erase (Digit.write n)).length ≤ count := by
        rw [List.length_erase_of_mem hmem]
        omega
      obtain ⟨hle, hfree, hall⟩ := ih (taken.erase (Digit.write n)) (n + 1) hlength
      refine ⟨by omega, ?_, ?_⟩
      · -- a number that has been passed is behind the search, so leaving it out hides nothing
        intro hin
        have hne : Digit.write (firstFree count (taken.erase (Digit.write n)) (n + 1)) ≠
            Digit.write n := by
          intro heq
          have := Digit.write_injective heq
          omega
        exact hfree ((List.mem_erase_of_ne hne).mpr hin)
      · intro j hj hlt
        rcases Nat.eq_or_lt_of_le hj with rfl | hj
        · exact hmem
        · exact List.mem_of_mem_erase (hall j hj hlt)
    · rename_i hmem
      refine ⟨Nat.le_refl n, hmem, ?_⟩
      intro j hj hlt
      exact absurd hj (Nat.not_le.mpr hlt)

theorem write_mem_taken_iff {used : List Text} {anchor : Text} {n : Nat} :
    Digit.write n ∈ used.filterMap (Text.dropPrefix? (anchor ++ ['-'])) ↔
      numbered anchor n ∈ used := by
  rw [List.mem_filterMap]
  constructor
  · rintro ⟨a, ha, hdrop⟩
    have hsplit := Text.dropPrefix?_eq_some_iff.mp hdrop
    simpa [numbered, hsplit] using ha
  · intro h
    refine ⟨numbered anchor n, h, Text.dropPrefix?_eq_some_iff.mpr ?_⟩
    simp [numbered]

/-- The anchor that a heading gets where some are in use: its own if that is free, else its own with
the least number from two on that makes it free. -/
def IsFreeAnchor (used : List Text) (own anchor : Text) : Prop :=
  (own ∉ used ∧ anchor = own) ∨
    (own ∈ used ∧ ∃ k, IsLeast {n | 2 ≤ n ∧ numbered own n ∉ used} k ∧ k ≤ used.length + 1 ∧
      anchor = numbered own k)

/-- If the numbers below `k` are all taken, there are as many anchors in use. -/
theorem bound_of_all_used {used : List Text} {own : Text} {k : Nat} (hown : own ∈ used)
    (h : ∀ j, 2 ≤ j → j < k → numbered own j ∈ used) : k ≤ used.length + 1 := by
  -- the anchor itself and the numbered ones are different texts, all of them in use
  have hnodup : (own :: (List.range' 2 (k - 2)).map (numbered own)).Nodup := by
    rw [List.nodup_cons]
    refine ⟨?_, (List.nodup_range').map (numbered_injective own)⟩
    intro hmem
    obtain ⟨j, -, hj⟩ := List.mem_map.mp hmem
    exact numbered_ne_self own j hj
  have hsub : own :: (List.range' 2 (k - 2)).map (numbered own) ⊆ used := by
    intro a ha
    rcases List.mem_cons.mp ha with rfl | ha
    · exact hown
    · obtain ⟨j, hj, rfl⟩ := List.mem_map.mp ha
      have hrange := List.mem_range'_1.mp hj
      exact h j hrange.1 (by omega)
  have hle := (hnodup.subperm hsub).length_le
  simp only [List.length_cons, List.length_map, List.length_range'] at hle
  omega

theorem isFreeAnchor_freeAnchor (used : List Text) (own : Text) :
    IsFreeAnchor used own (freeAnchor used own) := by
  simp only [freeAnchor, List.contains_iff_mem]
  split
  · rename_i hown
    obtain ⟨hle, hfree, hall⟩ := firstFree_spec _
      (used.filterMap (Text.dropPrefix? (own ++ ['-']))) 2 (Nat.le_refl _)
    rw [write_mem_taken_iff] at hfree
    refine Or.inr ⟨hown, _, ⟨⟨hle, hfree⟩, ?_⟩, ?_, rfl⟩
    · intro n hn
      by_contra hlt
      exact hn.2 (write_mem_taken_iff.mp (hall n hn.1 (Nat.not_le.mp hlt)))
    · exact bound_of_all_used hown fun j hj hlt => write_mem_taken_iff.mp (hall j hj hlt)
  · rename_i hown
    exact Or.inl ⟨hown, rfl⟩

theorem IsFreeAnchor.not_mem {used : List Text} {own anchor : Text}
    (h : IsFreeAnchor used own anchor) : anchor ∉ used := by
  rcases h with ⟨hfree, rfl⟩ | ⟨-, k, hleast, -, rfl⟩
  · exact hfree
  · exact hleast.1.2

/-! ## One heading -/

/-- What registering a heading can do: fail on a number that is too long, give a level only, or take
a free anchor and add an entry under it. -/
theorem addHeading_cases (html : Text) (level : Int) (s : State) :
    (∃ e, headingTitle html = .error e ∧ addHeading html level s = (.error e, s)) ∨
    (∃ title, headingTitle html = .ok title ∧ ofHeading title = [] ∧
      addHeading html level s = (.ok (outputLevel s level, none), s)) ∨
    ∃ title anchor, headingTitle html = .ok title ∧ ofHeading title ≠ [] ∧
      IsFreeAnchor s.anchors (Anchor.mark ++ ofHeading title) anchor ∧
      addHeading html level s =
        (.ok (outputLevel s level, some anchor),
          { s with
            anchors := s.anchors ++ [anchor]
            headings := s.headings ++ [⟨outputLevel s level, title, anchor⟩] }) := by
  cases htitle : headingTitle html with
  | error e =>
    refine Or.inl ⟨e, rfl, ?_⟩
    simp [addHeading, bind, Action.andThen, Action.look, Action.ofExcept, htitle]
  | ok title =>
    by_cases hslug : ofHeading title = []
    · refine Or.inr (Or.inl ⟨title, rfl, hslug, ?_⟩)
      simp [addHeading, bind, pure, Action.andThen, Action.give, Action.look, Action.ofExcept,
        htitle, hslug]
    · refine Or.inr (Or.inr ⟨title, _, rfl, hslug, isFreeAnchor_freeAnchor _ _, ?_⟩)
      simp [addHeading, bind, pure, Action.andThen, Action.give, Action.look, Action.change,
        Action.ofExcept, htitle, hslug]

/-- The level of a heading is given whether it has words or not. -/
theorem addHeading_level (html : Text) (level : Int) (s : State) :
    (addHeading html level s).1.map Prod.fst =
      (headingTitle html).map fun _ => outputLevel s level := by
  rcases addHeading_cases html level s with
    ⟨e, htitle, heq⟩ | ⟨title, htitle, -, heq⟩ | ⟨title, anchor, htitle, -, -, heq⟩
  all_goals
    rw [heq, htitle]
    rfl

/-- Registering a heading moves along what new headings and anchors move along. -/
theorem moves_addHeading {R : State → State → Prop} [IsPreorder State R]
    (hheadings : ∀ (s : State) anchors headings, R s { s with anchors, headings }) (html : Text)
    (level : Int) : Action.Moves R (addHeading html level) := by
  intro s
  rcases addHeading_cases html level s with
    ⟨e, -, heq⟩ | ⟨title, -, -, heq⟩ | ⟨title, anchor, -, -, -, heq⟩
  · rw [heq]
    exact refl_of R s
  · rw [heq]
    exact refl_of R s
  · rw [heq]
    exact hheadings s _ _

theorem outputLevel_bounds {s : State} {level : Int} (htop : s.headingTop = 1 ∨ s.headingTop = 2)
    (hlevel : 1 ≤ level ∧ level ≤ 6) : 1 ≤ outputLevel s level ∧ outputLevel s level ≤ 6 := by
  simp only [outputLevel, lowestLevel]
  omega

/-! ## The invariant of a run -/

/-- The headings of a conversion and the anchors in use: each heading has one of its own, a mark
with a row of words behind it. -/
structure HeadingsInOrder (s : State) : Prop where
  anchors : s.anchors = s.headings.map (·.id)
  nodup : s.anchors.Nodup
  form : ∀ a ∈ s.anchors, ∃ slug, IsWordRow slug ∧ a = Anchor.mark ++ slug
  top : s.headingTop = 1 ∨ s.headingTop = 2

theorem headingsInOrder_fresh : HeadingsInOrder {} where
  anchors := rfl
  nodup := List.nodup_nil
  form a ha := by cases ha
  top := Or.inl rfl

/-- A free anchor of a row of words is again a mark with a row of words. -/
theorem IsFreeAnchor.form {used : List Text} {slug anchor : Text} (hslug : IsWordRow slug)
    (h : IsFreeAnchor used (Anchor.mark ++ slug) anchor) :
    ∃ slug', IsWordRow slug' ∧ anchor = Anchor.mark ++ slug' := by
  rcases h with ⟨-, rfl⟩ | ⟨-, k, -, -, rfl⟩
  · exact ⟨slug, hslug, rfl⟩
  · refine ⟨slug ++ '-' :: Digit.write k, hslug.concat ⟨Digit.write_ne_nil k, ?_⟩, ?_⟩
    · intro c hc
      exact Or.inr (Digit.isDigit_of_mem_write hc)
    · simp [numbered]

theorem HeadingsInOrder.addHeading {s : State} (h : HeadingsInOrder s) (html : Text)
    (level : Int) : HeadingsInOrder (addHeading html level s).2 := by
  rcases addHeading_cases html level s with
    ⟨e, -, heq⟩ | ⟨title, -, -, heq⟩ | ⟨title, anchor, -, hslug, hfree, heq⟩
  · rwa [heq]
  · rwa [heq]
  · rw [heq]
    refine ⟨by simp [h.anchors], ?_, ?_, h.top⟩
    · rw [List.nodup_append]
      refine ⟨h.nodup, List.nodup_singleton anchor, ?_⟩
      intro a ha b hb hab
      rw [List.mem_singleton] at hb
      subst hb
      subst hab
      exact hfree.not_mem ha
    · intro a ha
      rcases List.mem_append.mp ha with ha | ha
      · exact h.form a ha
      · rw [List.mem_singleton] at ha
        subst ha
        exact hfree.form (isWordRow_ofHeading hslug)

/-! ## The other calls -/

/-- The headings and their anchors stay as they are; the level of the first may become two. -/
def KeepsHeadings (s t : State) : Prop :=
  t.anchors = s.anchors ∧ t.headings = s.headings ∧
    (t.headingTop = s.headingTop ∨ t.headingTop = 2)

instance : IsPreorder State KeepsHeadings where
  refl s := ⟨rfl, rfl, Or.inl rfl⟩
  trans s t u hst htu := by
    refine ⟨htu.1.trans hst.1, htu.2.1.trans hst.2.1, ?_⟩
    rcases htu.2.2 with htop | htop
    · rw [htop]
      exact hst.2.2
    · exact Or.inr htop

theorem HeadingsInOrder.of_keeps {s t : State} (h : HeadingsInOrder s) (hst : KeepsHeadings s t) :
    HeadingsInOrder t := by
  obtain ⟨hanchors, hheadings, htop⟩ := hst
  refine ⟨by rw [hanchors, hheadings, h.anchors], by rw [hanchors]; exact h.nodup,
    by rw [hanchors]; exact h.form, ?_⟩
  rcases htop with htop | htop
  · rw [htop]
    exact h.top
  · exact Or.inr htop

theorem keepsHeadings_session (s : State) (f : Session → Session) :
    KeepsHeadings s { s with session := f s.session } :=
  ⟨rfl, rfl, Or.inl rfl⟩

/-- No command touches the headings that are there. -/
theorem keepsHeadings_command (setup : Setup) (name : Text) (args : List Text) (raw : Text) :
    Action.Moves KeepsHeadings (runCommand setup name args raw) := by
  cases hkind : Command.kind? name with
  | none =>
    unfold runCommand
    rw [hkind]
    exact moves_record keepsHeadings_session _
  | some kind =>
    cases kind with
    | lang => exact moves_lang keepsHeadings_session setup hkind args raw
    | theme =>
      unfold runCommand
      rw [hkind]
      refine Action.moves_change fun s => ⟨rfl, rfl, ?_⟩
      by_cases hraw : (raw == homepage) = true
      · exact Or.inr (if_pos hraw)
      · exact Or.inl (if_neg hraw)
    | _ =>
      unfold runCommand
      rw [hkind]
      exact fun s => ⟨rfl, rfl, Or.inl rfl⟩

theorem keepsHeadings_scripts (setup : Setup) (t : Text) :
    Action.Moves KeepsHeadings (scripts setup t) := by
  refine Action.moves_replacePieces (fun script => ?_) _
  unfold Conversion.script
  split
  · exact Action.moves_pure _
  · exact Action.moves_bind (keepsHeadings_command setup _ _ _) fun _ => Action.moves_pure _

/-- Only a call for a heading adds to the headings. -/
theorem Call.keepsHeadings (setup : Setup) (call : Call) (s : State) :
    (∃ html level, call = .heading html level) ∨ KeepsHeadings s (call.perform setup s) := by
  cases call with
  | heading html level => exact Or.inl ⟨html, level, rfl⟩
  | scripts t => exact Or.inr (keepsHeadings_scripts setup t s)
  | command name args raw => exact Or.inr (keepsHeadings_command setup name args raw s)
  | _ => exact Or.inr (Call.moves_perform keepsHeadings_session rfl setup s)

/-- Every call keeps the headings in order. -/
theorem HeadingsInOrder.perform {s : State} (h : HeadingsInOrder s) (setup : Setup)
    (call : Call) : HeadingsInOrder (call.perform setup s) := by
  rcases call.keepsHeadings setup s with ⟨html, level, rfl⟩ | hkeeps
  · exact h.addHeading html level
  · exact h.of_keeps hkeeps

/-- Every run of a fresh conversion keeps the headings in order. -/
theorem headingsInOrder_run (setup : Setup) (calls : List Call) :
    HeadingsInOrder (run setup calls {}) := by
  have hstep : ∀ call s, HeadingsInOrder s → HeadingsInOrder (Call.perform setup call s) :=
    fun call s hs => hs.perform setup call
  exact run_invariant hstep calls {} headingsInOrder_fresh

/-- After any run of a fresh conversion no two headings have the same anchor, the anchors in use are
those of the headings, and each is the mark with a row of words. The next heading gets a level from
one to six. Without words it gets no anchor and changes nothing; with words it gets its own anchor
if that is free, else its own with the least free number from two on, which the search meets after
at most as many tries as there are anchors in use. -/
theorem heading_anchors_distinct (setup : Setup) (calls : List Call) :
    let s := run setup calls {}
    (s.headings.map (·.id)).Nodup ∧ (∀ a, a ∈ s.anchors ↔ a ∈ s.headings.map (·.id)) ∧
      (∀ h ∈ s.headings, ∃ slug, IsWordRow slug ∧ h.id = Anchor.mark ++ slug) ∧
      ∀ (html : Text) (level : Int), 1 ≤ level ∧ level ≤ 6 →
        match headingTitle html with
        | .error e => addHeading html level s = (.error e, s)
        | .ok title => ∃ out : Int, (1 ≤ out ∧ out ≤ 6) ∧
          (ofHeading title = [] → addHeading html level s = (.ok (out, none), s)) ∧
          (ofHeading title ≠ [] → ∃ anchor,
            IsFreeAnchor s.anchors (Anchor.mark ++ ofHeading title) anchor ∧
              addHeading html level s =
                (.ok (out, some anchor),
                  { s with
                    anchors := s.anchors ++ [anchor]
                    headings := s.headings ++ [⟨out, title, anchor⟩] })) := by
  intro s
  have hinv : HeadingsInOrder s := headingsInOrder_run setup calls
  refine ⟨by rw [← hinv.anchors]; exact hinv.nodup, fun a => by rw [hinv.anchors], ?_, ?_⟩
  · intro h hh
    apply hinv.form
    rw [hinv.anchors]
    exact List.mem_map_of_mem hh
  · intro html level hlevel
    have hout := outputLevel_bounds hinv.top hlevel
    rcases addHeading_cases html level s with
      ⟨e, htitle, heq⟩ | ⟨title, htitle, hslug, heq⟩ | ⟨title, anchor, htitle, hslug, hfree, heq⟩
    · rw [htitle]
      exact heq
    · rw [htitle]
      exact ⟨_, hout, fun _ => heq, fun hne => absurd hslug hne⟩
    · rw [htitle]
      exact ⟨_, hout, fun hnil => absurd hnil hslug, fun _ => ⟨anchor, hfree, heq⟩⟩

/-- A heading that ends in a number takes the anchor that the second of two equal headings would
have got, so the search goes on to three. -/
theorem heading_anchors_distinct_step :
    let s := run (.bare ⟨"doc".toList, "en".toList, homepage⟩)
      [.heading "Step 2".toList 2, .heading "Step".toList 2] {}
    (1 ≤ (2 : Int) ∧ (2 : Int) ≤ 6) ∧ headingTitle "Step".toList = .ok "Step".toList ∧
      ∃ anchor, IsFreeAnchor s.anchors "toc-step".toList anchor ∧
        anchor = "toc-step-3".toList ∧ (addHeading "Step".toList 2 s).1 = .ok (2, some anchor) := by
  intro s
  have htitle : headingTitle "Step".toList = .ok "Step".toList := rfl
  have hslug : ofHeading "Step".toList = "step".toList := rfl
  have hresult : (addHeading "Step".toList 2 s).1 = .ok (2, some "toc-step-3".toList) := by
    decide
  have h := (heading_anchors_distinct (.bare ⟨"doc".toList, "en".toList, homepage⟩)
    [.heading "Step 2".toList 2, .heading "Step".toList 2]).2.2.2 "Step".toList 2 (by decide)
  rw [htitle] at h
  obtain ⟨out, -, -, hnew⟩ := h
  obtain ⟨anchor, hfree, heq⟩ := hnew (by rw [hslug]; decide)
  rw [hslug] at hfree
  have hanchor : anchor = "toc-step-3".toList := by
    have hpair : (out, some anchor) = (2, some "toc-step-3".toList) := by
      rw [heq] at hresult
      exact Except.ok.inj hresult
    exact Option.some.inj (Prod.mk.inj hpair).2
  exact ⟨by decide, htitle, anchor, hfree, hanchor, by rw [hresult, hanchor]⟩

end Conversion
end WikiMarkup
