import WikiMarkup.Proofs.Code.Shield
import WikiMarkup.Proofs.Text.LineEnd

/-!
# Code in a text with carriage returns

Behind a carriage return a line neither closes a fence nor is blank. So in a text whose lines end with
a carriage return and a line feed the first fence opens a block that goes on to the end, and a code
span may go over blank lines: what is put aside is the code of the text without carriage returns as
these two readers find it.
-/

namespace WikiMarkup

/-! ## Lines -/

namespace Text

theorem runLength_le (c : Char) (t : Text) : runLength c t ≤ t.length :=
  (List.takeWhile_sublist _).length_le

theorem runLength_append_return {c : Char} (h : c ≠ '\r') (line : Text) :
    runLength c (line ++ ['\r']) = runLength c line := by
  have hstop : ('\r' == c) = false := by simpa using h.symm
  rw [runLength, runLength, List.takeWhile_append]
  split
  · rename_i hlength
    rw [List.takeWhile_cons_of_neg (by simp [hstop]), List.append_nil]
    exact hlength.symm
  · rfl

theorem runLength_crlf {c : Char} (hfeed : c ≠ '\n') (hreturn : c ≠ '\r') (t : Text) :
    runLength c (crlf t) = runLength c t := by
  rw [runLength, (takeWhile_crlf (by simpa using hfeed.symm) (by simpa using hreturn.symm) t).1]
  rfl

theorem drop_runLength_crlf {c : Char} (h : c ≠ '\n') (t : Text) :
    (crlf t).drop (runLength c t) = crlf (t.drop (runLength c t)) := by
  have hspec := Span.runLength_spec c t
  generalize runLength c t = n at hspec ⊢
  have hrun : '\n' ∉ List.replicate n c := fun hmem => h (List.eq_of_mem_replicate hmem).symm
  have hsplit : crlf t = List.replicate n c ++ crlf (t.drop n) := by
    conv_lhs => rw [hspec, crlf_append, crlf_eq_self hrun]
  rw [hsplit, List.drop_left' List.length_replicate]

/-- Without a line feed the first line is all of a text; with one, the carriage return in front of it
belongs to the line. -/
theorem firstLine_crlf (t : Text) :
    ('\n' ∉ t ∧ crlf t = t ∧ firstLine t = t) ∨
      ∃ line rest, firstLine t = line ∧ firstLine (crlf t) = line ++ ['\r'] ∧
        crlf t = line ++ ['\r'] ++ '\n' :: crlf rest := by
  by_cases h : '\n' ∈ t
  · obtain ⟨line, rest, rfl, hline⟩ := List.eq_append_cons_of_mem h
    have hcrlf : crlf (line ++ '\n' :: rest) = line ++ ['\r'] ++ '\n' :: crlf rest := by
      rw [crlf_append, crlf_eq_self hline, crlf_newline, List.append_assoc]
      rfl
    refine Or.inr ⟨line, rest, before_append hline rest, ?_, hcrlf⟩
    rw [hcrlf]
    exact before_append (by simp [hline]) _
  · exact Or.inl ⟨h, crlf_eq_self h, before_eq_self h⟩

end Text

open Text

/-! ## Fenced blocks -/

namespace Fence

/-- Recognises an opening line and all the text behind it. -/
def recogniseToEnd : Recogniser Text := fun prev t =>
  if (prev.isNone || prev == some '\n') && (opening? (firstLine t)).isSome then
    some (t, t.length)
  else none

/-- A carriage return at its end makes no difference to a line that opens a block. -/
theorem opening?_append_return (line : Text) : opening? (line ++ ['\r']) = opening? line := by
  unfold opening?
  dsimp only
  rw [runLength_append_return (by decide), List.drop_append_of_le_length (runLength_le ' ' line)]
  cases line.drop (runLength ' ' line) with
  | nil =>
    rw [List.nil_append]
    simp [isMark]
  | cons c rest =>
    rw [List.cons_append]
    by_cases hmark : isMark c = true
    · have hreturn : c ≠ '\r' := by
        rintro rfl
        cases hmark
      dsimp only
      rw [← List.cons_append, runLength_append_return hreturn]
    · simp [hmark]

theorem opening?_crlf (t : Text) : opening? (firstLine (crlf t)) = opening? (firstLine t) := by
  rcases firstLine_crlf t with ⟨-, hcrlf, -⟩ | ⟨line, rest, hline, hfirst, -⟩
  · rw [hcrlf]
  · rw [hfirst, hline, opening?_append_return]

theorem isMark_of_opening? {line : Text} {fence : Fence} (h : opening? line = some fence) :
    isMark fence.mark = true := by
  unfold opening? at h
  dsimp only at h
  split at h
  · cases h
  · obtain ⟨hopen, heq⟩ := Option.ite_none_right_eq_some.mp h
    cases heq
    simp only [Bool.and_eq_true] at hopen
    exact hopen.1.2

/-- A line with a carriage return at its end closes no block. -/
theorem closes_append_return {fence : Fence} (h : isMark fence.mark = true) (line : Text) :
    fence.closes (line ++ ['\r']) = false := by
  have hreturn : fence.mark ≠ '\r' := by
    intro heq
    rw [heq] at h
    cases h
  unfold closes
  dsimp only
  rw [runLength_append_return (by decide), List.drop_append_of_le_length (runLength_le ' ' line),
    runLength_append_return hreturn]
  generalize line.drop (runLength ' ' line) = body
  by_cases hsize : fence.size ≤ runLength fence.mark body
  · have hle : fence.size ≤ body.length := hsize.trans (runLength_le fence.mark body)
    rw [List.drop_append_of_le_length hle]
    -- the carriage return is no mark of a fence, and neither a space nor a tab
    have hrest : '\r' ∈ (body.drop fence.size ++ ['\r']).dropWhile isMark := by
      have hmem : '\r' ∈ body.drop fence.size ++ ['\r'] := by simp
      rw [← List.takeWhile_append_dropWhile (p := isMark) (l := body.drop fence.size ++ ['\r']),
        List.mem_append] at hmem
      refine hmem.resolve_left fun hmark => ?_
      cases List.mem_takeWhile_imp hmark
    rw [Bool.and_eq_false_iff]
    exact Or.inr (List.all_eq_false.mpr ⟨_, hrest, by decide⟩)
  · simp [hsize]

/-- A line of a text with carriage returns can only close a block at the end of the text. -/
theorem firstLine_eq_of_closes_crlf {fence : Fence} (h : isMark fence.mark = true) {t : Text}
    (hcloses : fence.closes (firstLine (crlf t)) = true) : firstLine (crlf t) = crlf t := by
  rcases firstLine_crlf t with ⟨-, hcrlf, hline⟩ | ⟨line, rest, -, hfirst, -⟩
  · rw [hcrlf, hline]
  · rw [hfirst, closes_append_return h] at hcloses
    cases hcloses

theorem extent_feed_crlf {fence : Fence} (h : isMark fence.mark = true) {t : Text}
    (hextent : fence.extent (crlf t) = (crlf t).length) :
    fence.extent ('\n' :: crlf t) = 1 + (crlf t).length := by
  rw [extent]
  split
  · rename_i hcloses
    rw [Bool.and_eq_true] at hcloses
    rw [firstLine_eq_of_closes_crlf h hcloses.2]
  · rw [hextent]

/-- In a text with carriage returns a block goes on to the end. -/
theorem extent_crlf {fence : Fence} (h : isMark fence.mark = true) (t : Text) :
    fence.extent (crlf t) = (crlf t).length := by
  induction t with
  | nil => rfl
  | cons c t ih =>
    by_cases hc : c = '\n'
    · have hreturn : ¬ ('\r' == '\n' && fence.closes (firstLine ('\n' :: crlf t))) = true := by
        simp
      rw [hc, crlf_newline, extent, if_neg hreturn, extent_feed_crlf h ih, List.length_cons,
        List.length_cons, Nat.add_comm 1, Nat.add_comm 1]
    · have hplain : ¬ (c == '\n' && fence.closes (firstLine (crlf t))) = true := by simp [hc]
      rw [crlf_cons hc, extent, if_neg hplain, ih, List.length_cons, Nat.add_comm 1]

/-- The first block of a text with carriage returns is the rest of the text. -/
theorem length_add_extent_crlf {fence : Fence} (h : isMark fence.mark = true) (t : Text) :
    (firstLine (crlf t)).length + fence.extent ((crlf t).drop (firstLine (crlf t)).length) =
      (crlf t).length := by
  rcases firstLine_crlf t with ⟨-, hcrlf, hline⟩ | ⟨line, rest, -, hfirst, hcrlf⟩
  · rw [hcrlf, hline, List.drop_length]
    rfl
  · rw [hfirst, hcrlf]
    generalize line ++ ['\r'] = first
    rw [List.drop_left, extent_feed_crlf h (extent_crlf h rest), List.length_append,
      List.length_cons, Nat.add_comm 1]

/-- In a text with carriage returns blocks are found where all blocks go on to the end. -/
theorem follows_recognise : Follows recogniseToEnd recognise crlf where
  feed := by
    intro prev t
    have hopening : opening? (firstLine ('\n' :: t)) = none := rfl
    rw [recogniseToEnd, hopening, Option.isSome_none, Bool.and_false]
    rfl
  return' := by
    intro prev t
    have hopening : opening? (firstLine ('\r' :: '\n' :: t)) = none := by
      show opening? ['\r'] = none
      decide
    simp [recognise, hopening]
  feed' := by
    intro t
    simp [recognise]
  length := by
    intro prev t a n hfind
    obtain ⟨hopens, heq⟩ := Option.ite_none_right_eq_some.mp hfind
    cases heq
    refine ⟨List.length_pos_iff.mpr ?_, Nat.le_refl _⟩
    rintro rfl
    simp [firstLine, before, opening?] at hopens
  found := by
    intro prev c t _
    generalize c :: t = u
    cases hopening : opening? (firstLine u) with
    | none => simp [recognise, recogniseToEnd, opening?_crlf, hopening]
    | some fence =>
      have hend := length_add_extent_crlf (isMark_of_opening? hopening) u
      by_cases hline : (prev.isNone || prev == some '\n') = true
      · simp [recognise, recogniseToEnd, opening?_crlf, hopening, hline, hend]
      · simp [recognise, recogniseToEnd, hline]

end Fence

/-! ## Code spans -/

namespace Span

/-- No line of a text with carriage returns is blank. -/
theorem blankLineFollows_crlf (t : Text) : blankLineFollows (crlf t) = false := by
  rw [blankLineFollows, (takeWhile_crlf (by decide) (by decide) t).2]
  simpa using head?_crlf_ne _

theorem closing?_crlf (size : Nat) (afterTick : Bool) (t : Text) :
    closing? size afterTick (crlf t) =
      (closingAcross? size afterTick t).map fun inner => (crlf (t.take inner)).length := by
  induction t generalizing afterTick with
  | nil => rfl
  | cons c t ih =>
    by_cases hc : c = '\n'
    · subst hc
      have hreturn : closing? size afterTick ('\r' :: '\n' :: crlf t) =
          (closing? size false ('\n' :: crlf t)).map (· + 1) := by
        simp [closing?, tick]
      have hfeed : closing? size false ('\n' :: crlf t) =
          (closing? size false (crlf t)).map (· + 1) := by
        simp [closing?, tick, blankLineFollows_crlf]
      have hacross : closingAcross? size afterTick ('\n' :: t) =
          (closingAcross? size false t).map (· + 1) := by
        simp [closingAcross?, tick]
      rw [crlf_newline, hreturn, hfeed, hacross, ih, Option.map_map, Option.map_map, Option.map_map]
      congr 1
    · have hrun : runLength tick (c :: crlf t) = runLength tick (c :: t) := by
        rw [← crlf_cons hc, runLength_crlf (by decide) (by decide)]
      rw [crlf_cons hc, closing?, closingAcross?, hrun]
      split
      · rfl
      · rw [if_neg (by simp [hc]), ih, Option.map_map, Option.map_map]
        congr 1
        funext inner
        simp [crlf_cons hc]

/-- In a text with carriage returns spans are found where spans may go over blank lines. -/
theorem follows_recognise : Follows recogniseAcross recognise crlf where
  feed := by
    intro prev t
    simp [recogniseAcross, runLength, tick]
  return' := by
    intro prev t
    simp [recognise, runLength, tick]
  feed' := by
    intro t
    simp [recognise, runLength, tick]
  length := by
    intro prev t span n hfind
    obtain ⟨rfl, size, inside, rest, hsize, rfl, rfl⟩ := recogniseAcross_eq_some hfind
    simp only [List.length_append, List.length_replicate]
    omega
  found := by
    intro prev c t _
    generalize c :: t = u
    have hrun : runLength tick (crlf u) = runLength tick u :=
      runLength_crlf (by decide) (by decide) u
    simp only [recognise, recogniseAcross, hrun]
    split
    · rfl
    · have hdrop := drop_runLength_crlf (c := tick) (by decide) u
      generalize hsize : runLength tick u = size at hdrop ⊢
      rw [hdrop, closing?_crlf, Option.map_map, Option.map_map]
      refine Option.map_congr fun inner hinner => ?_
      obtain ⟨inside, rest, rfl, hu⟩ := exists_inside hsize hinner
      generalize hticks : List.replicate size tick = ticks at hu
      have hlength : ticks.length = size := by rw [← hticks, List.length_replicate]
      have hline : '\n' ∉ ticks := by simp [← hticks, tick]
      -- only the inside of a span has line ends, its runs of backticks stay as long as they are
      have hinside : (u.drop size).take inside.length = inside := by
        rw [hu, List.append_assoc, List.append_assoc, List.drop_left' hlength, List.take_left]
      have hspan : u.take (size + inside.length + size) = ticks ++ inside ++ ticks := by
        rw [hu, List.take_left' (by simp [hlength, Nat.add_assoc])]
      have hcrlf : (crlf (ticks ++ inside ++ ticks)).length =
          size + (crlf inside).length + size := by
        simp [crlf_eq_self hline, hlength, Nat.add_assoc]
      simp only [Function.comp_apply, hinside, hspan, hcrlf]
      rw [hu, crlf_append _ rest, List.take_left' hcrlf]

end Span

/-! ## Putting code aside -/

namespace Shield

/-- A shielded text with carriage returns, in the text and in the code. -/
def Shielded.crlf (s : Shielded) : Shielded := ⟨Text.crlf s.text, s.saved.map Text.crlf⟩

theorem stash_crlf (first : Nat) (pieces : List (Piece Text)) :
    stash first (pieces.flatMap (crlfPiece Text.crlf)) = Text.crlf (stash first pieces) := by
  induction pieces generalizing first with
  | nil => rfl
  | cons piece pieces ih =>
    cases piece with
    | plain c =>
      rw [List.flatMap_cons, crlfPiece, stash_plains, ih, ← crlf_append]
      rfl
    | found a =>
      have hmark : '\n' ∉ mark first := not_mem_mark (by decide) (by decide) (by decide) first
      rw [stash, crlf_append, crlf_eq_self hmark, ← ih]
      rfl

theorem putAside_crlf {find find' : Recogniser Text} (h : Follows find find' Text.crlf)
    (s : Shielded) : putAside find' s.crlf = (putAside find s).crlf := by
  have hpieces : scan find' (Text.crlf s.text) = (scan find s.text).flatMap (crlfPiece Text.crlf) :=
    h.scanFrom none s.text
  have hsegments : (scan find' (Text.crlf s.text)).filterMap Piece.segment? =
      ((scan find s.text).filterMap Piece.segment?).map Text.crlf := h.segments s.text
  simp only [putAside, Shielded.crlf, hsegments, List.length_map, List.map_append]
  rw [hpieces, stash_crlf]

/-- Puts the code of a text aside, where fenced blocks go on to the end and code spans may go over
blank lines. -/
def protectCoarse (t : Text) : Shielded :=
  putAside Span.recogniseAcross (putAside Fence.recogniseToEnd ⟨t, []⟩)

/-- The code of a text with carriage returns is that of coarser readers. -/
theorem protect_crlf (t : Text) : protect (Text.crlf t) = (protectCoarse t).crlf := by
  have hblocks : putAside Fence.recognise ⟨Text.crlf t, []⟩ =
      (putAside Fence.recogniseToEnd ⟨t, []⟩).crlf :=
    putAside_crlf Fence.follows_recognise ⟨t, []⟩
  rw [protect, hblocks, putAside_crlf Span.follows_recognise, protectCoarse]

end Shield
end WikiMarkup
