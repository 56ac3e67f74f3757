import WikiMarkup.Proofs.Code.Block
import WikiMarkup.Proofs.Code.LineEnd

/-!
# Rules for fenced blocks

The fenced blocks of a text can be told line by line, by a rule that says which lines open a block
and which lines close it. There are two rules: the one by which blocks are put aside, and the one by
which the page is read as blocks afterwards. The second is narrower: it opens and closes blocks only
where the first does. So it finds a block too that the first finds exactly if the block opens by it
and, unless the text ends there, closes by it.
-/

namespace WikiMarkup

/-! ## Lines -/

namespace Text

theorem feedLines_eq_nil_iff {lines : List Text} : feedLines lines = [] ↔ lines = [] := by
  cases lines with
  | nil => exact ⟨fun _ => rfl, fun _ => rfl⟩
  | cons line lines => exact ⟨nofun, nofun⟩

/-- A line and more lines behind it, as one text. -/
theorem join_lines (line : Text) (lines : List Text) :
    join ['\n'] (line :: lines) = line ++ feedLines lines := join_cons ['\n'] line lines

end Text

open Text

namespace Fence

/-- The lines of a block. -/
def Block.lines (b : Block) : List Text := b.opening :: (b.body ++ b.closing.toList)

theorem Block.join_lines (b : Block) : join ['\n'] b.lines = b.text := Text.join_lines _ _

/-! ## Rules -/

/-- A rule for fenced blocks: the fence that a line opens, if it opens a block, and whether a line
closes the block of a fence. -/
structure Rule where
  opens : Text → Option Fence
  closes : Fence → Text → Bool

namespace Rule

/-- The blocks of some lines, each with its lines, where a block may be open of which some lines
have been read. A block that no line closes goes on to the end. -/
def blocksFrom (rule : Rule) : Option (Fence × List Text) → List Text → List (List Text)
  | none, [] => []
  | some (_, block), [] => [block]
  | none, line :: lines =>
    match rule.opens line with
    | none => blocksFrom rule none lines
    | some fence => blocksFrom rule (some (fence, [line])) lines
  | some (fence, block), line :: lines =>
    if rule.closes fence line then (block ++ [line]) :: blocksFrom rule none lines
    else blocksFrom rule (some (fence, block ++ [line])) lines

/-- The fenced blocks of a text by a rule. -/
def blocks (rule : Rule) (t : Text) : List Text :=
  (blocksFrom rule none (t.splitOn '\n')).map (join ['\n'])

/-- The rule by which blocks are put aside. -/
def shielding : Rule := ⟨opening?, Fence.closes⟩

/-- The rule by which a page is read as blocks. A fence of backticks opens a block only if no further
backtick stands on its line, and a line that closes a block holds no other marks than those of the
fence. -/
def reading : Rule where
  opens line :=
    let indent := runLength ' ' line
    match line.drop indent with
    | [] => none
    | mark :: rest =>
      let size := runLength mark (mark :: rest)
      let info := (mark :: rest).drop size
      if indent ≤ 3 && 3 ≤ size && (mark == '~' || mark == '\x60' && !info.contains '\x60') then
        some ⟨mark, size⟩
      else none
  closes fence line :=
    let indent := runLength ' ' line
    let body := line.drop indent
    let size := runLength fence.mark body
    indent ≤ 3 && fence.size ≤ size && (body.drop size).all fun c => c == ' ' || c == '\t'

/-! ## Narrower rules -/

/-- Whether a rule opens and closes blocks only where the rule for shielding does. -/
structure Narrows (rule : Rule) : Prop where
  opens : ∀ {line fence}, rule.opens line = some fence → opening? line = some fence
  closes : ∀ {fence line}, isMark fence.mark = true → rule.closes fence line = true →
    fence.closes line = true

/-- A line opens the same block by a narrower rule, or none. -/
theorem Narrows.opens_cases {rule : Rule} (h : rule.Narrows) (line : Text) :
    rule.opens line = none ∨ rule.opens line = opening? line := by
  cases hopens : rule.opens line with
  | none => exact Or.inl rfl
  | some fence => exact Or.inr (h.opens hopens).symm

theorem narrows_shielding : shielding.Narrows where
  opens h := h
  closes _ h := h

theorem narrows_reading : reading.Narrows where
  opens := by
    intro line fence h
    unfold reading at h
    unfold opening?
    dsimp only at h ⊢
    cases hbody : line.drop (runLength ' ' line) with
    | nil =>
      rw [hbody] at h
      cases h
    | cons mark rest =>
      rw [hbody] at h
      obtain ⟨hopens, heq⟩ := Option.ite_none_right_eq_some.mp h
      simp only [Bool.and_eq_true, Bool.or_eq_true, decide_eq_true_eq, beq_iff_eq] at hopens
      have hmark : isMark mark = true := by
        rcases hopens.2 with rfl | ⟨rfl, -⟩ <;> rfl
      rw [← heq]
      simp [maxIndent, hmark, hopens.1.1, hopens.1.2]
  closes := by
    intro fence line hmark h
    unfold reading at h
    dsimp only at h
    simp only [Bool.and_eq_true, decide_eq_true_eq] at h
    obtain ⟨⟨hindent, hsize⟩, hblank⟩ := h
    unfold Fence.closes
    dsimp only
    rw [Bool.and_eq_true, Bool.and_eq_true, decide_eq_true_eq, decide_eq_true_eq]
    generalize line.drop (runLength ' ' line) = body at hsize hblank ⊢
    refine ⟨⟨hindent, hsize⟩, ?_⟩
    -- the marks behind the size of the fence are passed over, and then the blanks are left
    have hrun := Span.runLength_spec fence.mark body
    generalize runLength fence.mark body = size at hsize hblank hrun
    have hmarks : ∀ c ∈ List.replicate (size - fence.size) fence.mark, isMark c = true :=
      fun c hc => List.eq_of_mem_replicate hc ▸ hmark
    have hdrop : body.drop fence.size =
        List.replicate (size - fence.size) fence.mark ++ body.drop size := by
      conv_lhs => rw [hrun]
      rw [List.drop_append_of_le_length (by rwa [List.length_replicate]), List.drop_replicate]
    rw [hdrop, List.dropWhile_append_of_pos hmarks, List.all_eq_true]
    intro c hc
    exact List.all_eq_true.mp hblank c ((List.dropWhile_suffix isMark).subset hc)

/-! ## Blocks by their lines -/

variable {rule : Rule} {fence : Fence}

/-- Lines that do not close the open block belong to it. -/
theorem blocksFrom_append {body : List Text} (h : ∀ line ∈ body, rule.closes fence line = false)
    (block rest : List Text) :
    blocksFrom rule (some (fence, block)) (body ++ rest) =
      blocksFrom rule (some (fence, block ++ body)) rest := by
  induction body generalizing block with
  | nil => rw [List.nil_append, List.append_nil]
  | cons line body ih =>
    rw [List.forall_mem_cons] at h
    rw [List.cons_append, blocksFrom, h.1, if_neg Bool.false_ne_true, ih h.2, List.append_assoc]
    rfl

/-- The next line belongs to the open block, whether it closes it or not. -/
theorem exists_blocksFrom_cons (rule : Rule) (fence : Fence) (block : List Text) (line : Text)
    (lines : List Text) : ∃ more blocks, blocksFrom rule (some (fence, block)) (line :: lines) =
      (block ++ line :: more) :: blocks := by
  induction lines generalizing block line with
  | nil =>
    refine ⟨[], [], ?_⟩
    rw [blocksFrom]
    split <;> rfl
  | cons next lines ih =>
    rw [blocksFrom]
    split
    · exact ⟨[], _, rfl⟩
    · obtain ⟨more, blocks, hblocks⟩ := ih (block ++ [line]) next
      refine ⟨next :: more, blocks, ?_⟩
      rw [hblocks, List.append_assoc]
      rfl

/-- The first block opens with a line of the text. -/
theorem opens_of_blocksFrom {lines block : List Text} {blocks : List (List Text)}
    (h : blocksFrom rule none lines = block :: blocks) :
    ∃ line more, block = line :: more ∧ line ∈ lines ∧ rule.opens line ≠ none := by
  induction lines with
  | nil => cases h
  | cons line lines ih =>
    rw [blocksFrom] at h
    cases hopens : rule.opens line with
    | none =>
      rw [hopens] at h
      obtain ⟨line', more, rfl, hmem, hopens'⟩ := ih h
      exact ⟨line', more, rfl, List.mem_cons_of_mem _ hmem, hopens'⟩
    | some fence =>
      rw [hopens] at h
      have hline : rule.opens line ≠ none := by
        rw [hopens]
        exact nofun
      cases lines with
      | nil =>
        cases h
        exact ⟨line, [], rfl, List.mem_cons_self, hline⟩
      | cons next lines =>
        obtain ⟨more, blocks', hblocks⟩ := exists_blocksFrom_cons rule fence [line] next lines
        have hblock := (List.cons.inj (hblocks.symm.trans h)).1
        exact ⟨line, next :: more, hblock.symm, List.mem_cons_self, hline⟩

/-- Whether a block that is followed by a text is one by a rule: it opens by it and, unless the text
ends there, closes by it. -/
structure IsBlock (rule : Rule) (b : Block) (back : Text) : Prop where
  opens : rule.opens b.opening = some b.fence
  closes : back ≠ [] → ∀ line ∈ b.closing, rule.closes b.fence line = true

theorem isBlock_shielding (b : Block) (back : Text) : shielding.IsBlock b back where
  opens := b.opens
  closes _ line hline := (b.closes line hline).2

section Narrow

variable (hnarrow : rule.Narrows) (b : Block) {rest : List Text}

include hnarrow

/-- A narrower rule leaves a block open as long as the rule for shielding does. -/
theorem blocksFrom_body (hopens : rule.opens b.opening = some b.fence) (rest : List Text) :
    blocksFrom rule none (b.lines ++ rest) =
      blocksFrom rule (some (b.fence, b.opening :: b.body)) (b.closing.toList ++ rest) := by
  have hmark : isMark b.fence.mark = true := isMark_of_opening? b.opens
  have hinside : ∀ line ∈ b.body, rule.closes b.fence line = false := by
    intro line hline
    rw [Bool.eq_false_iff]
    intro hcloses
    have hown := hnarrow.closes hmark hcloses
    rw [(b.inside line hline).2] at hown
    cases hown
  rw [Block.lines, List.cons_append, blocksFrom, hopens, List.append_assoc]
  exact blocksFrom_append hinside [b.opening] (b.closing.toList ++ rest)

/-- A block that is one by a narrower rule too is the first that the rule finds. -/
theorem blocksFrom_of_isBlock (h : rule.IsBlock b (feedLines rest))
    (hend : b.closing = none → rest = []) :
    blocksFrom rule none (b.lines ++ rest) = b.lines :: blocksFrom rule none rest := by
  rw [blocksFrom_body hnarrow b h.opens, Block.lines]
  cases hclosing : b.closing with
  | none =>
    rw [hend hclosing]
    simp [blocksFrom]
  | some line =>
    rw [Option.toList_some, List.singleton_append, blocksFrom]
    split
    · rfl
    · rename_i hopen
      -- the text ends with the line that does not close the block by this rule
      have hrest : rest = [] := by
        by_contra hne
        exact hopen (h.closes (mt feedLines_eq_nil_iff.mp hne) line hclosing)
      rw [hrest]
      rfl

/-- A block that is none by a narrower rule is not the first that the rule finds. -/
theorem ne_of_not_isBlock (h : ¬ rule.IsBlock b (feedLines rest))
    (hrest : ∀ line ∈ rest, '\n' ∉ line) {block : List Text} {blocks : List (List Text)}
    (hblocks : blocksFrom rule none (b.lines ++ rest) = block :: blocks) :
    join ['\n'] block ≠ b.text := by
  intro hjoin
  by_cases hopens : rule.opens b.opening = some b.fence
  · -- the line that closes the block does not close it by the rule, which goes on behind it
    obtain ⟨hne, line, hclosing, hopen⟩ : feedLines rest ≠ [] ∧
        ∃ line ∈ b.closing, ¬ rule.closes b.fence line = true := by
      by_contra hnone
      refine h ⟨hopens, fun hne line hline => ?_⟩
      by_contra hopen
      exact hnone ⟨hne, line, hline, hopen⟩
    obtain ⟨next, rest, rfl⟩ := List.exists_cons_of_ne_nil (mt feedLines_eq_nil_iff.mpr hne)
    have hlines : b.lines = b.opening :: b.body ++ [line] := by
      rw [Block.lines, Option.mem_def.mp hclosing]
      rfl
    rw [blocksFrom_body hnarrow b hopens, Option.mem_def.mp hclosing, Option.toList_some,
      List.singleton_append, blocksFrom, if_neg hopen, ← hlines] at hblocks
    obtain ⟨more, blocks', hmore⟩ := exists_blocksFrom_cons rule b.fence b.lines next rest
    obtain ⟨rfl, -⟩ := List.cons.inj (hmore.symm.trans hblocks)
    rw [Block.lines, List.cons_append, Text.join_lines, feedLines_append, ← List.append_assoc,
      ← Block.text] at hjoin
    exact absurd (feedLines_eq_nil_iff.mp (List.append_right_eq_self.mp hjoin))
      (List.cons_ne_nil _ _)
  · -- the first block of the rule opens with another line
    have hnone : rule.opens b.opening = none :=
      (hnarrow.opens_cases b.opening).resolve_right fun hown => hopens (hown.trans b.opens)
    rw [Block.lines, List.cons_append, blocksFrom, hnone] at hblocks
    obtain ⟨line, more, rfl, hmem, hline⟩ := opens_of_blocksFrom hblocks
    have hfeed : '\n' ∉ line := by
      rcases List.mem_append.mp hmem with hbody | hbehind
      · exact b.feed_not_mem line hbody
      · exact hrest line hbehind
    have hfirst := congrArg firstLine hjoin
    rw [Text.join_lines, firstLine_append hfeed (atLineEnd_feedLines more), Block.text,
      firstLine_append b.line (atLineEnd_feedLines _)] at hfirst
    rw [hfirst] at hline
    exact hline hnone

end Narrow

end Rule
end Fence
end WikiMarkup
