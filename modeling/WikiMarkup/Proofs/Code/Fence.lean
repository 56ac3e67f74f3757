import WikiMarkup.Proofs.Code.Rule

/-!
# Fenced blocks that are put aside

The scan that puts fenced blocks aside goes through a text character by character; it finds the
blocks that its rule gives line by line. The rule by which the page is read finds the same blocks
exactly if each of them is one by this rule too.
-/

namespace WikiMarkup

namespace Text

/-- Each segment of some pieces, with the text that follows it. -/
def followed : List (Piece Text) → List (Text × Text)
  | [] => []
  | .plain _ :: pieces => followed pieces
  | .found a :: pieces => (a, spell pieces) :: followed pieces

theorem mem_followed (front : List (Piece Text)) (a : Text) (more : List (Piece Text)) :
    (a, spell more) ∈ followed (front ++ .found a :: more) := by
  induction front with
  | nil => exact List.mem_cons_self
  | cons piece front ih =>
    cases piece with
    | plain c => exact ih
    | found b => exact List.mem_cons_of_mem _ ih

theorem exists_of_mem_followed {pieces : List (Piece Text)} {a back : Text}
    (h : (a, back) ∈ followed pieces) :
    ∃ front more, pieces = front ++ .found a :: more ∧ spell more = back := by
  induction pieces with
  | nil => cases h
  | cons piece pieces ih =>
    cases piece with
    | plain c =>
      obtain ⟨front, more, rfl, hback⟩ := ih h
      exact ⟨.plain c :: front, more, rfl, hback⟩
    | found b =>
      rcases List.mem_cons.mp h with heq | hlater
      · cases heq
        exact ⟨[], pieces, rfl, rfl⟩
      · obtain ⟨front, more, rfl, hback⟩ := ih hlater
        exact ⟨.found b :: front, more, rfl, hback⟩

end Text

open Text

namespace Fence

/-! ## Blocks that are found -/

/-- No block begins within a line. -/
theorem scanFrom_within {c : Char} (hc : c ≠ '\n') {u : Text} (hu : '\n' ∉ u) (t : Text) :
    scanFrom recognise (some c) 0 (u ++ t) =
      u.map .plain ++ scanFrom recognise (lastOf (some c) u) 0 t := by
  induction u generalizing c with
  | nil => rfl
  | cons d u ih =>
    rw [List.mem_cons, not_or] at hu
    have hnone : recognise (some c) (d :: (u ++ t)) = none := by
      rw [recognise, if_neg (by simpa using hc)]
    rw [List.cons_append, scanFrom_plain hnone, ih (Ne.symm hu.1) hu.2, lastOf_cons]
    rfl

/-- A line that opens no block is passed over. -/
theorem scanFrom_line {line : Text} (hopens : opening? line = none) (hline : '\n' ∉ line)
    {t : Text} (ht : AtLineEnd t) (prev : Option Char) :
    scanFrom recognise prev 0 (line ++ t) = line.map .plain ++ scanFrom recognise none 0 t := by
  cases line with
  | nil => exact scanFrom_atLineEnd ht prev none
  | cons c line =>
    -- at its beginning the line is looked at as a whole, and behind that nothing begins
    have hfirst : firstLine (c :: (line ++ t)) = c :: line := firstLine_append hline ht
    have hnone : recognise prev (c :: (line ++ t)) = none := by
      unfold recognise
      dsimp only
      rw [hfirst, hopens]
      exact ite_self _
    rw [List.mem_cons, not_or] at hline
    rw [List.cons_append, scanFrom_plain hnone, scanFrom_within (Ne.symm hline.1) hline.2,
      scanFrom_atLineEnd ht _ none]
    rfl

/-- A block is found by its lines, and what follows it is found as in a text of its own. -/
theorem scanFrom_block (b : Block) {prev : Option Char} (hprev : startsLine prev = true)
    {rest : List Text} (hend : b.closing = none → rest = []) :
    scanFrom recognise prev 0 (b.text ++ feedLines rest) =
      .found b.text :: scanFrom recognise none 0 (feedLines rest) := by
  have hbehind : b.closing = none → feedLines rest = [] := fun hnone => by rw [hend hnone]; rfl
  rw [scanFrom_found b.text_ne_nil
      (recognise_text b hprev (atLineEnd_feedLines rest) hbehind),
    scanFrom_atLineEnd (atLineEnd_feedLines rest) _ none]

/-- What a scan finds makes up the text. -/
theorem spell_scanFrom (prev : Option Char) (t : Text) :
    spell (scanFrom recognise prev 0 t) = t :=
  scanFrom_flatten recognise id Shield.fence_span prev 0 t

namespace Rule

/-- Whether the segments of some pieces are the blocks of some lines by a rule exactly if each of
them is a block by the rule. -/
def Agrees (rule : Rule) (pieces : List (Piece Text)) (lines : List Text) : Prop :=
  pieces.filterMap Piece.segment? = (blocksFrom rule none lines).map (join ['\n']) ↔
    ∀ (b : Block) (back : Text), (b.text, back) ∈ followed pieces → rule.IsBlock b back

theorem agrees_plains (rule : Rule) (u : Text) (pieces : List (Piece Text)) (lines : List Text) :
    rule.Agrees (u.map .plain ++ pieces) lines ↔ rule.Agrees pieces lines := by
  induction u with
  | nil => exact Iff.rfl
  | cons c u ih => exact ih

variable {rule : Rule} (hnarrow : rule.Narrows)

include hnarrow

/-- If a narrower rule agrees about the lines behind a block, it does about the block too. -/
theorem agrees_block (b : Block) {rest : List Text} (hend : b.closing = none → rest = [])
    (hrest : ∀ line ∈ rest, '\n' ∉ line)
    (h : rule.Agrees (scanFrom recognise none 0 (feedLines rest)) rest) :
    rule.Agrees (.found b.text :: scanFrom recognise none 0 (feedLines rest))
      (b.lines ++ rest) := by
  unfold Agrees at h ⊢
  have hblock : (∀ (b' : Block) (back : Text), (b'.text, back) ∈
        followed (.found b.text :: scanFrom recognise none 0 (feedLines rest)) →
          rule.IsBlock b' back) ↔
      rule.IsBlock b (feedLines rest) ∧ ∀ (b' : Block) (back : Text),
        (b'.text, back) ∈ followed (scanFrom recognise none 0 (feedLines rest)) →
          rule.IsBlock b' back := by
    rw [followed, spell_scanFrom]
    constructor
    · intro hall
      exact ⟨hall b _ List.mem_cons_self, fun b' back hmem =>
        hall b' back (List.mem_cons_of_mem _ hmem)⟩
    · rintro ⟨hfirst, hall⟩ b' back hmem
      rcases List.mem_cons.mp hmem with heq | hmem
      · obtain ⟨htext, rfl⟩ := Prod.mk.inj heq
        rwa [Block.text_injective htext]
      · exact hall b' back hmem
  have hsegments : (Piece.found b.text :: scanFrom recognise none 0 (feedLines rest)).filterMap
      Piece.segment? = b.text :: (scanFrom recognise none 0 (feedLines rest)).filterMap
        Piece.segment? := rfl
  rw [hblock, ← h, hsegments]
  -- the first block decides, unless it is one by the rule too: then what follows does
  by_cases hfirst : rule.IsBlock b (feedLines rest)
  · rw [blocksFrom_of_isBlock hnarrow b hfirst hend, List.map_cons, b.join_lines, List.cons.injEq]
    exact ⟨fun hrest => ⟨hfirst, hrest.2⟩, fun hrest => ⟨rfl, hrest.2⟩⟩
  · constructor
    · intro hblocks
      obtain ⟨block, blocks, hfrom, hjoin, -⟩ := List.map_eq_cons_iff.mp hblocks.symm
      exact absurd hjoin (ne_of_not_isBlock hnarrow b hfirst hrest hfrom)
    · intro hboth
      exact absurd hboth.1 hfirst

/-- If a narrower rule agrees about the lines behind each line of a text, it agrees about the text.
-/
theorem agrees_line {line : Text} {lines : List Text} (hline : '\n' ∉ line)
    (hlines : ∀ l ∈ lines, '\n' ∉ l) {prev : Option Char} (hprev : startsLine prev = true)
    (h : ∀ rest, rest <:+ lines → rule.Agrees (scanFrom recognise none 0 (feedLines rest)) rest) :
    rule.Agrees (scanFrom recognise prev 0 (line ++ feedLines lines)) (line :: lines) := by
  cases hopens : opening? line with
  | none =>
    have hnone : rule.opens line = none := by
      rcases hnarrow.opens_cases line with hnone | hown
      · exact hnone
      · rw [hown, hopens]
    rw [scanFrom_line hopens hline (atLineEnd_feedLines lines), agrees_plains]
    unfold Agrees
    rw [blocksFrom, hnone]
    exact h lines (List.suffix_refl lines)
  | some fence =>
    obtain ⟨b, rest, rfl, rfl, hend⟩ := exists_block hopens hline hlines
    have hrest : ∀ l ∈ rest, '\n' ∉ l := fun l hl => hlines l (List.mem_append_right _ hl)
    rw [← b.text_append_feedLines, scanFrom_block b hprev hend]
    exact agrees_block hnarrow b hend hrest (h rest (List.suffix_append _ rest))

/-- A narrower rule agrees about all lines. The induction is on how many lines there are: a block
takes some of them at a time. -/
theorem agrees_feedLines {lines : List Text} (hlines : ∀ l ∈ lines, '\n' ∉ l) :
    rule.Agrees (scanFrom recognise none 0 (feedLines lines)) lines := by
  induction hlength : lines.length using Nat.strong_induction_on generalizing lines with
  | _ n ih =>
    cases lines with
    | nil => exact ⟨fun _ b back hmem => absurd hmem List.not_mem_nil, fun _ => rfl⟩
    | cons line lines =>
      rw [List.forall_mem_cons] at hlines
      have hfeed : recognise none ('\n' :: (line ++ feedLines lines)) = none := rfl
      rw [feedLines_cons, scanFrom_plain hfeed]
      refine (agrees_plains rule ['\n'] _ _).mpr
        (agrees_line hnarrow hlines.1 hlines.2 rfl fun rest hrest => ?_)
      have hshorter : rest.length < n := by
        have hle := hrest.length_le
        rw [List.length_cons] at hlength
        omega
      exact ih rest.length hshorter (fun l hl => hlines.2 l (hrest.subset hl)) rfl

/-- A narrower rule agrees about every text. -/
theorem agrees_scan (t : Text) : rule.Agrees (scan recognise t) (t.splitOn '\n') := by
  obtain ⟨line, lines, rfl, hline, hlines⟩ := exists_lines t
  rw [feedLines, splitOn_append_flatMap hline hlines]
  exact agrees_line hnarrow hline hlines rfl fun rest hrest =>
    agrees_feedLines hnarrow fun l hl => hlines l (hrest.subset hl)

end Rule
end Fence

/-! ## Blocks that are put aside -/

namespace Shield

open Fence

/-- A segment that is found cuts a text into what is in front of it and what follows it. -/
theorem eq_of_scan {t a : Text} {pieces more : List (Piece Text)}
    (h : scan recognise t = pieces ++ .found a :: more) : t = spell pieces ++ (a ++ spell more) := by
  have hspell : spell (scan recognise t) = t := spell_scanFrom none t
  rw [← spell_found, spell, spell, ← List.flatMap_append, ← h]
  exact hspell.symm

/-- The blocks that are put aside are those by the rule for shielding, and those by the rule for
reading exactly if each of them opens by this rule and, unless the text ends with it, closes by it.
-/
theorem saved_blocks_iff (t : Text) :
    (putAside recognise ⟨t, []⟩).saved = Rule.shielding.blocks t ∧
      ((putAside recognise ⟨t, []⟩).saved = Rule.reading.blocks t ↔
        ∀ (front : Text) (b : Block) (back : Text), t = front ++ (b.text ++ back) →
          PutsAside front b.text back → Rule.reading.IsBlock b back) := by
  have hshielding := Rule.agrees_scan Rule.narrows_shielding t
  have hreading := Rule.agrees_scan Rule.narrows_reading t
  refine ⟨hshielding.mpr fun b back _ => Rule.isBlock_shielding b back, hreading.trans ?_⟩
  constructor
  · rintro h front b back rfl ⟨pieces, more, hscan, rfl⟩
    have hback : back = spell more := by
      have htext := eq_of_scan hscan
      rwa [List.append_cancel_left_eq, List.append_cancel_left_eq] at htext
    rw [hback]
    apply h
    rw [hscan]
    exact mem_followed pieces b.text more
  · intro h b back hmem
    obtain ⟨pieces, more, hscan, rfl⟩ := exists_of_mem_followed hmem
    have htext := eq_of_scan hscan
    refine h (spell pieces) b (spell more) htext ⟨pieces, more, ?_, rfl⟩
    rwa [← htext]

/-- A line that opens and closes a span of code is taken for a fence, and a line of a fence and
another mark for one that closes a block: the blocks that are read are others. -/
theorem saved_not_reading :
    ((putAside recognise ⟨"```a```\n\x7b\x7btitle: A\x7d\x7d".toList, []⟩).saved =
          ["```a```\n\x7b\x7btitle: A\x7d\x7d".toList] ∧
        Rule.reading.blocks "```a```\n\x7b\x7btitle: A\x7d\x7d".toList = []) ∧
      (putAside recognise ⟨"```\nx\n```~\ny\n```".toList, []⟩).saved =
          ["```\nx\n```~".toList, "```".toList] ∧
        Rule.reading.blocks "```\nx\n```~\ny\n```".toList = ["```\nx\n```~\ny\n```".toList] := by
  exact ⟨⟨rfl, rfl⟩, rfl, rfl⟩

end Shield
end WikiMarkup
