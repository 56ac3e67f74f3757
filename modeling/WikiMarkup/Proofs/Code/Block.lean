import WikiMarkup.Proofs.Code.Shield

/-!
# Fenced blocks by their lines

A fenced block is a line that opens it, the lines inside, and the line that closes it, if one does.
A block is found by these lines and by what stands in front of it: the lines inside may be any others,
as long as none of them closes the block, and what is put aside is the same but for this block.
-/

namespace WikiMarkup

/-! ## Lines -/

namespace Text

/-- Some lines, each behind a line feed. -/
def feedLines (lines : List Text) : Text := lines.flatMap ('\n' :: ·)

/-- Whether a text can stand behind a line: it is empty or begins with a line feed. -/
def AtLineEnd (t : Text) : Prop := ∀ c, t.head? = some c → c = '\n'

theorem feedLines_cons (line : Text) (lines : List Text) :
    feedLines (line :: lines) = '\n' :: (line ++ feedLines lines) := rfl

theorem feedLines_append (lines more : List Text) :
    feedLines (lines ++ more) = feedLines lines ++ feedLines more := List.flatMap_append

theorem atLineEnd_nil : AtLineEnd [] := fun _ hc => by cases hc

theorem AtLineEnd.feedLines_append {t : Text} (h : AtLineEnd t) (lines : List Text) :
    AtLineEnd (feedLines lines ++ t) := by
  cases lines with
  | nil => exact h
  | cons line lines =>
    intro c hc
    exact (Option.some.inj hc).symm

theorem atLineEnd_feedLines (lines : List Text) : AtLineEnd (feedLines lines) := by
  have h := atLineEnd_nil.feedLines_append lines
  rwa [List.append_nil] at h

theorem firstLine_append {line t : Text} (hline : '\n' ∉ line) (ht : AtLineEnd t) :
    firstLine (line ++ t) = line := by
  refine (takeWhile_append_stop (bne_of_not_mem hline) fun c hc => ?_).1
  rw [ht c hc]
  rfl

/-- Every text is a line and more lines behind it. -/
theorem exists_lines (t : Text) : ∃ line lines, t = line ++ feedLines lines ∧ '\n' ∉ line ∧
    ∀ l ∈ lines, '\n' ∉ l := by
  induction t with
  | nil => exact ⟨[], [], rfl, List.not_mem_nil, fun l hl => absurd hl List.not_mem_nil⟩
  | cons c t ih =>
    obtain ⟨line, lines, rfl, hline, hlines⟩ := ih
    by_cases hc : c = '\n'
    · subst hc
      exact ⟨[], line :: lines, rfl, List.not_mem_nil, List.forall_mem_cons.mpr ⟨hline, hlines⟩⟩
    · refine ⟨c :: line, lines, rfl, ?_, hlines⟩
      rintro (_ | ⟨_, hmem⟩)
      · exact hc rfl
      · exact hline hmem

/-- The lines of a text are the only ones that make it up. -/
theorem feedLines_injective : ∀ {lines lines' : List Text}, (∀ l ∈ lines, '\n' ∉ l) →
    (∀ l ∈ lines', '\n' ∉ l) → feedLines lines = feedLines lines' → lines = lines'
  | [], [], _, _, _ => rfl
  | [], line :: lines, _, _, h => by cases h
  | line :: lines, [], _, _, h => by cases h
  | line :: lines, line' :: lines', hlines, hlines', h => by
    rw [List.forall_mem_cons] at hlines hlines'
    rw [feedLines_cons, feedLines_cons] at h
    have hrest := (List.cons.inj h).2
    have hline : line = line' := by
      rw [← firstLine_append hlines.1 (atLineEnd_feedLines lines), hrest,
        firstLine_append hlines'.1 (atLineEnd_feedLines lines')]
    rw [hline, List.append_cancel_left_eq] at hrest
    rw [hline, feedLines_injective hlines.2 hlines'.2 hrest]

/-! ## Scans up to a segment -/

/-- The text that some pieces make up, where each segment stands for itself. -/
def spell (pieces : List (Piece Text)) : Text := pieces.flatMap (Piece.text id)

theorem spell_plain (c : Char) (pieces : List (Piece Text)) :
    spell (.plain c :: pieces) = c :: spell pieces := rfl

theorem spell_found (a : Text) (pieces : List (Piece Text)) :
    spell (.found a :: pieces) = a ++ spell pieces := rfl

theorem lastOf_append (prev : Option Char) (a u : Text) :
    lastOf prev (a ++ u) = lastOf (lastOf prev a) u := by
  rw [lastOf, lastOf, lastOf, List.getLast?_append, Option.or_assoc]

/-- Whether a recogniser reports what it finds as it stands in the text, and never an empty segment. -/
def Cuts (find : Recogniser Text) : Prop :=
  ∀ prev t a n, find prev t = some (a, n) → a ≠ [] ∧ n = a.length ∧ a <+: t

section Cuts

variable {find : Recogniser Text} (hcuts : Cuts find) {prev : Option Char}

include hcuts

/-- The first piece of a scan is a character at which nothing is found, or a segment that is. -/
theorem scanFrom_eq_cons {t : Text} {piece : Piece Text} {pieces : List (Piece Text)}
    (h : scanFrom find prev 0 t = piece :: pieces) :
    (∃ c rest, piece = .plain c ∧ t = c :: rest ∧ find prev t = none ∧
        scanFrom find (some c) 0 rest = pieces) ∨
      ∃ a rest, piece = .found a ∧ t = a ++ rest ∧ find prev t = some (a, a.length) ∧ a ≠ [] ∧
        scanFrom find (lastOf prev a) 0 rest = pieces := by
  cases t with
  | nil => cases h
  | cons c t =>
    cases hfind : find prev (c :: t) with
    | none =>
      rw [scanFrom_plain hfind] at h
      cases h
      exact Or.inl ⟨c, t, rfl, rfl, rfl, rfl⟩
    | some found =>
      obtain ⟨a, n⟩ := found
      obtain ⟨hne, rfl, rest, hrest⟩ := hcuts prev (c :: t) a n hfind
      rw [← hrest] at h hfind
      rw [scanFrom_found hne hfind] at h
      cases h
      exact Or.inr ⟨a, rest, rfl, hrest.symm, rfl, hne, rfl⟩

/-- Behind the pieces of a beginning a scan goes on with the rest of the text. -/
theorem scanFrom_eq_append {pieces more : List (Piece Text)} {u : Text}
    (h : scanFrom find prev 0 (spell pieces ++ u) = pieces ++ more) :
    scanFrom find (lastOf prev (spell pieces)) 0 u = more := by
  induction pieces generalizing prev with
  | nil => exact h
  | cons piece pieces ih =>
    rcases scanFrom_eq_cons hcuts h with
      ⟨c, rest, rfl, htext, -, hrest⟩ | ⟨a, rest, rfl, htext, -, -, hrest⟩
    · rw [spell_plain, List.cons_append] at htext
      obtain ⟨-, rfl⟩ := List.cons.inj htext
      rw [spell_plain, lastOf_cons, ih hrest]
    · rw [spell_found, List.append_assoc] at htext
      obtain rfl := List.append_cancel_left htext
      rw [spell_found, lastOf_append, ih hrest]

/-- The pieces of a beginning stay when the text behind it changes, if what is found in the beginning
does not depend on that text. -/
theorem scanFrom_replace {pieces more : List (Piece Text)} {u u' : Text}
    (hnone : ∀ prev v, v ≠ [] → v <:+ spell pieces →
      find prev (v ++ u) = none → find prev (v ++ u') = none)
    (hsome : ∀ prev v a, v ≠ [] → v <:+ spell pieces → a <+: v →
      find prev (v ++ u) = some (a, a.length) → find prev (v ++ u') = some (a, a.length))
    (h : scanFrom find prev 0 (spell pieces ++ u) = pieces ++ more) :
    scanFrom find prev 0 (spell pieces ++ u') =
      pieces ++ scanFrom find (lastOf prev (spell pieces)) 0 u' := by
  induction pieces generalizing prev with
  | nil => rfl
  | cons piece pieces ih =>
    have hsuffix : spell pieces <:+ spell (piece :: pieces) := List.suffix_append _ _
    have hrest : ∀ {prev}, scanFrom find prev 0 (spell pieces ++ u) = pieces ++ more →
        scanFrom find prev 0 (spell pieces ++ u') =
          pieces ++ scanFrom find (lastOf prev (spell pieces)) 0 u' :=
      ih (fun prev v hne hv => hnone prev v hne (hv.trans hsuffix))
        (fun prev v a hne hv => hsome prev v a hne (hv.trans hsuffix))
    rcases scanFrom_eq_cons hcuts h with
      ⟨c, rest, rfl, htext, hfind, hscan⟩ | ⟨a, rest, rfl, htext, hfind, hne, hscan⟩
    · rw [spell_plain] at htext hfind ⊢
      obtain ⟨-, rfl⟩ := List.cons.inj htext
      have hfind' : find prev (c :: (spell pieces ++ u')) = none :=
        hnone prev (c :: spell pieces) (List.cons_ne_nil c _) (List.suffix_refl _) hfind
      rw [List.cons_append, scanFrom_plain hfind', hrest hscan, lastOf_cons]
      rfl
    · rw [spell_found] at htext hfind ⊢
      rw [List.append_assoc] at htext
      obtain rfl := List.append_cancel_left htext
      have hfind' := hsome prev (a ++ spell pieces) a (List.append_ne_nil_of_left_ne_nil hne _)
        (List.suffix_refl _) (List.prefix_append a _) hfind
      rw [List.append_assoc] at hfind' ⊢
      rw [scanFrom_found hne hfind', hrest hscan, lastOf_append]
      rfl

end Cuts

end Text

/-! ## Blocks -/

namespace Fence

/-- Whether a line belongs to the inside of a block: it does not close it. -/
def IsInside (fence : Fence) (line : Text) : Prop := '\n' ∉ line ∧ fence.closes line = false

instance (fence : Fence) (line : Text) : Decidable (fence.IsInside line) :=
  inferInstanceAs (Decidable (_ ∧ _))

/-- A fenced block by its lines: one that opens it, those inside, and one that closes it, unless the
block goes on to the end of the text. -/
structure Block where
  fence : Fence
  opening : Text
  body : List Text
  closing : Option Text
  opens : opening? opening = some fence
  line : '\n' ∉ opening
  inside : ∀ line ∈ body, fence.IsInside line
  closes : ∀ line ∈ closing, '\n' ∉ line ∧ fence.closes line = true

namespace Block

/-- The text of a block. -/
def text (b : Block) : Text := b.opening ++ Text.feedLines (b.body ++ b.closing.toList)

/-- A block with other lines inside. -/
def withBody (b : Block) (body : List Text) (inside : ∀ line ∈ body, b.fence.IsInside line) :
    Block :=
  { b with body, inside }

end Block

open Text

/-! ## Where a block ends -/

/-- A block goes on behind what is left of a line. -/
theorem extent_append_line (fence : Fence) {line : Text} (hline : '\n' ∉ line) (t : Text) :
    fence.extent (line ++ t) = line.length + fence.extent t := by
  induction line with
  | nil => simp
  | cons c line ih =>
    rw [List.mem_cons, not_or] at hline
    have hc : (c == '\n') = false := by simpa using Ne.symm hline.1
    rw [List.cons_append, extent, hc, Bool.false_and, if_neg Bool.false_ne_true, ih hline.2,
      List.length_cons]
    omega

/-- A block goes on behind lines inside it. -/
theorem extent_append_lines {fence : Fence} {lines : List Text}
    (hlines : ∀ line ∈ lines, fence.IsInside line) {t : Text} (ht : AtLineEnd t) :
    fence.extent (feedLines lines ++ t) = (feedLines lines).length + fence.extent t := by
  induction lines with
  | nil => simp [feedLines]
  | cons line lines ih =>
    obtain ⟨⟨hline, hopen⟩, hlines⟩ := List.forall_mem_cons.mp hlines
    have hfirst := firstLine_append hline (ht.feedLines_append lines)
    rw [feedLines_cons, List.cons_append, List.append_assoc, extent, hfirst, hopen, Bool.and_false,
      if_neg Bool.false_ne_true, extent_append_line fence hline, ih hlines, List.length_cons,
      List.length_append]
    omega

/-- A block ends with the line that closes it. -/
theorem extent_closing {fence : Fence} {line : Text} (hline : '\n' ∉ line)
    (hcloses : fence.closes line = true) {t : Text} (ht : AtLineEnd t) :
    fence.extent ('\n' :: (line ++ t)) = 1 + line.length := by
  rw [extent, firstLine_append hline ht, hcloses]
  rfl

/-- A line feed in a beginning ends the first line of a text there. -/
theorem firstLine_append_left {v : Text} (h : '\n' ∈ v) (u : Text) :
    firstLine (v ++ u) = firstLine v := by
  obtain ⟨line, rest, rfl, hline⟩ := List.eq_append_cons_of_mem h
  rw [List.append_assoc, List.cons_append, firstLine, firstLine, before_append hline,
    before_append hline]

/-- A line that closes a block is not empty. -/
theorem size_le_of_closes {fence : Fence} {line : Text} (h : fence.closes line = true) :
    fence.size ≤ line.length := by
  simp only [closes, Bool.and_eq_true, decide_eq_true_eq] at h
  calc fence.size ≤ runLength fence.mark (line.drop (runLength ' ' line)) := h.1.2
    _ ≤ (line.drop (runLength ' ' line)).length := (List.takeWhile_sublist _).length_le
    _ ≤ line.length := by rw [List.length_drop]; exact Nat.sub_le _ _

/-- A block that ends in front of a text does so whatever the text is. -/
theorem extent_append_congr {fence : Fence} (hsize : 0 < fence.size) {v u : Text}
    (hv : v.getLast? = some '\n') (hu : u ≠ []) (h : fence.extent (v ++ u) ≤ v.length) (u' : Text) :
    fence.extent (v ++ u') = fence.extent (v ++ u) := by
  induction v with
  | nil => cases hv
  | cons c v ih =>
    have hcons : ∀ w, fence.extent (c :: v ++ w) =
        if c == '\n' && fence.closes (firstLine (v ++ w)) then 1 + (firstLine (v ++ w)).length
        else 1 + fence.extent (v ++ w) := fun w => rfl
    rw [hcons] at h
    rw [hcons, hcons]
    cases v with
    | nil =>
      -- behind the last line feed the block would go on into the text
      exfalso
      rw [List.nil_append, List.length_singleton] at h
      split at h
      · rename_i hcloses
        have hline := size_le_of_closes (Bool.and_eq_true_iff.mp hcloses).2
        omega
      · cases u with
        | nil => exact hu rfl
        | cons d u =>
          rw [extent] at h
          split at h <;> omega
    | cons d v =>
      rw [List.getLast?_cons_cons] at hv
      have hfeed : '\n' ∈ d :: v := List.mem_of_getLast? hv
      rw [firstLine_append_left hfeed] at h
      rw [firstLine_append_left hfeed, firstLine_append_left hfeed]
      split at h
      · rename_i hcloses
        rw [if_pos hcloses, if_pos hcloses]
      · rename_i hopen
        rw [List.length_cons] at h
        rw [if_neg hopen, if_neg hopen, ih hv (by omega)]

/-! ## Where a block is found -/

/-- Whether a position behind a character is the beginning of a line. -/
def startsLine (prev : Option Char) : Bool := prev.isNone || prev == some '\n'

/-- A block at the beginning of a line is found as far as its lines go. -/
theorem recognise_text (b : Block) {prev : Option Char} (hprev : startsLine prev = true) {t : Text}
    (ht : AtLineEnd t) (hend : b.closing = none → t = []) :
    recognise prev (b.text ++ t) = some (b.text, b.text.length) := by
  have hbehind : AtLineEnd (feedLines (b.body ++ b.closing.toList) ++ t) :=
    ht.feedLines_append _
  have hextent : b.fence.extent (feedLines (b.body ++ b.closing.toList) ++ t) =
      (feedLines (b.body ++ b.closing.toList)).length := by
    rw [feedLines_append, List.append_assoc,
      extent_append_lines b.inside (ht.feedLines_append _), List.length_append]
    congr 1
    cases hclosing : b.closing with
    | none => rw [hend hclosing]; rfl
    | some line =>
      obtain ⟨hline, hcloses⟩ := b.closes line hclosing
      show b.fence.extent ('\n' :: (line ++ [] ++ t)) = ('\n' :: (line ++ [])).length
      rw [List.append_nil, extent_closing hline hcloses ht, List.length_cons, Nat.add_comm]
  have hlength : b.opening.length + (feedLines (b.body ++ b.closing.toList)).length =
      b.text.length := (List.length_append).symm
  rw [startsLine] at hprev
  rw [recognise, if_pos hprev, Block.text, List.append_assoc]
  simp only [firstLine_append b.line hbehind, b.opens, Option.map_some, List.drop_left, hextent,
    hlength]
  rw [← List.append_assoc, ← Block.text, List.take_left]

/-- Lines behind an opening line are the inside of a block, and then the line that closes it and a rest,
unless no line does. -/
theorem exists_block {fence : Fence} {opening : Text} (hopens : opening? opening = some fence)
    (hline : '\n' ∉ opening) {lines : List Text} (hlines : ∀ l ∈ lines, '\n' ∉ l) :
    ∃ (b : Block) (rest : List Text), b.opening = opening ∧
      lines = b.body ++ b.closing.toList ++ rest ∧ (b.closing = none → rest = []) := by
  have hinside : ∀ l ∈ lines.takeWhile (!fence.closes ·), fence.IsInside l := fun l hl =>
    ⟨hlines l ((List.takeWhile_prefix _).subset hl), by simpa using List.mem_takeWhile_imp hl⟩
  have hsplit := List.takeWhile_append_dropWhile (p := (!fence.closes ·)) (l := lines)
  have hfirst := List.head?_dropWhile_not (!fence.closes ·) lines
  cases hrest : lines.dropWhile (!fence.closes ·) with
  | nil =>
    rw [hrest] at hsplit
    refine ⟨⟨fence, opening, _, none, hopens, hline, hinside, by simp⟩, [], rfl, ?_, fun _ => rfl⟩
    simpa using hsplit.symm
  | cons line rest =>
    rw [hrest] at hsplit hfirst
    have hcloses : ∀ l ∈ some line, '\n' ∉ l ∧ fence.closes l = true := by
      intro l hl
      obtain rfl := Option.mem_some_iff.mp hl
      have hmem : line ∈ lines := by
        rw [← hsplit]
        exact List.mem_append_right _ List.mem_cons_self
      exact ⟨hlines line hmem, by simpa using hfirst⟩
    refine ⟨⟨fence, opening, _, some line, hopens, hline, hinside, hcloses⟩, rest, rfl, ?_,
      fun h => by cases h⟩
    simpa using hsplit.symm

/-- The text of a block and the lines behind it. -/
theorem Block.text_append_feedLines (b : Block) (rest : List Text) :
    b.text ++ feedLines rest = b.opening ++ feedLines (b.body ++ b.closing.toList ++ rest) := by
  rw [Block.text, feedLines_append _ rest, List.append_assoc]

/-- What is found as a block is one, by its lines: it stands at the beginning of a line, a line end or
nothing follows it, and nothing does if no line closes it. -/
theorem recognise_eq_some {prev : Option Char} {u segment : Text} {n : Nat}
    (h : recognise prev u = some (segment, n)) :
    startsLine prev = true ∧ ∃ (b : Block) (t : Text), segment = b.text ∧ n = b.text.length ∧
      u = b.text ++ t ∧ AtLineEnd t ∧ (b.closing = none → t = []) := by
  have hprev : startsLine prev = true := by
    by_contra hnot
    rw [startsLine] at hnot
    rw [recognise, if_neg hnot] at h
    cases h
  obtain ⟨line, lines, rfl, hline, hlines⟩ := exists_lines u
  have hopens : ∃ fence, opening? line = some fence := by
    have hfirst := firstLine_append hline (atLineEnd_feedLines lines)
    rw [startsLine] at hprev
    rw [recognise, if_pos hprev, hfirst] at h
    obtain ⟨fence, hfence, -⟩ := Option.map_eq_some_iff.mp h
    exact ⟨fence, hfence⟩
  obtain ⟨fence, hopens⟩ := hopens
  obtain ⟨b, rest, rfl, rfl, hend⟩ := exists_block hopens hline hlines
  have hbehind : b.closing = none → feedLines rest = [] := fun hnone => by rw [hend hnone]; rfl
  rw [← b.text_append_feedLines] at h ⊢
  rw [recognise_text b hprev (atLineEnd_feedLines rest) hbehind] at h
  cases h
  exact ⟨hprev, b, feedLines rest, rfl, rfl, rfl, atLineEnd_feedLines rest, hbehind⟩

theorem Block.feed_not_mem (b : Block) : ∀ l ∈ b.body ++ b.closing.toList, '\n' ∉ l := by
  intro l hl
  rcases List.mem_append.mp hl with hl | hl
  · exact (b.inside l hl).1
  · exact (b.closes l (Option.mem_toList.mp hl)).1

/-- A line that closes a block is not one of the lines inside another block of the same fence. -/
theorem Block.ne_of_closing {b b' : Block} (hfence : b.fence = b'.fence) {line : Text}
    (hclosing : b.closing = some line) : b'.body ≠ b.body ++ [line] := by
  intro hbody
  have hinside := b'.inside line (by rw [hbody]; exact List.mem_append_right _ List.mem_cons_self)
  have hcloses := (b.closes line hclosing).2
  rw [hfence, hinside.2] at hcloses
  cases hcloses

/-- A block has only one reading by lines. -/
theorem Block.text_injective {b b' : Block} (h : b.text = b'.text) : b = b' := by
  have hopening : b.opening = b'.opening := by
    rw [← firstLine_append b.line (atLineEnd_feedLines (b.body ++ b.closing.toList)),
      ← firstLine_append b'.line (atLineEnd_feedLines (b'.body ++ b'.closing.toList))]
    exact congrArg firstLine h
  have hlines : b.body ++ b.closing.toList = b'.body ++ b'.closing.toList := by
    apply feedLines_injective b.feed_not_mem b'.feed_not_mem
    rw [Block.text, Block.text, hopening] at h
    exact List.append_cancel_left h
  have hfence : b.fence = b'.fence := by
    have hopens := b.opens
    rw [hopening, b'.opens] at hopens
    exact (Option.some.inj hopens).symm
  have hclosing : b.closing = b'.closing := by
    cases hb : b.closing with
    | none =>
      cases hb' : b'.closing with
      | none => rfl
      | some line =>
        rw [hb, hb', Option.toList_none, List.append_nil] at hlines
        exact absurd hlines (Block.ne_of_closing hfence.symm hb')
    | some line =>
      cases hb' : b'.closing with
      | none =>
        rw [hb, hb', Option.toList_none, List.append_nil] at hlines
        exact absurd hlines.symm (Block.ne_of_closing hfence hb)
      | some line' =>
        rw [hb, hb'] at hlines
        exact congrArg some (List.append_inj_right' hlines rfl |> List.singleton_inj.mp)
  rw [hclosing, List.append_cancel_right_eq] at hlines
  cases b
  cases b'
  simp_all

/-! ## What is found around a block -/

theorem size_of_opening? {line : Text} {fence : Fence} (h : opening? line = some fence) :
    3 ≤ fence.size := by
  unfold opening? at h
  dsimp only at h
  split at h
  · cases h
  · obtain ⟨hopen, heq⟩ := Option.ite_none_right_eq_some.mp h
    cases heq
    simp only [Bool.and_eq_true, decide_eq_true_eq] at hopen
    exact hopen.2

theorem Block.text_ne_nil (b : Block) : b.text ≠ [] := by
  have hopening : b.opening ≠ [] := by
    intro hnil
    have hopens := b.opens
    rw [hnil] at hopens
    cases hopens
  exact List.append_ne_nil_of_left_ne_nil hopening _

theorem cuts_recognise : Cuts recognise := by
  intro prev t a n h
  obtain ⟨-, b, rest, rfl, rfl, rfl, -, -⟩ := recognise_eq_some h
  exact ⟨b.text_ne_nil, rfl, List.prefix_append _ _⟩

/-- Where no block begins in some lines, none does whatever follows the lines. -/
theorem recognise_none_congr {prev : Option Char} {v u : Text} (hv : v.getLast? = some '\n')
    (h : recognise prev (v ++ u) = none) (u' : Text) : recognise prev (v ++ u') = none := by
  have hfeed : '\n' ∈ v := List.mem_of_getLast? hv
  unfold recognise at h ⊢
  dsimp only at h ⊢
  rw [firstLine_append_left hfeed] at h ⊢
  split at h
  · rename_i hprev
    rw [if_pos hprev, Option.map_eq_none_iff.mpr (Option.map_eq_none_iff.mp h)]
  · rename_i hprev
    rw [if_neg hprev]

/-- A block that ends in some lines is found whatever follows the lines. -/
theorem recognise_some_congr {prev : Option Char} {v u a : Text} (hv : v.getLast? = some '\n')
    (hu : u ≠ []) (ha : a <+: v) (h : recognise prev (v ++ u) = some (a, a.length)) (u' : Text) :
    recognise prev (v ++ u') = some (a, a.length) := by
  have hfeed : '\n' ∈ v := List.mem_of_getLast? hv
  obtain ⟨line, rest, rfl, hline⟩ := List.eq_append_cons_of_mem hfeed
  have hfirst : ∀ w, firstLine (line ++ '\n' :: rest ++ w) = line := fun w => by
    rw [firstLine_append_left hfeed]
    exact before_append hline rest
  have hdrop : ∀ w, (line ++ '\n' :: rest ++ w).drop line.length = '\n' :: rest ++ w := fun w => by
    rw [List.append_assoc, List.drop_left]
  have hrest : ('\n' :: rest).getLast? = some '\n' := by
    rwa [List.getLast?_append_of_ne_nil _ (List.cons_ne_nil _ _)] at hv
  unfold recognise at h ⊢
  dsimp only at h ⊢
  rw [hfirst, hdrop] at h ⊢
  obtain ⟨hprev, h⟩ := Option.ite_none_right_eq_some.mp h
  obtain ⟨fence, hopens, heq⟩ := Option.map_eq_some_iff.mp h
  have hlength := (Prod.mk.inj heq).2
  have hle := ha.length_le
  rw [List.length_append] at hle
  have hextent := extent_append_congr (Nat.lt_of_lt_of_le (by decide) (size_of_opening? hopens))
    hrest hu (by omega) u'
  rw [if_pos hprev, hopens, Option.map_some, hextent, hlength]
  congr 2
  rw [List.take_append_of_le_length ha.length_le]
  exact (List.prefix_iff_eq_take.mp ha).symm

/-- What is found behind a line does not depend on the line. -/
theorem scanFrom_atLineEnd {t : Text} (ht : AtLineEnd t) (prev prev' : Option Char) :
    scanFrom recognise prev 0 t = scanFrom recognise prev' 0 t := by
  cases t with
  | nil => rfl
  | cons c t =>
    obtain rfl := ht c rfl
    have hnone : ∀ prev, recognise prev ('\n' :: t) = none := fun prev => by
      have hopening : opening? (firstLine ('\n' :: t)) = none := rfl
      rw [recognise]
      dsimp only
      rw [hopening]
      exact ite_self _
    rw [scanFrom_plain (hnone prev), scanFrom_plain (hnone prev')]

end Fence

/-! ## Blocks that are put aside -/

namespace Shield

open Text

/-- Whether the first pass over a text puts a block of it aside, with the parts of the text in front of
the block and behind it. -/
def PutsAside (front block back : Text) : Prop :=
  ∃ pieces more, scan Fence.recognise (front ++ (block ++ back)) = pieces ++ .found block :: more ∧
    spell pieces = front

/-- What is put aside as a block is one by its lines, and other lines inside it change no other piece
of the text. -/
theorem PutsAside.scan_withBody {front block back : Text} (h : PutsAside front block back) :
    ∃ (b : Fence.Block) (pieces more : List (Piece Text)), b.text = block ∧
      ∀ body (inside : ∀ line ∈ body, b.fence.IsInside line),
        scan Fence.recognise (front ++ ((b.withBody body inside).text ++ back)) =
          pieces ++ .found (b.withBody body inside).text :: more := by
  obtain ⟨pieces, more, hscan, rfl⟩ := h
  have hblock := scanFrom_eq_append Fence.cuts_recognise hscan
  rcases scanFrom_eq_cons Fence.cuts_recognise hblock with ⟨c, rest, hpiece, -⟩ |
    ⟨a, rest, hpiece, htext, hfind, hne, hmore⟩
  · cases hpiece
  · cases hpiece
    obtain rfl := List.append_cancel_left htext
    obtain ⟨hprev, b, t, rfl, -, htext, hend, hopen⟩ := Fence.recognise_eq_some hfind
    obtain rfl := List.append_cancel_left htext
    -- the text in front of the block ends with a line feed, if there is any
    have hfeed : ∀ v, v ≠ [] → v <:+ spell pieces → v.getLast? = some '\n' := by
      rintro v hv ⟨w, hw⟩
      have hlast := List.getLast?_eq_getLast_of_ne_nil hv
      rw [Fence.startsLine, ← hw, lastOf, List.getLast?_append, hlast] at hprev
      rw [hlast]
      simpa using hprev
    refine ⟨b, pieces, more, rfl, fun body inside => ?_⟩
    have hfind' : Fence.recognise (lastOf none (spell pieces))
        ((b.withBody body inside).text ++ back) = some (_, _) :=
      Fence.recognise_text (b.withBody body inside) hprev hend hopen
    rw [scan, scanFrom_replace Fence.cuts_recognise
      (fun prev v hv hsuffix hnone => Fence.recognise_none_congr (hfeed v hv hsuffix) hnone _)
      (fun prev v a hv hsuffix hprefix hsome => Fence.recognise_some_congr (hfeed v hv hsuffix)
        (List.append_ne_nil_of_left_ne_nil hne _) hprefix hsome _) hscan,
      scanFrom_found (Fence.Block.text_ne_nil _) hfind', Fence.scanFrom_atLineEnd hend _
        (lastOf (lastOf none (spell pieces)) b.text), hmore]

/-- A mark says nothing about the segment that it stands for. -/
theorem stash_found_congr (first : Nat) (pieces more : List (Piece Text)) (a a' : Text) :
    stash first (pieces ++ .found a :: more) = stash first (pieces ++ .found a' :: more) := by
  induction pieces generalizing first with
  | nil => rfl
  | cons piece pieces ih =>
    cases piece with
    | plain c => exact congrArg (c :: ·) (ih first)
    | found s => exact congrArg (mark first ++ ·) (ih (first + 1))

/-- Two texts that differ in one block only are the same with their code put aside, and the block is all
that differs in the code. -/
theorem protect_found_congr {t t' a a' : Text} {pieces more : List (Piece Text)}
    (h : scan Fence.recognise t = pieces ++ .found a :: more)
    (h' : scan Fence.recognise t' = pieces ++ .found a' :: more) :
    (protect t').text = (protect t).text ∧
      ∃ before after, (protect t).saved = before ++ a :: after ∧
        (protect t').saved = before ++ a' :: after := by
  have hblocks : ∀ {u b : Text}, scan Fence.recognise u = pieces ++ .found b :: more →
      putAside Fence.recognise ⟨u, []⟩ = ⟨stash 0 (pieces ++ .found a :: more),
        pieces.filterMap Piece.segment? ++ b :: more.filterMap Piece.segment?⟩ := by
    intro u b hu
    rw [putAside, hu, List.filterMap_append, List.length_nil, stash_found_congr 0 pieces more b a]
    rfl
  rw [protect, protect, hblocks h, hblocks h']
  refine ⟨?_, _, _, List.append_assoc _ _ _, List.append_assoc _ _ _⟩
  simp only [putAside, List.length_append, List.length_cons]

end Shield
end WikiMarkup
