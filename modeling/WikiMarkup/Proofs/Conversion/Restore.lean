import WikiMarkup.Proofs.Conversion.Containment
import WikiMarkup.Proofs.Conversion.Declaration
import WikiMarkup.Proofs.Conversion.Destination

/-!
# Putting the code of a page back

Between putting the code of a page aside and putting it back its scripts are taken out and its
references are replaced. References and scripts are cut out of the text at brackets, braces and bars,
labels at colons and number signs, and what is written in their place is escaped: nothing of this
goes through a mark. So there is a segment for every mark that is met, unless marks came with the text
or with the names of the wiki.
-/

namespace WikiMarkup

open Shield Text

variable {count : Nat}

/-! ## Labels -/

theorem isIntact_lastSegment {t : Text} (h : IsIntact count t) :
    IsIntact count (lastSegment t) := by
  have hsplit : directory t ++ lastSegment t = t := List.rdropWhile_append_rtakeWhile
  rw [← hsplit] at h
  rcases Token.directory_eq_nil_or t with hnil | ⟨parent, hparent⟩
  · rwa [hnil] at h
  · rw [hparent, List.append_assoc, List.singleton_append] at h
    exact (h.cut_cons rfl).2

namespace Reference

/-- A word of small letters and the colon behind it have no character of marks. -/
theorem not_isMarkChar_word {t : Text}
    (hcolon : (t.drop (t.takeWhile isLowerLetter).length).head? = some ':') :
    ∀ c ∈ t.take ((t.takeWhile isLowerLetter).length + 1), isMarkChar c = false := by
  have hletters : ∀ c ∈ t.takeWhile isLowerLetter, isLowerLetter c = true :=
    fun c hc => List.mem_takeWhile_imp hc
  obtain ⟨rest, hrest⟩ : t.takeWhile isLowerLetter <+: t := List.takeWhile_prefix _
  generalize t.takeWhile isLowerLetter = word at hcolon hletters hrest ⊢
  rw [← hrest, List.drop_left] at hcolon
  obtain ⟨rest, rfl⟩ := List.head?_eq_some_iff.mp hcolon
  rw [← hrest, List.take_length_add_append, List.forall_mem_append]
  refine ⟨fun c hc => not_isMarkChar_of_isLowerLetter (hletters c hc), ?_⟩
  exact List.forall_mem_cons.mpr ⟨rfl, nofun⟩

/-- What stands in front of a label is made of number signs, colons and small letters. -/
theorem not_isMarkChar_labelPrefix {skip : Nat} {t : Text}
    (hskip : ∀ c ∈ t.take skip, isMarkChar c = false) :
    ∀ c ∈ t.take (labelPrefixFrom skip t), isMarkChar c = false := by
  induction t generalizing skip with
  | nil => simp
  | cons c t ih =>
    cases skip with
    | succ skip =>
      rw [List.take_succ_cons, List.forall_mem_cons] at hskip
      rw [labelPrefixFrom, Nat.add_comm, List.take_succ_cons, List.forall_mem_cons]
      exact ⟨hskip.1, ih hskip.2⟩
    | zero =>
      unfold labelPrefixFrom
      dsimp only
      split
      · rename_i hhash
        rw [beq_iff_eq.mp hhash, Nat.add_comm, List.take_succ_cons, List.forall_mem_cons]
        exact ⟨rfl, ih (by simp)⟩
      · split
        · rename_i hword
          rw [Bool.and_eq_true, Bool.and_eq_true, beq_iff_eq] at hword
          -- the word is counted as a whole, and its colon with it
          have hcounted := not_isMarkChar_word hword.1.2
          rw [List.take_succ_cons, List.forall_mem_cons] at hcounted
          rw [Nat.add_comm, List.take_succ_cons, List.forall_mem_cons]
          exact ⟨hcounted.1, ih hcounted.2⟩
        · exact nofun

theorem isIntact_targetLabel {token : Text} (h : IsIntact count token) :
    IsIntact count (targetLabel token) := by
  rw [← List.take_append_drop (labelPrefixFrom 0 token) token] at h
  exact h.of_append_right (not_isMarkChar_labelPrefix (by simp))

/-! ### References as they are written -/

theorem sparesMarks_recognise : SparesMarks recognise where
  start hc := by
    refine recognise_eq_none ?_ _ _
    rintro rfl
    cases hc
  stop {prev t r n} h := by
    obtain ⟨hstart, hlength⟩ := source_of_recognise h
    have hend : r.source = ("[[".toList ++ (r.target ++ (r.label.elim [] ('|' :: ·) ++ [']']))) ++
        [']'] := by simp [source]
    exact ⟨_, ']', hend ▸ hstart, hend ▸ hlength, rfl⟩

/-- A reference with whole marks has whole marks in its target and in its label. -/
theorem isIntact_of_source {r : Reference} (h : IsIntact count r.source) :
    IsIntact count r.target ∧ ∀ label, r.label = some label → IsIntact count label := by
  have hopen : ∀ c ∈ "[[".toList, isMarkChar c = false := List.forall_mem_cons.mpr
    ⟨rfl, List.forall_mem_cons.mpr ⟨rfl, nofun⟩⟩
  have hclose : ∀ c ∈ "]]".toList, isMarkChar c = false := List.forall_mem_cons.mpr
    ⟨rfl, List.forall_mem_cons.mpr ⟨rfl, nofun⟩⟩
  have hinside := h.of_append_right hopen
  obtain ⟨htarget, hrest⟩ := hinside.cut fun c hc => by
    cases hlabel : r.label with
    | none =>
      rw [hlabel] at hc
      cases hc
      rfl
    | some label =>
      rw [hlabel] at hc
      cases hc
      rfl
  refine ⟨htarget, fun label hlabel => ?_⟩
  rw [hlabel] at hrest
  exact (hrest.tail (by decide)).of_append_left hclose

/-- What a reader sees of a reference with whole marks has whole marks, if the name of its page
has. -/
theorem isIntact_shown {r : Reference} (h : IsIntact count r.source) {destination : Destination}
    (hname : ∀ ref, destination = .page ref → IsIntact count ref.name) :
    IsIntact count (r.shown destination) := by
  obtain ⟨htarget, hlabel⟩ := isIntact_of_source h
  have hgiven : ∀ {other : Text}, IsIntact count other →
      IsIntact count ((r.label.map trim).getD other) := by
    intro other hother
    cases hsome : r.label with
    | none => exact hother
    | some label => exact (hlabel label hsome).trim
  cases destination with
  | page ref => exact hgiven (isIntact_lastSegment (hname ref rfl))
  | url url => exact hgiven (isIntact_targetLabel htarget.trim)

end Reference

/-! ## Replacing -/

theorem Script.sparesMarks_recognise : SparesMarks Script.recognise where
  start hc := by
    refine Script.recognise_eq_none ?_ _ _
    rintro rfl
    cases hc
  stop {prev t s n} h := by
    obtain ⟨-, -, hsource, rfl, hstart⟩ := Script.recognise_eq_some_iff.mp h
    have hend : s.source = ('\x7b' :: '\x7b' :: s.body ++ ['\x7d']) ++ ['\x7d'] := by
      simp [hsource]
    exact ⟨_, '\x7d', hend ▸ hstart, congrArg List.length hend, rfl⟩

theorem isIntact_escape {t : Text} (h : IsIntact count t) : IsIntact count (Entity.escape t) := by
  refine h.flatMap (fun c hc => Entity.escapeChar_eq_self ?_) fun c hc => ?_
  · by_contra hescaped
    rw [Bool.not_eq_false] at hescaped
    rcases Entity.eq_of_isEscaped hescaped with rfl | rfl | rfl | rfl | rfl <;> cases hc
  · cases hescaped : Entity.isEscaped c with
    | false =>
      rw [Entity.escapeChar_eq_self hescaped, List.mem_singleton]
      exact (ne_edge_of_not_isMarkChar hc).symm
    | true =>
      rcases Entity.eq_of_isEscaped hescaped with rfl | rfl | rfl | rfl | rfl <;> decide

namespace Conversion

theorem isIntact_anchor {url attributes label : Text} (hurl : IsIntact count url)
    (hattributes : edge ∉ attributes) (hlabel : IsIntact count label) :
    IsIntact count (anchor url attributes label) := by
  have hliteral : ∀ {t : Text}, edge ∉ t → IsIntact count t := isIntact_of_not_mem
  unfold anchor
  refine ((((((hliteral ?_).append (isIntact_escape hurl)).append (hliteral ?_)).append
    (hliteral hattributes)).append (hliteral ?_)).append (isIntact_escape hlabel)).append
    (hliteral ?_)
  all_goals decide

/-- The HTML of a reference with whole marks has whole marks. -/
theorem isIntact_reference {setup : Setup} (hsetup : setup.IsClean) {r : Reference}
    (h : IsIntact count r.source) {s : State} {html : Text}
    (hhtml : (reference setup r s).1 = .ok html) : IsIntact count html := by
  cases hresolve : Link.resolve setup.files setup.site setup.page r.token with
  | error fault =>
    change ((resolve setup r.token).andThen _ s).1 = _ at hhtml
    rw [resolve_andThen_of_error hresolve] at hhtml
    cases hhtml
  | ok resolution =>
    rw [reference_fst hresolve] at hhtml
    cases hhtml
    obtain ⟨hurl, hname⟩ :=
      isIntact_resolve hsetup (Reference.isIntact_of_source h).1.trim hresolve
    refine isIntact_anchor hurl ?_ (Reference.isIntact_shown h hname)
    -- a language is not escaped, but it is two letters where it is written
    rcases referenceAttributes_cases hresolve s with hnone | hmark | ⟨lang, hlang, heq⟩
    · rw [hnone]
      exact List.not_mem_nil
    · rw [hmark]
      decide
    · rw [heq]
      have hfront : edge ∉ " lang=\"".toList := by decide
      have hcode := Token.edge_not_mem_of_isLangCode hlang
      simpa [hcode] using hfront

namespace Action

variable {α : Type} {act : α → Action Text}

theorem replacePieces_plains (t : Text) (pieces : List (Piece α)) (s : State) :
    replacePieces act (t.map .plain ++ pieces) s =
      ((replacePieces act pieces s).1.map (t ++ ·), (replacePieces act pieces s).2) := by
  induction t with
  | nil =>
    show replacePieces act pieces s = _
    cases h : replacePieces act pieces s with
    | mk result s' =>
      cases result with
      | error fault => rfl
      | ok u => rfl
  | cons c t ih =>
    rw [List.map_cons, List.cons_append, replacePieces_plain, ih]
    cases (replacePieces act pieces s).1 with
    | error fault => rfl
    | ok u => rfl

end Action

/-- Segments can be replaced by what actions make of them, if that has whole marks. -/
theorem isIntact_replacePieces {α : Type} {find : Recogniser α} {act : α → Action Text}
    (hact : ∀ {prev t a n s u}, find prev t = some (a, n) → IsIntact count (t.take n) →
      (act a s).1 = .ok u → IsIntact count u) {pieces : List (Piece α)}
    (h : AreIntact find count pieces) {s : State} {u : Text}
    (hu : (Action.replacePieces act pieces s).1 = .ok u) : IsIntact count u := by
  induction h generalizing s u with
  | nil =>
    cases hu
    exact .nil
  | plain hc _ ih =>
    rw [Action.replacePieces_plain] at hu
    obtain ⟨rest, hrest, rfl⟩ := Link.map_eq_ok_iff.mp hu
    exact .plain hc (ih hrest)
  | mark hn _ ih =>
    rw [Action.replacePieces_plains] at hu
    obtain ⟨rest, hrest, rfl⟩ := Link.map_eq_ok_iff.mp hu
    exact .mark hn (ih hrest)
  | @found _ _ a _ pieces hfind hsegment _ ih =>
    cases hown : (act a s).1 with
    | error fault =>
      rw [Action.replacePieces_fails (Prod.ext hown rfl)] at hu
      cases hu
    | ok own =>
      rw [Action.replacePieces_found hown] at hu
      obtain ⟨rest, hrest, rfl⟩ := Link.map_eq_ok_iff.mp hu
      exact (hact hfind hsegment hown).append (ih hrest)

/-- Replacing the references of a text leaves its marks whole. -/
theorem isIntact_references {setup : Setup} (hsetup : setup.IsClean) {t : Text}
    (h : IsIntact count t) {s : State} {u : Text} (hu : (references setup t s).1 = .ok u) :
    IsIntact count u := by
  refine isIntact_replacePieces ?_ (h.scanFrom Reference.sparesMarks_recognise none) hu
  intro prev t r n s html hfind hsegment hhtml
  obtain ⟨hstart, rfl⟩ := Reference.source_of_recognise hfind
  rw [← List.prefix_iff_eq_take.mp hstart] at hsegment
  exact isIntact_reference hsetup hsegment hhtml

/-- Taking the scripts out of a text leaves its marks whole. -/
theorem isIntact_scripts (setup : Setup) {t : Text} (h : IsIntact count t) {s : State} {u : Text}
    (hu : (scripts setup t s).1 = .ok u) : IsIntact count u := by
  refine isIntact_replacePieces ?_ (h.scanFrom Script.sparesMarks_recognise none) hu
  intro prev t sc n s left hfind hsegment hleft
  rw [script_fst hleft, Script.leftover]
  split
  · exact .nil
  · rwa [Script.source_eq_take hfind]

/-! ## Restoring -/

/-- A text is prepared by putting the code back into what the two passes leave. -/
theorem prepare_eq_restore {setup : Setup} {t u v : Text} {s : State}
    (hscripts : (scripts setup (protect t).text s).1 = .ok u)
    (hreferences : (references setup u (scripts setup (protect t).text s).2).1 = .ok v) :
    (prepare setup t s).1 = restore ⟨v, (protect t).saved⟩ := by
  show ((scripts setup (protect t).text).andThen _ s).1 = _
  rw [Action.andThen_ok hscripts]
  show ((references setup u).andThen _ (scripts setup (protect t).text s).2).1 = _
  rw [Action.andThen_ok hreferences]
  rfl

/-- Where neither the text nor what the conversion is given has the character that marks begin with,
and the scripts and the references do not break off, there is a segment for every mark that is met
when the code is put back. So this can fail for a number that is longer than numbers may be only, and
not if there are no such numbers. -/
theorem restore_replaced {setup : Setup} (hsetup : setup.IsClean) {t u v : Text} (ht : edge ∉ t)
    {s : State} (hscripts : (scripts setup (protect t).text s).1 = .ok u)
    (hreferences : (references setup u (scripts setup (protect t).text s).2).1 = .ok v) :
    (∀ digits ∈ segments recogniseMark v, Digit.number digits < (protect t).saved.length) ∧
      (∀ fault, (prepare setup t s).1 = .error fault → ∃ n, fault = .numberTooLong n) ∧
      ((protect t).saved.length ≤ 10 ^ Fault.digitLimit →
        ∃ result, (prepare setup t s).1 = .ok result) := by
  -- marks are whole when the code has been put aside, and both passes leave them whole
  have hshielded : IsIntact (protect t).saved.length (protect t).text := isIntact_protect ht
  have hreplaced : IsIntact (protect t).saved.length v :=
    isIntact_references hsetup (isIntact_scripts setup hshielded hscripts) hreferences
  rw [prepare_eq_restore hscripts hreferences]
  exact ⟨fun digits hdigits => hreplaced.number_lt hdigits, hreplaced.restore⟩

/-- Code that is deleted with a script, and code that is quoted in the URL and the label of a
reference. -/
theorem restore_replaced_quoted :
    let setup : Setup :=
      { Setup.bare ⟨"doc".toList, "en".toList, homepage⟩ with site := Settings.site {} }
    let t : Text :=
      "\x60a\x60\x7b\x7btitle: \x60b\x60\x7d\x7d[[attachment:\x60c\x60|\x60d\x60]]".toList
    let v : Text :=
      "\x00CODE0\x00<a href=\"/media/doc/\x00CODE2\x00\">\x00CODE3\x00</a>".toList
    (references setup "\x00CODE0\x00[[attachment:\x00CODE2\x00|\x00CODE3\x00]]".toList
        (scripts setup (protect t).text {}).2).1 = .ok v ∧
      (∀ digits ∈ segments recogniseMark v, Digit.number digits < 4) ∧
      ∃ result, (prepare setup t {}).1 = .ok result := by
  intro setup t v
  have hsetup : setup.IsClean := by
    constructor <;> decide +kernel
  have hsaved : (protect t).saved.length = 4 := by decide +kernel
  have hscripts : (scripts setup (protect t).text {}).1 =
      .ok "\x00CODE0\x00[[attachment:\x00CODE2\x00|\x00CODE3\x00]]".toList := by decide +kernel
  have hreferences : (references setup
      "\x00CODE0\x00[[attachment:\x00CODE2\x00|\x00CODE3\x00]]".toList
      (scripts setup (protect t).text {}).2).1 = .ok v := by decide +kernel
  obtain ⟨hmarks, -, hok⟩ :=
    restore_replaced hsetup (show edge ∉ t by decide +kernel) hscripts hreferences
  rw [hsaved] at hmarks hok
  refine ⟨hreferences, hmarks, hok ?_⟩
  calc 4 ≤ 10 ^ 1 := by decide
    _ ≤ 10 ^ Fault.digitLimit := Nat.pow_le_pow_right (by decide) (by decide)

/-- A mark that an author wrote, of which there is no segment. -/
theorem restore_replaced_written :
    let setup : Setup := .bare ⟨"doc".toList, "en".toList, homepage⟩
    let t : Text := "\x00CODE5\x00".toList
    (scripts setup (protect t).text {}).1 = .ok t ∧
      (references setup t (scripts setup (protect t).text {}).2).1 = .ok t ∧
      segments recogniseMark t = ["5".toList] ∧ (protect t).saved.length = 0 ∧
      (prepare setup t {}).1 = .error .unknownMark := by
  decide +kernel

end Conversion

end WikiMarkup
