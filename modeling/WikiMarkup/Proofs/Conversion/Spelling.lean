import WikiMarkup.Proofs.Conversion.Declaration

/-!
# Spellings of scripts

A command is written with what it is given behind a colon or between parentheses. Both spellings are
read as the same command, whatever stands in it, so a page says the same with either; and a list of
tags that is written down is the list that the page declares.
-/

namespace WikiMarkup

open Text

/-! ## Commands -/

namespace Command

/-- A name that a command can have: a letter or an underscore, and then letters, digits, underscores
and hyphens. -/
structure IsName (name : Text) : Prop where
  start : ∃ c rest, name = c :: rest ∧ isNameStart c = true
  chars : ∀ c ∈ name, isNameChar c = true

/-- A command that is given something behind a colon. -/
def withColon (name given : Text) : Text := name ++ ": ".toList ++ given

/-- A command that is given something in parentheses. -/
def withParentheses (name given : Text) : Text := name ++ '(' :: given ++ [')']

/-- No character of a name is white space. -/
theorem isBlank_of_isNameChar {c : Char} (h : isNameChar c = true) : isBlank c = false := by
  have hcode : c.toNat = 45 ∨ c.toNat = 95 ∨ (48 ≤ c.toNat ∧ c.toNat ≤ 57) ∨
      (65 ≤ c.toNat ∧ c.toNat ≤ 90) ∨ (97 ≤ c.toNat ∧ c.toNat ≤ 122) ∨ c.toNat = 0x17f ∨
      c.toNat = 0x130 ∨ c.toNat = 0x131 ∨ c.toNat = 0x212a := by
    simp only [isNameChar, isNameStart, isCasedLetter, isLetter, Bool.or_eq_true, beq_iff_eq,
      isLowerLetter_iff, isUpperLetter_iff, isDigit_iff] at h
    rcases h with ((((((((h | h) | rfl) | rfl) | rfl) | rfl) | rfl) | h) | rfl)
    all_goals first | omega | decide
  simp only [isBlank, Bool.or_eq_false_iff, Bool.and_eq_false_iff, decide_eq_false_iff_not,
    beq_eq_false_iff_ne]
  omega

/-- A command is read by its name, and what is behind the name is what it is given. -/
theorem read_append {name rest : Text} (hname : IsName name)
    (hrest : ∀ c, rest.head? = some c → isNameChar c = false) :
    read (name ++ rest) = (readRaw rest).map fun raw => ⟨name, trim raw⟩ := by
  obtain ⟨c, tail, rfl, hc⟩ := hname.start
  have htrim : trim (c :: tail ++ rest) = c :: tail ++ trimEnd isBlank rest :=
    trimBy_append_kept (List.cons_ne_nil c tail)
      (fun d hd => isBlank_of_isNameChar (hname.chars d hd)) rest
  have hstop : ∀ d, (trimEnd isBlank rest).head? = some d → isNameChar d = false := by
    intro d hd
    obtain ⟨blanks, hblanks⟩ : trimEnd isBlank rest <+: rest := List.rdropWhile_prefix isBlank rest
    apply hrest
    rw [← hblanks, List.head?_append, hd, Option.some_or]
  have hraw : readRaw (trimEnd isBlank rest) = readRaw rest := by
    rw [readRaw, readRaw, trim, trimBy_trimEnd]
    rfl
  unfold read
  dsimp only
  rw [htrim, (takeWhile_append_stop hname.chars hstop).1]
  dsimp only
  rw [if_pos hc, List.drop_left, hraw]

/-- A space in front is trimmed away. -/
theorem trim_space (t : Text) : trim (' ' :: t) = trim t := by
  refine trimBy_append_left (a := [' ']) t fun c hc => ?_
  rw [List.mem_singleton.mp hc]
  rfl

theorem read_withColon {name : Text} (hname : IsName name) (given : Text) :
    read (withColon name given) = some ⟨name, trim given⟩ := by
  have hstop : ∀ c, (':' :: ' ' :: given).head? = some c → isNameChar c = false := by
    intro c hc
    cases hc
    rfl
  have hcolon : ∀ c ∈ [':'], isBlank c = false := by
    intro c hc
    rw [List.mem_singleton.mp hc]
    rfl
  have htrim : trim (':' :: ' ' :: given) = ':' :: trimEnd isBlank (' ' :: given) :=
    trimBy_append_kept (List.cons_ne_nil _ _) hcolon (' ' :: given)
  -- the white space around what is given goes, wherever it is trimmed first
  have hraw : trim (trimEnd isBlank (' ' :: given)) = trim given := by
    rw [trim, trimBy_trimEnd]
    exact trim_space given
  have hread : readRaw (':' :: ' ' :: given) = some (trimEnd isBlank (' ' :: given)) := by
    rw [readRaw, htrim]
    rfl
  have hbody : withColon name given = name ++ ':' :: ' ' :: given := by
    rw [withColon, List.append_assoc]
    rfl
  rw [hbody, read_append hname hstop, hread, Option.map_some, hraw]

theorem read_withParentheses {name : Text} (hname : IsName name) (given : Text) :
    read (withParentheses name given) = some ⟨name, trim given⟩ := by
  have hstop : ∀ c, ('(' :: (given ++ [')'])).head? = some c → isNameChar c = false := by
    intro c hc
    cases hc
    rfl
  have htrim : trim ('(' :: (given ++ [')'])) = '(' :: (given ++ [')']) := by
    apply trimBy_eq_self
    · intro c hc
      cases hc
      rfl
    · intro c hc
      rw [← List.cons_append, List.getLast?_concat] at hc
      cases hc
      rfl
  -- the parenthesis that closes is the last one, whatever parentheses are given
  have hread : readRaw ('(' :: (given ++ [')'])) = some given := by
    rw [readRaw, htrim]
    simp
  have hbody : withParentheses name given = name ++ '(' :: (given ++ [')']) := by
    rw [withParentheses, List.append_assoc, List.cons_append]
  rw [hbody, read_append hname hstop, hread, Option.map_some]

/-! ## Tags -/

/-- A tag that can be written in a list of tags: it is not empty, has no white space around it and no
comma, and can stand in a script. -/
structure IsTag (tag : Text) : Prop where
  nonempty : tag ≠ []
  trimmed : trim tag = tag
  comma : ',' ∉ tag
  chars : ∀ c ∈ tag, Script.isBodyChar c = true

/-- A list of tags, as it is written. -/
def tagList (tags : List Text) : Text := join ", ".toList tags

theorem tagList_cons (tag : Text) (tags : List Text) :
    tagList (tag :: tags) = tag ++ (tags.map (' ' :: ·)).flatMap (',' :: ·) := by
  rw [tagList, join_cons, List.flatMap_map]
  rfl

/-- A list of tags has no white space around it. -/
theorem trim_tagList {tags : List Text} (h : ∀ tag ∈ tags, IsTag tag) :
    trim (tagList tags) = tagList tags := by
  have hhead : ∀ {tag}, IsTag tag → ∀ c, tag.head? = some c → isBlank c = false := by
    intro tag htag c hc
    exact head?_trimBy (t := tag) (by rw [← hc]; exact congrArg List.head? htag.trimmed)
  have hlast : ∀ {tag}, IsTag tag → ∀ c, tag.getLast? = some c → isBlank c = false := by
    intro tag htag c hc
    exact getLast?_trimBy (t := tag) (by rw [← hc]; exact congrArg List.getLast? htag.trimmed)
  cases tags with
  | nil => rfl
  | cons tag tags =>
    rw [List.forall_mem_cons] at h
    apply trimBy_eq_self
    · intro c hc
      rw [tagList_cons, List.head?_append_of_ne_nil _ h.1.nonempty] at hc
      exact hhead h.1 c hc
    · intro c hc
      -- the list ends with its last tag
      induction tags generalizing tag with
      | nil =>
        rw [tagList_cons, List.map_nil, List.flatMap_nil, List.append_nil] at hc
        exact hlast h.1 c hc
      | cons next tags ih =>
        rw [List.forall_mem_cons] at h
        refine ih next ⟨h.2.1, h.2.2⟩ ?_
        rw [← hc]
        show (join ", ".toList (next :: tags)).getLast? =
          (tag ++ ", ".toList ++ join ", ".toList (next :: tags)).getLast?
        rw [List.getLast?_append_of_ne_nil]
        rw [join_cons]
        exact List.append_ne_nil_of_left_ne_nil h.2.1.nonempty _

/-- The tags of a list are read back. -/
theorem arguments_tagList {tags : List Text} (h : ∀ tag ∈ tags, IsTag tag) :
    arguments (tagList tags) = tags := by
  cases tags with
  | nil => rfl
  | cons tag tags =>
    have hparts : ∀ part ∈ tags.map (' ' :: ·), ',' ∉ part := by
      intro part hpart
      obtain ⟨next, hnext, rfl⟩ := List.mem_map.mp hpart
      simpa using (h next (List.mem_cons_of_mem tag hnext)).comma
    have htrim : tags.map (trim ∘ (' ' :: ·)) = tags := by
      conv_rhs => rw [← List.map_id tags]
      refine List.map_congr_left fun next hnext => ?_
      exact (trim_space next).trans (h next (List.mem_cons_of_mem tag hnext)).trimmed
    rw [List.forall_mem_cons] at h
    have hne : (tagList (tag :: tags)).isEmpty = false := by
      rw [tagList_cons]
      simp [h.1.nonempty]
    rw [arguments, hne, if_neg Bool.false_ne_true, tagList_cons,
      splitOn_append_flatMap h.1.comma hparts, List.map_cons, List.map_map, h.1.trimmed, htrim]

end Command

/-! ## Scripts -/

namespace Script

/-- A text that can stand between the braces of a script. -/
structure IsBody (body : Text) : Prop where
  nonempty : body ≠ []
  chars : ∀ c ∈ body, isBodyChar c = true

/-- The script with a body. -/
def braced (body : Text) : Text := '\x7b' :: '\x7b' :: body ++ ['\x7d', '\x7d']

/-- A script on its own is all that is found. -/
theorem scan_braced {body : Text} (h : IsBody body) :
    scan recognise (braced body) = [.found ⟨braced body, body⟩] := by
  have hfound : recognise none (braced body ++ []) =
      some (⟨braced body, body⟩, (braced body).length) := by
    rw [List.append_nil]
    exact recognise_eq_some_iff.mpr ⟨h.nonempty, h.chars, rfl, rfl, List.prefix_refl _⟩
  have hscan := scanFrom_found (List.cons_ne_nil _ _) hfound
  rwa [List.append_nil] at hscan

end Script

namespace Command

/-- A command can stand in a script if what it is given can, however it is spelled. -/
theorem isBody_spelled {name given body : Text} (hname : IsName name)
    (hgiven : ∀ c ∈ given, Script.isBodyChar c = true)
    (hbody : body = withColon name given ∨ body = withParentheses name given) :
    Script.IsBody body := by
  have hchars : ∀ c ∈ name, Script.isBodyChar c = true := by
    intro c hc
    by_contra hnot
    have hsign : (c = '\x7b' ∨ c = '\x7d') ∨ c = '\n' := by
      simpa only [Script.isBodyChar, Bool.not_eq_true', Bool.not_eq_false, Bool.or_eq_true,
        beq_iff_eq] using hnot
    have hchar := hname.chars c hc
    rcases hsign with (rfl | rfl) | rfl <;> cases hchar
  have hne : name ≠ [] := by
    obtain ⟨first, rest, rfl, -⟩ := hname.start
    exact List.cons_ne_nil first rest
  rcases hbody with rfl | rfl
  · rw [withColon, List.append_assoc]
    refine ⟨List.append_ne_nil_of_left_ne_nil hne _, ?_⟩
    rw [List.forall_mem_append, List.forall_mem_append]
    exact ⟨hchars, List.all_eq_true.mp rfl, hgiven⟩
  · rw [withParentheses, List.append_assoc]
    refine ⟨List.append_ne_nil_of_left_ne_nil hne _, ?_⟩
    rw [List.forall_mem_append, List.forall_mem_append, List.forall_mem_cons]
    exact ⟨hchars, ⟨rfl, hgiven⟩, List.all_eq_true.mp rfl⟩

/-- A list of tags can stand in a script. -/
theorem isBodyChar_tagList {tags : List Text} (h : ∀ tag ∈ tags, IsTag tag) :
    ∀ c ∈ tagList tags, Script.isBodyChar c = true := by
  intro c hc
  cases tags with
  | nil => cases hc
  | cons tag tags =>
    rw [List.forall_mem_cons] at h
    rw [tagList_cons, List.mem_append, List.mem_flatMap] at hc
    rcases hc with hc | ⟨part, hpart, hc⟩
    · exact h.1.chars c hc
    · obtain ⟨next, hnext, rfl⟩ := List.mem_map.mp hpart
      rcases List.mem_cons.mp hc with rfl | hc
      · rfl
      · rcases List.mem_cons.mp hc with rfl | hc
        · rfl
        · exact (h.2 next hnext).chars c hc

end Command

namespace Conversion

/-- A script on its own is run, and nothing is left of it. -/
theorem scripts_braced {body : Text} {c : Command} (hbody : Script.IsBody body)
    (hread : Command.read body = some c) (setup : Setup) (s : State) :
    scripts setup (Script.braced body) s =
      ((perform setup c s).1.map fun _ => [], (perform setup c s).2) := by
  rw [scripts, Script.scan_braced hbody, Action.replacePieces_singleton]
  exact script_some hread s

/-- A command is run with what it is given, however it is spelled. -/
theorem scripts_command {name given body : Text} (hname : Command.IsName name)
    (hgiven : ∀ c ∈ given, Script.isBodyChar c = true)
    (hbody : body = Command.withColon name given ∨ body = Command.withParentheses name given)
    (setup : Setup) (s : State) :
    scripts setup (Script.braced body) s =
      ((perform setup ⟨name, trim given⟩ s).1.map fun _ => [],
        (perform setup ⟨name, trim given⟩ s).2) := by
  refine scripts_braced (Command.isBody_spelled hname hgiven hbody) ?_ setup s
  rcases hbody with rfl | rfl
  · exact Command.read_withColon hname given
  · exact Command.read_withParentheses hname given

/-- A script says the same in both spellings: its command is run with what it is given, trimmed, and
with the parts of this between the commas, trimmed; nothing of it is left in the text, or it breaks
off. A script with a list of tags adds just these to the tags of the page. -/
theorem scripts_spelled (setup : Setup) (s : State) :
    (∀ name given, Command.IsName name → (∀ c ∈ given, Script.isBodyChar c = true) →
      let raw := trim given
      let args := if raw.isEmpty then [] else (raw.splitOn ',').map trim
      let told := runCommand setup name args raw s
      ∀ body, body = Command.withColon name given ∨ body = Command.withParentheses name given →
        scripts setup (Script.braced body) s = (told.1.map fun _ => [], told.2)) ∧
      ∀ tags, (∀ tag ∈ tags, Command.IsTag tag) →
        scripts setup
            (Script.braced (Command.withColon "tags".toList (Command.tagList tags))) s =
          (.ok [], { s with session := { s.session with tags := s.session.tags ++ tags } }) := by
  constructor
  · intro name given hname hgiven raw args told body hbody
    exact scripts_command hname hgiven hbody setup s
  · intro tags htags
    have hname : Command.IsName "tags".toList :=
      ⟨⟨'t', "ags".toList, rfl, rfl⟩, List.all_eq_true.mp rfl⟩
    rw [scripts_command hname (Command.isBodyChar_tagList htags) (Or.inl rfl), perform,
      Command.trim_tagList htags, Command.arguments_tagList htags]
    -- a tag of the list is not empty, so none is left out
    have hall : (tags.filter fun tag => !tag.isEmpty) = tags := by
      rw [List.filter_eq_self]
      intro tag htag
      simpa using (htags tag htag).nonempty
    have hkind : Command.kind? "tags".toList = some .tags := rfl
    unfold runCommand
    rw [hkind]
    dsimp only
    rw [hall]
    rfl

/-- Parentheses and commas in what a command is given, and white space around it. -/
theorem scripts_spelled_parentheses :
    let setup : Setup := .bare ⟨"doc".toList, "en".toList, homepage⟩
    let colon := Script.braced (Command.withColon "title".toList "a(b), c) ".toList)
    let parentheses := Script.braced (Command.withParentheses "title".toList "a(b), c) ".toList)
    let tags := ["a b".toList, "c".toList]
    let list := Script.braced (Command.withColon "tags".toList (Command.tagList tags))
    colon = "\x7b\x7btitle: a(b), c) \x7d\x7d".toList ∧
      parentheses = "\x7b\x7btitle(a(b), c) )\x7d\x7d".toList ∧
      list = "\x7b\x7btags: a b, c\x7d\x7d".toList ∧
      (scripts setup colon {}).2.title = some "a(b), c)".toList ∧
      scripts setup parentheses {} = scripts setup colon {} ∧
      (scripts setup list {}).2.session.tags = tags := by
  intro setup colon parentheses tags list
  have hname : Command.IsName "title".toList :=
    ⟨⟨'t', "itle".toList, rfl, rfl⟩, List.all_eq_true.mp rfl⟩
  have hgiven : ∀ c ∈ "a(b), c) ".toList, Script.isBodyChar c = true := List.all_eq_true.mp rfl
  have htag : Command.IsTag "a b".toList ∧ Command.IsTag "c".toList :=
    ⟨⟨by decide, by decide +kernel, by decide, List.all_eq_true.mp rfl⟩,
      ⟨by decide, by decide +kernel, by decide, List.all_eq_true.mp rfl⟩⟩
  obtain ⟨hspelled, htags⟩ := scripts_spelled setup {}
  have hcolon := hspelled _ _ hname hgiven _ (Or.inl rfl)
  have hparentheses := hspelled _ _ hname hgiven _ (Or.inr rfl)
  have hlist := htags tags (List.forall_mem_cons.mpr ⟨htag.1, List.forall_mem_singleton.mpr htag.2⟩)
  refine ⟨by decide +kernel, by decide +kernel, by decide +kernel, by decide +kernel,
    hparentheses.trans hcolon.symm, ?_⟩
  rw [hlist]
  rfl

end Conversion
end WikiMarkup
