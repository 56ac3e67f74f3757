import WikiMarkup.Page.Disk
import WikiMarkup.Proofs.Page.Files

/-!
# What a lookup can see of a disk

A walk over a disk reads what is at the places that it comes to and right below them, and nothing else.
So a walk that comes to no place outside of a directory goes the same way on every disk that is the same
in this directory, and a file is found on one of them exactly if it is found on the other.

It is the walk that counts, not the path: a link leads elsewhere without a step up in the path, and a
step up behind a link leads to the directory above its target.
-/

namespace WikiMarkup

namespace Disk

/-! ## Steps -/

/-- What a step of a walk can be: it stays, or goes up, or goes down to an entry, or is sent on by a
link. -/
theorem look_ok {disk : Disk} {place : List Text} {name : Text} {move : Move}
    (h : look disk place name = .ok move) :
    (name = [] ∨ name = ['.']) ∧ move = .arrive place ∨
      name = parentName ∧ move = .arrive place.dropLast ∨
      name ≠ [] ∧ name ≠ ['.'] ∧ name ≠ parentName ∧
        ((∃ target, disk.entry (place ++ [name]) = some (.link target) ∧
            move = .follow (if target.head? == some '/' then [] else place) (target.splitOn '/')) ∨
          move = .arrive (place ++ [name])) := by
  -- the cases stand in the order in which a lookup tries them
  unfold look at h
  split at h
  case h_2 => cases h
  case h_1 searchable hentry =>
    by_cases hempty : name = []
    · subst hempty
      cases h
      exact Or.inl ⟨Or.inl rfl, rfl⟩
    rw [if_neg (by simpa using hempty)] at h
    cases searchable with
    | false => cases h
    | true =>
      rw [if_neg (by simp)] at h
      by_cases hdot : name = ['.']
      · subst hdot
        cases h
        exact Or.inl ⟨Or.inr rfl, rfl⟩
      rw [if_neg (by simpa using hdot)] at h
      by_cases hparent : name = parentName
      · subst hparent
        cases h
        exact Or.inr (Or.inl ⟨rfl, rfl⟩)
      rw [if_neg (by simpa using hparent)] at h
      refine Or.inr (Or.inr ⟨hempty, hdot, hparent, ?_⟩)
      split at h
      · cases h
      · split at h
        · rename_i target hlink
          cases h
          exact Or.inl ⟨target, hlink, rfl⟩
        · cases h
          exact Or.inr rfl
        · cases h

/-! ## Walks -/

@[simp] theorem walk_nil (disk : Disk) (links : Nat) (place : List Text) :
    walk disk links place [] = .ok ⟨place, links⟩ := by
  cases links <;> rfl

/-- A name on a walk is looked up. If it is the one of a link, the walk goes on along the target of the
link, as long as another link may be followed. -/
theorem walk_cons (disk : Disk) (links : Nat) (place : List Text) (name : Text)
    (rest : List Text) :
    walk disk links place (name :: rest) =
      match look disk place name with
      | .error error => .error error
      | .ok (.arrive next) => walk disk links next rest
      | .ok (.follow next names) =>
        match links with
        | 0 => .error .linkLoop
        | links + 1 => walk disk links next (names ++ rest) := by
  cases links with
  | zero =>
    conv_lhs => unfold walk walkWith
    cases look disk place name with
    | error error => rfl
    | ok move => cases move <;> rfl
  | succ links =>
    conv_lhs => unfold walk walkWith
    cases look disk place name with
    | error error => rfl
    | ok move => cases move <;> rfl

/-- A walk along names and then along others is two walks. -/
theorem walk_append (disk : Disk) (links : Nat) (place : List Text) (pre rest : List Text) :
    walk disk links place (pre ++ rest) =
      (walk disk links place pre).bind fun spot => walk disk spot.links spot.place rest := by
  -- the names of a link are put in front, so the first names may grow, but then a link is used up
  induction links generalizing place pre with
  | zero =>
    induction pre generalizing place with
    | nil => simp [Except.bind]
    | cons name pre ih =>
      rw [List.cons_append, walk_cons, walk_cons]
      cases look disk place name with
      | error error => rfl
      | ok move =>
        cases move with
        | arrive next => exact ih next
        | follow next names => rfl
  | succ links ihlinks =>
    induction pre generalizing place with
    | nil => simp [Except.bind]
    | cons name pre ih =>
      rw [List.cons_append, walk_cons, walk_cons]
      cases look disk place name with
      | error error => rfl
      | ok move =>
        cases move with
        | arrive next => exact ih next
        | follow next names =>
          dsimp only
          rw [← List.append_assoc, ihlinks]

/-! ## Walks that stay in a directory -/

/-- A walk comes to no place outside of a directory. -/
inductive StaysBelow (disk : Disk) (directory : List Text) : Nat → List Text → List Text → Prop
  | done {links : Nat} {place : List Text} : directory <+: place →
      StaysBelow disk directory links place []
  | fails {links : Nat} {place : List Text} {name : Text} {rest : List Text} {error : SystemError} :
      directory <+: place → look disk place name = .error error →
      StaysBelow disk directory links place (name :: rest)
  | arrives {links : Nat} {place next : List Text} {name : Text} {rest : List Text} :
      directory <+: place → look disk place name = .ok (.arrive next) →
      StaysBelow disk directory links next rest →
      StaysBelow disk directory links place (name :: rest)
  | follows {links : Nat} {place next names : List Text} {name : Text} {rest : List Text} :
      directory <+: place → look disk place name = .ok (.follow next names) →
      StaysBelow disk directory links next (names ++ rest) →
      StaysBelow disk directory (links + 1) place (name :: rest)
  | loops {place next names : List Text} {name : Text} {rest : List Text} :
      directory <+: place → look disk place name = .ok (.follow next names) →
      StaysBelow disk directory 0 place (name :: rest)

/-- Where a walk comes to that stays in a directory is there. -/
theorem StaysBelow.prefix_of_walk {disk : Disk} {directory place names : List Text} {links : Nat}
    (h : StaysBelow disk directory links place names) {spot : Spot}
    (hwalk : walk disk links place names = .ok spot) : directory <+: spot.place := by
  induction h with
  | done hplace =>
    rw [walk_nil] at hwalk
    cases hwalk
    exact hplace
  | fails _ hlook =>
    rw [walk_cons, hlook] at hwalk
    cases hwalk
  | arrives _ hlook _ ih =>
    rw [walk_cons, hlook] at hwalk
    exact ih hwalk
  | follows _ hlook _ ih =>
    rw [walk_cons, hlook] at hwalk
    exact ih hwalk
  | loops _ hlook =>
    rw [walk_cons, hlook] at hwalk
    cases hwalk

/-- Two disks have the same entries in a directory and below. -/
def SameBelow (directory : List Text) (disk disk' : Disk) : Prop :=
  ∀ rest, disk.entry (directory ++ rest) = disk'.entry (directory ++ rest)

theorem SameBelow.entry_eq {directory : List Text} {disk disk' : Disk}
    (h : SameBelow directory disk disk') {place : List Text} (hplace : directory <+: place) :
    disk.entry place = disk'.entry place := by
  obtain ⟨rest, rfl⟩ := hplace
  exact h rest

/-- A name is looked up at a place by what is there and right below. -/
theorem SameBelow.look_eq {directory : List Text} {disk disk' : Disk}
    (h : SameBelow directory disk disk') {place : List Text} (hplace : directory <+: place)
    (name : Text) : look disk place name = look disk' place name := by
  have hbelow : directory <+: place ++ [name] := hplace.trans (List.prefix_append place [name])
  unfold look
  rw [h.entry_eq hplace, h.entry_eq hbelow]

/-- A walk that stays in a directory goes the same way on a disk that is the same there. -/
theorem StaysBelow.walk_congr {disk disk' : Disk} {directory place names : List Text} {links : Nat}
    (h : StaysBelow disk directory links place names) (hsame : SameBelow directory disk disk') :
    walk disk links place names = walk disk' links place names := by
  induction h with
  | done _ => rw [walk_nil, walk_nil]
  | fails hplace hlook => rw [walk_cons, walk_cons, ← hsame.look_eq hplace, hlook]
  | arrives hplace hlook _ ih =>
    rw [walk_cons, walk_cons, ← hsame.look_eq hplace, hlook]
    exact ih
  | follows hplace hlook _ ih =>
    rw [walk_cons, walk_cons, ← hsame.look_eq hplace, hlook]
    exact ih
  | loops hplace hlook => rw [walk_cons, walk_cons, ← hsame.look_eq hplace, hlook]

/-! ## Files below a directory -/

open FileSystem

/-- Two disks agree at a path and below it: the path leads to the same place on both, or to nothing on
both, or is refused on both; and where it leads to they have the same entries. -/
structure AgreeBelow (path : FilePath) (disk disk' : Disk) : Prop where
  reach : settle (reach disk path) = settle (Disk.reach disk' path)
  same : ∀ spot, Disk.reach disk path = .ok spot → SameBelow spot.place disk disk'

/-- A path that leads on from a directory is walked from there. -/
theorem reach_append (disk : Disk) (directory : FilePath) (names : List Text) :
    reach disk ⟨directory.root, directory.names ++ names⟩ =
      (reach disk directory).bind fun spot => walk disk spot.links spot.place names :=
  walk_append disk linkLimit _ directory.names names

/-- Where a walk ends that goes on from a directory tells what is at the path. -/
theorem stat_append (disk : Disk) (directory : FilePath) (names : List Text) :
    (reach disk ⟨directory.root, directory.names ++ names⟩).map
        (fun spot => disk.entry spot.place == some .file) =
      (reach disk directory).bind fun spot =>
        (walk disk spot.links spot.place names).map fun spot =>
          disk.entry spot.place == some .file := by
  rw [reach_append]
  cases reach disk directory <;> rfl

/-- On two disks that agree at a directory and below there are the same files to be found, as long as
the walk from the directory on stays in it. -/
theorem isFile_append_congr {disk disk' : Disk} {directory : FilePath} {names : List Text}
    (h : AgreeBelow directory disk disk')
    (hstays : ∀ spot, reach disk directory = .ok spot →
      StaysBelow disk spot.place spot.links spot.place names) :
    disk.files.isFile ⟨directory.root, directory.names ++ names⟩ =
      disk'.files.isFile ⟨directory.root, directory.names ++ names⟩ := by
  apply isFile_congr
  dsimp only [files]
  split
  · rfl
  · rw [stat_append, stat_append]
    refine settle_bind_congr h.reach _ _ fun spot hspot => ?_
    have hwalk := (hstays spot hspot).walk_congr (h.same spot hspot)
    rw [← hwalk]
    cases hend : walk disk spot.links spot.place names with
    | error error => rfl
    | ok last =>
      -- the walk ends in the directory, where both disks have the same entries
      have hlast := (hstays spot hspot).prefix_of_walk hend
      dsimp only [Except.map]
      rw [(h.same spot hspot).entry_eq hlast]

/-! ## Directories without links -/

/-- Whether names that are followed from a directory never lead above it, if none of them is a link. The
first argument tells how far below it they are read. -/
def neverRises : Nat → List Text → Bool
  | _, [] => true
  | depth, name :: rest =>
    if name == parentName then
      match depth with
      | 0 => false
      | depth + 1 => neverRises depth rest
    else if name.isEmpty || name == ['.'] then neverRises depth rest
    else neverRises (depth + 1) rest

/-- In a directory without links a walk stays there whose names never lead above the directory. -/
theorem staysBelow_of_neverRises {disk : Disk} {directory : List Text}
    (hlinks : ∀ rest target, disk.entry (directory ++ rest) ≠ some (.link target)) (links : Nat)
    {names past : List Text} (h : neverRises past.length names = true) :
    StaysBelow disk directory links (directory ++ past) names := by
  induction names generalizing past with
  | nil => exact .done (List.prefix_append _ _)
  | cons name rest ih =>
    have hplace : directory <+: directory ++ past := List.prefix_append _ _
    cases hlook : look disk (directory ++ past) name with
    | error error => exact .fails hplace hlook
    | ok move =>
      rcases look_ok hlook with ⟨hstay, rfl⟩ | ⟨rfl, rfl⟩ | ⟨hname, hdot, hparent, hdown⟩
      · -- the walk stays where it is
        have hrest : neverRises past.length rest = true := by
          rcases hstay with rfl | rfl <;> exact h
        exact .arrives hplace hlook (ih hrest)
      · -- a step up undoes the last step down, and there is one to undo
        rcases List.eq_nil_or_concat past with rfl | ⟨past, last, rfl⟩
        · cases h
        · rw [List.concat_eq_append] at h hplace hlook ⊢
          have hup : (directory ++ (past ++ [last])).dropLast = directory ++ past := by
            rw [← List.append_assoc, List.dropLast_concat]
          have hrest : neverRises past.length rest = true := by
            rw [List.length_append] at h
            exact h
          rw [hup] at hlook
          exact .arrives hplace hlook (ih hrest)
      · rw [List.append_assoc] at hdown
        rcases hdown with ⟨target, hlink, -⟩ | rfl
        · exact absurd hlink (hlinks _ target)
        · have hrest : neverRises (past ++ [name]).length rest = true := by
            unfold neverRises at h
            simpa [hname, hdot, hparent] using h
          exact .arrives hplace hlook (ih hrest)

-- A link leads out of the directory without a step up, and a step up behind it leads to the directory
-- above its target: the name never rises, and still tells of a file elsewhere.
example :
    let linked (paths : List Text) : Disk :=
      { entry := fun place =>
          if place == ["doc".toList, "sub".toList] then some (.link "../other/deep".toList)
          else (ofPaths ("doc/".toList :: paths)).entry place }
    let deep := "other/deep/".toList
    let path := FilePath.ofText "doc/sub/../secret.png".toList
    neverRises 0 (FilePath.namesOf "sub/../secret.png".toList) = true ∧
      (linked [deep, "other/secret.png".toList]).files.isFile path = .ok true ∧
      (linked [deep]).files.isFile path = .ok false := by
  decide +kernel

/-! ## Disks given by their paths -/

/-- A path that leads to no place in a directory and through none makes no difference there. -/
theorem sameBelow_ofPaths_cons {directory : List Text} {path : Text}
    (h : ¬ directory <+: FilePath.namesOf path) (paths : List Text) :
    SameBelow directory (ofPaths (path :: paths)) (ofPaths paths) := by
  intro rest
  have hne : FilePath.namesOf path ≠ directory ++ rest := by
    intro heq
    exact h (heq ▸ List.prefix_append directory rest)
  have hprefix : ¬ directory ++ rest <+: FilePath.namesOf path :=
    fun hbelow => h ((List.prefix_append directory rest).trans hbelow)
  simp [ofPaths, hne, hprefix]

theorem ofPaths_ne_link (paths : List Text) (place : List Text) (target : Text) :
    (ofPaths paths).entry place ≠ some (.link target) := by
  unfold ofPaths
  dsimp only
  split
  · simp
  · split <;> simp

end Disk
end WikiMarkup
