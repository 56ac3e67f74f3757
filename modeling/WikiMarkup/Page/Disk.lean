import WikiMarkup.Page.Files
import WikiMarkup.Text.Utf8

/-!
# Disks

A file system in full: the directories and files of a disk, with symbolic links, and with directories
that may not be searched. A path is walked name by name. A name is looked up in the directory that the
walk has come to, a link is replaced by the names of its target, and a step up leads to the directory
above, wherever the walk has come from.

Changes of the disk during a walk are left out.
-/

namespace WikiMarkup

/-- What can be at a place of a disk. -/
inductive Entry where
  | file
  | directory (searchable : Bool)
  | link (target : Text)
  /-- A device, a pipe or a socket. -/
  | special
deriving DecidableEq, Repr

/-- A disk: what is at each place, given by the names on the way from the root, none of them a link;
and the place that paths without a slash at their beginning start from. -/
structure Disk where
  entry : List Text → Option Entry
  start : List Text := []

namespace Disk

/-- The most bytes that a name may have. -/
def nameLimit : Nat := 255

/-- The most bytes that a path may have. -/
def pathLimit : Nat := 4095

/-- The most links that are followed on a walk. -/
def linkLimit : Nat := 40

/-- The name that leads to the directory above. -/
def parentName : Text := ['.', '.']

/-- Where a name leads. -/
inductive Move where
  /-- To a place that is no link. -/
  | arrive (place : List Text)
  /-- To a link, so on from a place along the names of its target. -/
  | follow (place : List Text) (names : List Text)
deriving DecidableEq, Repr

/-- Looks a name up at a place. Nothing is looked up for an empty name, which asks for a directory and
no more. -/
def look (disk : Disk) (place : List Text) (name : Text) : Except SystemError Move :=
  match disk.entry place with
  | some (.directory searchable) =>
    if name.isEmpty then .ok (.arrive place)
    else if !searchable then .error .accessDenied
    else if name == ['.'] then .ok (.arrive place)
    else if name == parentName then .ok (.arrive place.dropLast)
    else if nameLimit < Utf8.byteLength name then .error .nameTooLong
    else
      match disk.entry (place ++ [name]) with
      | some (.link target) =>
        .ok (.follow (if target.head? == some '/' then [] else place) (target.splitOn '/'))
      | some _ => .ok (.arrive (place ++ [name]))
      | none => .error .noEntry
  | _ => .error .notDirectory

/-- Where a walk has come to, and how many links it may still follow. -/
structure Spot where
  place : List Text
  links : Nat
deriving DecidableEq, Repr

/-- Walks names up to the next link, and does with the rest as told. -/
def walkWith (disk : Disk) (links : Nat)
    (follow : List Text → List Text → Except SystemError Spot) :
    List Text → List Text → Except SystemError Spot
  | place, [] => .ok ⟨place, links⟩
  | place, name :: rest => do
    match ← look disk place name with
    | .arrive next => walkWith disk links follow next rest
    | .follow next names => follow next (names ++ rest)

/-- Walks names from a place, with a number of links that may be followed. -/
def walk (disk : Disk) : Nat → List Text → List Text → Except SystemError Spot
  | 0 => walkWith disk 0 fun _ _ => .error .linkLoop
  | links + 1 => walkWith disk (links + 1) (walk disk links)

/-- Where a path leads. -/
def reach (disk : Disk) (path : FilePath) : Except SystemError Spot :=
  walk disk linkLimit (if path.root.isEmpty then disk.start else []) path.names

/-- The file system of a disk. -/
def files (disk : Disk) : FileSystem where
  stat path :=
    if pathLimit < Utf8.byteLength path.toText then .error .nameTooLong
    else (reach disk path).map fun spot => disk.entry spot.place == some .file

/-- The disk that holds some paths: one that ends in a slash is a directory, any other is a file, and
the directories above them exist too. -/
def ofPaths (paths : List Text) : Disk where
  entry place :=
    let isDirectory (path : Text) := path.getLast? == some '/'
    if paths.any fun path => !isDirectory path && FilePath.namesOf path == place then some .file
    else if place.isEmpty || paths.any fun path =>
        place.isPrefixOf (FilePath.namesOf path) &&
          (isDirectory path || place != FilePath.namesOf path) then
      some (.directory true)
    else none

end Disk
end WikiMarkup
