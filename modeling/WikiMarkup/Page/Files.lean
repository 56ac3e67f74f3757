import WikiMarkup.Fault
import WikiMarkup.Page.Basic

/-!
# Files

Paths, and what the operating system tells of the files at them. Which files there are and how they
are looked up is up to the system: a lookup takes its answer, and only decides which errors mean that
there is no file.
-/

namespace WikiMarkup

/-! ## Paths -/

/-- A path: the slashes that it begins with, and the names on it. -/
structure FilePath where
  root : Text
  names : List Text
deriving DecidableEq, Repr

namespace FilePath

/-- The slashes at the beginning of a path, as they are kept: two are, and any other number is one. -/
def rootOf (path : Text) : Text :=
  match Text.runLength '/' path with
  | 0 => []
  | 2 => ['/', '/']
  | _ => ['/']

/-- The names on a path: doubled slashes and single dots say nothing. -/
def namesOf (path : Text) : List Text :=
  (path.splitOn '/').filter fun name => !(name.isEmpty || name == ['.'])

/-- Reads a path. -/
def ofText (path : Text) : FilePath := ⟨rootOf path, namesOf path⟩

/-- A path seen from a directory. One that begins with a slash is the same from everywhere. -/
def join (directory path : FilePath) : FilePath :=
  if path.root.isEmpty then ⟨directory.root, directory.names ++ path.names⟩ else path

/-- Writes a path. The empty path is a single dot. -/
def toText (path : FilePath) : Text :=
  match path.root ++ Text.join ['/'] path.names with
  | [] => ['.']
  | t => t

end FilePath

/-- The path of the directory in which the attachments of a book are stored. -/
def bookDirectory (site : Site) (book : Text) : FilePath :=
  (FilePath.ofText site.mediaDirectory).join (FilePath.ofText book)

/-- The path of an attachment. -/
def attachmentPath (site : Site) (book name : Text) : FilePath :=
  (bookDirectory site book).join (FilePath.ofText name)

/-! ## Lookups -/

/-- A file system: for every path, whether there is a regular file, or why this is not told. -/
structure FileSystem where
  stat : FilePath → Except SystemError Bool

namespace FileSystem

/-- The file system of a machine without files. -/
def empty : FileSystem := ⟨fun _ => .error .noEntry⟩

/-- What is made of an answer of the system: an error that says that there is nothing is an answer
too, any other is a fault. -/
def settle {α : Type} : Except SystemError α → Except Fault (Option α)
  | .ok a => .ok (some a)
  | .error error => if error.saysAbsent then .ok none else .error (.system error)

/-- Whether there is a regular file at a path. The system is not asked about a path with a null
character, at which no file can be. -/
def isFile (files : FileSystem) (path : FilePath) : Except Fault Bool :=
  if path.toText.contains '\x00' then .ok false
  else (settle (files.stat path)).map (·.getD false)

end FileSystem
end WikiMarkup
