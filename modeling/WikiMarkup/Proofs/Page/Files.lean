import Mathlib
import WikiMarkup.Page.Files

/-!
# What a lookup tells

A lookup passes on what the operating system says of a path. It tells whether there is a regular file,
or it breaks off, and that exactly if the system has a reason for not answering other than that there
is nothing at the path.
-/

namespace WikiMarkup

namespace FilePath

theorem rootOf_eq_nil_iff {path : Text} : rootOf path = [] ↔ path.head? ≠ some '/' := by
  cases path with
  | nil => simp [rootOf, Text.runLength]
  | cons c rest =>
    by_cases hc : c = '/'
    · subst hc
      have hlength : Text.runLength '/' ('/' :: rest) ≠ 0 := by simp [Text.runLength]
      unfold rootOf
      split
      · contradiction
      · simp
      · simp
    · simp [rootOf, Text.runLength, hc]

/-- A path without a slash at its beginning goes on from the directory that it is seen from. -/
theorem join_ofText {path : Text} (h : path.head? ≠ some '/') (directory : FilePath) :
    directory.join (ofText path) = ⟨directory.root, directory.names ++ namesOf path⟩ := by
  have hroot : (ofText path).root = [] := rootOf_eq_nil_iff.mpr h
  rw [join, hroot, List.isEmpty_nil, if_pos rfl]
  rfl

end FilePath

namespace FileSystem

/-! ## Answers of the system -/

section Answers

variable {α β : Type}

theorem settle_eq_some_iff {answer : Except SystemError α} {a : α} :
    settle answer = .ok (some a) ↔ answer = .ok a := by
  cases answer with
  | ok b => simp [settle]
  | error error => cases h : error.saysAbsent <;> simp [settle, h]

theorem settle_eq_error_iff {answer : Except SystemError α} {fault : Fault} :
    settle answer = .error fault ↔
      ∃ error, answer = .error error ∧ error.saysAbsent = false ∧ fault = .system error := by
  constructor
  · intro h
    cases answer with
    | ok a => cases h
    | error error =>
      cases habsent : error.saysAbsent with
      | true =>
        rw [settle, if_pos habsent] at h
        cases h
      | false =>
        rw [settle, if_neg (by simp [habsent])] at h
        exact ⟨error, rfl, habsent, (Except.error.inj h).symm⟩
  · rintro ⟨error, rfl, habsent, rfl⟩
    exact if_neg (by simp [habsent])

/-- Errors that come to the same do so whatever has been asked. -/
theorem settle_error_congr {error error' : SystemError}
    (h : settle (.error error : Except SystemError α) = settle (.error error')) :
    settle (.error error : Except SystemError β) = settle (.error error') := by
  cases habsent : error.saysAbsent <;> cases habsent' : error'.saysAbsent <;>
    simp_all [settle]

/-- Answers that come to the same still do so when they are asked on, if those that say something are
asked on to the same effect. -/
theorem settle_bind_congr {answer answer' : Except SystemError α}
    (h : settle answer = settle answer') (next next' : α → Except SystemError β)
    (hnext : ∀ a, answer = .ok a → next a = next' a) :
    settle (answer.bind next) = settle (answer'.bind next') := by
  cases answer with
  | ok a =>
    have hsame : answer' = .ok a := settle_eq_some_iff.mp h.symm
    rw [hsame]
    exact congrArg settle (hnext a rfl)
  | error error =>
    cases answer' with
    | ok a => cases settle_eq_some_iff.mp h
    | error error' => exact settle_error_congr h

end Answers

/-! ## Files that there are -/

variable {files files' : FileSystem} {path : FilePath}

/-- There is a regular file at a path. -/
def Stores (files : FileSystem) (path : FilePath) : Prop :=
  '\x00' ∉ path.toText ∧ files.stat path = .ok true

/-- The system does not tell about a path, and not for the reason that there is nothing. A path with a
null character is not asked about. -/
def Refuses (files : FileSystem) (path : FilePath) (fault : Fault) : Prop :=
  '\x00' ∉ path.toText ∧
    ∃ error, files.stat path = .error error ∧ error.saysAbsent = false ∧ fault = .system error

theorem isFile_eq (files : FileSystem) (path : FilePath) :
    files.isFile path =
      if '\x00' ∈ path.toText then .ok false
      else (settle (files.stat path)).map (·.getD false) := by
  by_cases hnull : '\x00' ∈ path.toText
  · rw [isFile, if_pos (by simpa using hnull), if_pos hnull]
  · rw [isFile, if_neg (by simpa using hnull), if_neg hnull]

/-- A lookup breaks off exactly if the system refuses to tell about the path. -/
theorem isFile_error_iff {fault : Fault} :
    files.isFile path = .error fault ↔ files.Refuses path fault := by
  rw [isFile_eq, Refuses, ← settle_eq_error_iff]
  -- a path with a null character gets an answer without the system
  by_cases hnull : '\x00' ∈ path.toText
  · simp [hnull]
  · rw [if_neg hnull]
    cases settle (files.stat path) with
    | ok found => simp [Except.map]
    | error fault' => simp [Except.map, hnull]

/-- A lookup that answers tells whether there is the file. -/
theorem isFile_ok {found : Bool} (h : files.isFile path = .ok found) :
    found = true ↔ files.Stores path := by
  rw [isFile_eq] at h
  rw [Stores, ← settle_eq_some_iff]
  by_cases hnull : '\x00' ∈ path.toText
  · rw [if_pos hnull] at h
    cases h
    simp [hnull]
  · rw [if_neg hnull] at h
    cases hsettle : settle (files.stat path) with
    | error fault =>
      rw [hsettle] at h
      cases h
    | ok answer =>
      rw [hsettle] at h
      cases h
      cases answer <;> simp [hnull]

/-- A lookup asks about its path and no other. -/
theorem isFile_congr (h : settle (files.stat path) = settle (files'.stat path)) :
    files.isFile path = files'.isFile path := by
  rw [isFile_eq, isFile_eq, h]

end FileSystem
end WikiMarkup
