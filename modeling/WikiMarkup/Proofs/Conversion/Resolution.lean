import WikiMarkup.Proofs.Conversion.Link
import WikiMarkup.Proofs.Page.Disk
import WikiMarkup.Settings

/-!
# Resolving on a page

What resolving a token does to a conversion, what it can find out about the files, and when it
breaks off. It leaves everything as it was but for one entry of the errors, when the token is one
for an attachment that is not there. All this holds for any files and whatever the operating system
says of them.

What resolving can find out about a disk is a matter of the walk to the attachment. As long as it stays
in the directory of the page's book, it sees nothing else; but a name with a step up in it, or a link in
the directory, can lead elsewhere.
-/

namespace WikiMarkup
namespace Conversion

open Text

/-- A resolution that breaks off leaves the conversion as it is. -/
theorem resolve_error {setup : Setup} {token : Text} {fault : Fault}
    (h : Link.resolve setup.files setup.site setup.page token = .error fault) (s : State) :
    resolve setup token s = (.error fault, s) := by
  unfold resolve
  rw [h]
  rfl

/-- What is done with a destination is done in the state in which its problem is recorded. -/
theorem resolve_andThen_of_ok {α : Type} {setup : Setup} {token : Text} {r : Link.Resolution}
    (h : Link.resolve setup.files setup.site setup.page token = .ok r)
    (next : Destination → Action α) (s : State) :
    (resolve setup token).andThen next s =
      next r.destination { s with session := r.record s.session } := by
  have hresult := resolve_eq h s
  rw [Action.andThen_ok (congrArg Prod.fst hresult), hresult]

theorem resolve_andThen_of_error {α : Type} {setup : Setup} {token : Text} {fault : Fault}
    (h : Link.resolve setup.files setup.site setup.page token = .error fault)
    (next : Destination → Action α) (s : State) :
    (resolve setup token).andThen next s = (.error fault, s) := by
  have hresult := resolve_error h s
  rw [Action.andThen_error (congrArg Prod.fst hresult), hresult]

theorem resolve_fst (setup : Setup) (token : Text) (s : State) :
    (resolve setup token s).1 =
      (Link.resolve setup.files setup.site setup.page token).map (·.destination) := by
  cases h : Link.resolve setup.files setup.site setup.page token with
  | error fault =>
    rw [resolve_error h]
    rfl
  | ok r =>
    rw [resolve_eq h]
    rfl

/-- A token for an attachment leads to its URL, and adds an entry to the errors if it is not
there. -/
theorem resolve_attachment (setup : Setup) {token : Text} {target : Token.Target} {found : Bool}
    (hreads : Token.Reads token setup.page target) (hbook : target.book = "attachment".toList)
    (hfile : setup.files.isFile (attachmentPath setup.site setup.page.book target.name) =
      .ok found) (s : State) :
    resolve setup token s =
      (.ok (.url (setup.site.mediaUrl ++ '/' :: setup.page.book ++ '/' :: target.name)),
        { s with session := { s.session with
            errors := s.session.errors ++
              if found then [] else [Link.missingFile target.name] } }) := by
  have hresolve := Link.resolve_of_reads hreads setup.files setup.site
  rw [Link.resolveTarget_attachment hbook, hfile] at hresolve
  rw [resolve_eq hresolve]
  cases found with
  | true => rfl
  | false => rfl

/-! ## The session -/

/-- Resolving a token changes nothing but the errors, and those by at most one entry at their end. If
the token leads somewhere, there is an entry exactly if the token is one for an attachment at whose path
there is no file, with the name of the attachment, and where it leads does not depend on the files that
there are. If resolving breaks off, nothing is changed. -/
theorem resolve_effect (setup : Setup) (token : Text) (s : State) :
    ∃ entries : List Text,
      (resolve setup token s).2 =
          { s with session := { s.session with errors := s.session.errors ++ entries } } ∧
        entries.length ≤ 1 ∧
        (∀ destination, (resolve setup token s).1 = .ok destination →
          (∀ entry, entry ∈ entries ↔
            ∃ name, Link.IsMissing setup.files setup.site setup.page token name ∧
              entry = Link.missingFile name) ∧
          ∀ files destination',
            (resolve { setup with files } token s).1 = .ok destination' →
              destination' = destination) ∧
        ∀ fault, (resolve setup token s).1 = .error fault → (resolve setup token s).2 = s := by
  cases h : Link.resolve setup.files setup.site setup.page token with
  | error fault =>
    rw [resolve_error h]
    refine ⟨[], by simp, Nat.zero_le 1, ?_, fun _ _ => rfl⟩
    intro destination hok
    cases hok
  | ok r =>
    rw [resolve_eq h]
    -- the one thing that is recorded is the problem of the resolution, if it has one
    refine ⟨r.problem.toList, rfl, ?_, ?_, ?_⟩
    · cases r.problem <;> simp
    · intro destination hok
      cases hok
      constructor
      · intro entry
        rw [Option.mem_toList]
        exact Link.problem_eq_some_iff h
      · intro files destination' hok'
        rw [resolve_fst, Link.map_eq_ok_iff] at hok'
        obtain ⟨r', hr', rfl⟩ := hok'
        exact Link.destination_eq hr' h
    · intro fault herror
      cases herror

/-- An attachment in the book that the page is of, whose token leaves the book out. -/
theorem resolve_effect_missing :
    let setup : Setup := .bare ⟨"attachment".toList, "en".toList, "a/b".toList⟩
    (resolve setup "x.png".toList {}).1 = .ok (.url "/attachment/a/x.png".toList) ∧
      (resolve setup "x.png".toList {}).2.session.errors = ["Missing file a/x.png".toList] := by
  intro setup
  have hreads : Token.Reads "x.png".toList setup.page
      ⟨"attachment".toList, "en".toList, "a/x.png".toList, "x.png".toList, []⟩ :=
    ⟨rfl, by decide, rfl⟩
  have hfile : setup.files.isFile
      (attachmentPath setup.site setup.page.book "a/x.png".toList) = .ok false := rfl
  have hok : (resolve setup "x.png".toList {}).1 = .ok (.url "/attachment/a/x.png".toList) := by
    rw [resolve_attachment setup hreads rfl hfile]
    rfl
  have hmissing : Link.IsMissing setup.files setup.site setup.page "x.png".toList "a/x.png".toList := by
    refine ⟨_, hreads, rfl, rfl, ?_⟩
    rw [← FileSystem.isFile_ok hfile]
    exact Bool.false_ne_true
  obtain ⟨entries, hstate, hlength, hresult, -⟩ := resolve_effect setup "x.png".toList {}
  have hentry : "Missing file a/x.png".toList ∈ entries :=
    ((hresult _ hok).1 _).mpr ⟨_, hmissing, rfl⟩
  obtain ⟨entry, rfl⟩ := List.length_eq_one_iff.mp
    (Nat.le_antisymm hlength (List.length_pos_of_mem hentry))
  rw [hstate, List.mem_singleton.mp hentry]
  exact ⟨hok, rfl⟩

/-! ## Files -/

/-- The path of an attachment goes on from the directory of the book: the name of an attachment has no
slash at its beginning. -/
theorem attachmentPath_eq {token : Text} {page : Page} {target : Token.Target}
    (h : Token.Reads token page target) (site : Site) :
    attachmentPath site page.book target.name =
      ⟨(bookDirectory site page.book).root,
        (bookDirectory site page.book).names ++ FilePath.namesOf target.name⟩ := by
  obtain ⟨parts, -, rfl⟩ := Option.map_eq_some_iff.mp h.2.2
  apply FilePath.join_ofText
  intro hslash
  have hplain := (Token.isPageName_pageName parts page).head '/' hslash
  cases hplain

/-- Of a disk, resolving finds out about the directory of the page's book only, if the walk to an
attachment does not leave it: two disks that agree on this directory and on what is below it give the
same result, the same errors and the same fault. -/
theorem resolve_media_congr {setup : Setup} {disk disk' : Disk} {token : Text}
    (h : Disk.AgreeBelow (bookDirectory setup.site setup.page.book) disk disk')
    (hstays : ∀ target spot, Token.Reads token setup.page target →
      target.book = "attachment".toList →
        disk.reach (bookDirectory setup.site setup.page.book) = .ok spot →
          disk.StaysBelow spot.place spot.links spot.place (FilePath.namesOf target.name))
    (s : State) :
    resolve { setup with files := disk'.files } token s =
      resolve { setup with files := disk.files } token s := by
  -- resolving asks about the path of an attachment only, and that goes on from the book's directory
  have hsame : Link.resolve disk.files setup.site setup.page token =
      Link.resolve disk'.files setup.site setup.page token := by
    refine Link.resolve_congr fun target hreads hbook => ?_
    rw [attachmentPath_eq hreads]
    exact Disk.isFile_append_congr h fun spot hspot => hstays target spot hreads hbook hspot
  unfold resolve
  dsimp only
  rw [hsame]

/-- The paths of a book with an attachment and a directory, below the usual directory. -/
def docPaths : List Text :=
  ["data/media/doc/a.png".toList, "data/media/doc/images/".toList]

/-- A disk with this book and an attachment of another one. -/
def docAndOther : Disk := .ofPaths ("data/media/other/b.png".toList :: docPaths)

/-- The directory of the book is the same with the other book and without. -/
theorem agreeBelow_docAndOther :
    Disk.AgreeBelow (bookDirectory (Settings.site {}) "doc".toList) docAndOther
      (.ofPaths docPaths) := by
  have hreach : docAndOther.reach (bookDirectory (Settings.site {}) "doc".toList) =
      .ok ⟨["data".toList, "media".toList, "doc".toList], 40⟩ := by decide +kernel
  have hreach' : (Disk.ofPaths docPaths).reach (bookDirectory (Settings.site {}) "doc".toList) =
      .ok ⟨["data".toList, "media".toList, "doc".toList], 40⟩ := by decide +kernel
  constructor
  · rw [hreach, hreach']
  · intro spot hspot
    rw [hreach] at hspot
    cases hspot
    exact Disk.sameBelow_ofPaths_cons (by decide +kernel) docPaths

/-- The conversion of a page of the book, with some files. -/
def docSetup (files : FileSystem) : Setup :=
  { Setup.bare ⟨"doc".toList, "en".toList, "guide/setup".toList⟩ with
    site := Settings.site {}, files }

/-- A name that goes down and up again inside the directory of the book. -/
theorem resolve_media_congr_inside :
    let token : Text := "attachment:images/../a.png".toList
    Disk.AgreeBelow (bookDirectory (Settings.site {}) "doc".toList) docAndOther
        (.ofPaths docPaths) ∧
      resolve (docSetup (Disk.ofPaths docPaths).files) token {} =
        resolve (docSetup docAndOther.files) token {} := by
  intro token
  have hread : Token.Reads token (docSetup docAndOther.files).page
      ⟨"attachment".toList, "en".toList, "images/../a.png".toList,
        "images/../a.png".toList, []⟩ := ⟨rfl, by decide, rfl⟩
  refine ⟨agreeBelow_docAndOther, ?_⟩
  refine @resolve_media_congr (docSetup docAndOther.files) docAndOther (.ofPaths docPaths) token
    agreeBelow_docAndOther ?_ {}
  intro target spot hreads _ _
  rw [hreads.unique hread]
  -- the disk has no links, so that the names alone tell that the walk stays
  have hlinks : ∀ rest target, docAndOther.entry (spot.place ++ rest) ≠ some (.link target) :=
    fun rest target => Disk.ofPaths_ne_link _ _ target
  have hstays := Disk.staysBelow_of_neverRises hlinks spot.links
    (show Disk.neverRises ([] : List Text).length
      (FilePath.namesOf "images/../a.png".toList) = true by decide)
  rwa [List.append_nil] at hstays

/-- A name that leads up and into another book finds out about a file there. -/
theorem resolve_media_leak :
    let token : Text := "attachment:../other/b.png".toList
    Disk.AgreeBelow (bookDirectory (Settings.site {}) "doc".toList) docAndOther
        (.ofPaths docPaths) ∧
      (resolve (docSetup docAndOther.files) token {}).2.session.errors = [] ∧
      (resolve (docSetup (Disk.ofPaths docPaths).files) token {}).2.session.errors =
        ["Missing file ../other/b.png".toList] := by
  intro token
  refine ⟨agreeBelow_docAndOther, ?_, ?_⟩
  · decide +kernel
  · decide +kernel

/-! ## Faults -/

/-- A token leads somewhere, whatever files there are, unless it is one for a user with a number of
more digits than are converted, or one for an attachment whose path the operating system does not tell
about, for a reason other than that there is nothing at it. Then resolving breaks off with this fault. -/
theorem resolve_returns_iff (setup : Setup) (token : Text) (s : State) :
    ((∃ destination, (resolve setup token s).1 = .ok destination) ↔
        ∀ fault, ¬ Link.Fails setup.files setup.site setup.page token fault) ∧
      ∀ fault, (resolve setup token s).1 = .error fault ↔
        Link.Fails setup.files setup.site setup.page token fault := by
  have hfault : ∀ fault, (resolve setup token s).1 = .error fault ↔
      Link.Fails setup.files setup.site setup.page token fault := by
    intro fault
    rw [resolve_fst, Link.map_eq_error_iff]
    exact Link.resolve_error_iff
  refine ⟨?_, hfault⟩
  constructor
  · rintro ⟨destination, hok⟩ fault hfails
    rw [(hfault fault).mpr hfails] at hok
    cases hok
  · intro hnone
    cases hresult : (resolve setup token s).1 with
    | ok destination => exact ⟨destination, rfl⟩
    | error fault => exact absurd ((hfault fault).mp hresult) (hnone fault)

/-- A number of 4301 digits, and a name of 256 characters in a book that has files. -/
theorem resolve_breaks_off :
    let setup : Setup := docSetup (Disk.ofPaths docPaths).files
    (∀ destination, (resolve setup ("user:".toList ++ List.replicate 4301 '1') {}).1 ≠
        .ok destination) ∧
      ∀ destination, (resolve setup ("attachment:".toList ++ List.replicate 256 'a') {}).1 ≠
        .ok destination := by
  intro setup
  have huser : (resolve setup ("user:".toList ++ List.replicate 4301 '1') {}).1 =
      .error (.numberTooLong 4301) := by decide +kernel
  have hattachment : (resolve setup ("attachment:".toList ++ List.replicate 256 'a') {}).1 =
      .error (.system .nameTooLong) := by decide +kernel
  constructor
  · intro destination hok
    rw [huser] at hok
    cases hok
  · intro destination hok
    rw [hattachment] at hok
    cases hok

end Conversion
end WikiMarkup
