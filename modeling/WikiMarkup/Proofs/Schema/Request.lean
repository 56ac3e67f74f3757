import WikiMarkup.Proofs.Text.Basic
import WikiMarkup.Schema.Records

/-!
# Requests that are accepted

A record is read exactly if each of its fields is, and a text exactly if it is within its bounds. So
a request that is accepted holds the name of a book, the code of a language, and the name of a page that
is not empty and has no slashes around it.
-/

namespace WikiMarkup

open Text

/-! ## Readers that succeed -/

section Readers

variable {α β : Type}

theorem Checked.apply_eq_ok {f : Checked (α → β)} {x : Checked α} {b : β} :
    apply f x = .ok b ↔ ∃ g a, f = .ok g ∧ x = .ok a ∧ g a = b := by
  cases f <;> cases x <;> simp [apply]

theorem Checked.map_eq_ok {f : α → β} {x : Checked α} {b : β} :
    Except.map f x = .ok b ↔ ∃ a, x = .ok a ∧ f a = b := by
  cases x <;> simp [Except.map]

namespace Reader

/-- A field is read if its value is, or if it is not there and has a default. -/
theorem Fields.read_eq_ok {record : Fields} {name : String} {read : Reader α} {default : Option α}
    {a : α} : record.read name read default = .ok a ↔
      (∃ value, record.fields.lookup name.toList = some value ∧
        read (record.place ++ [.field name.toList]) value = .ok a) ∨
      (record.fields.lookup name.toList = none ∧ default = some a) := by
  unfold Fields.read
  dsimp only
  split
  · rename_i value _ hvalue
    simp [hvalue]
  · rename_i default hnone
    simp [hnone]
  · rename_i hnone
    simp [hnone, refuse]

theorem refuse_if_eq_ok {p : Prop} [Decidable p] {complaint : Complaint} {place : List Step}
    {value : Value} {x : Checked α} {a : α} :
    (if p then refuse complaint place value else x) = .ok a ↔ ¬ p ∧ x = .ok a := by
  by_cases h : p <;> simp [h, refuse]

/-- Whether a text is within bounds. -/
structure Bounds.Admits (bounds : Bounds) (t : Text) : Prop where
  most : ∀ most, bounds.most = some most → t.length ≤ most
  least : bounds.least ≤ t.length
  form : ∀ form, bounds.form = some form → form.1 t = true

/-- Bounds on the length from above alone. -/
theorem Bounds.Admits.of_length {most : Nat} {t : Text} (h : t.length ≤ most) :
    Bounds.Admits { most := some most } t where
  most m hm := Option.some.inj hm ▸ h
  least := Nat.zero_le _
  form form hform := by cases hform

/-- A text within bounds is read as it is, and nothing else is read. -/
theorem textWithin_eq_ok {bounds : Bounds} {place : List Step} {value : Value} {t : Text} :
    textWithin bounds place value = .ok t ↔ value = .text t ∧ bounds.Admits t := by
  cases value with
  | text u =>
    have hmost : ¬ bounds.most.any (· < u.length) = true ↔
        ∀ most, bounds.most = some most → u.length ≤ most := by
      cases bounds.most <;> simp
    rw [textWithin, refuse_if_eq_ok, refuse_if_eq_ok, hmost, Nat.not_lt]
    constructor
    · rintro ⟨hmost, hleast, hread⟩
      split at hread
      · rename_i accepts pattern hform
        split at hread
        · rename_i haccepts
          cases hread
          refine ⟨rfl, hmost, hleast, fun form hbound => ?_⟩
          rw [hform] at hbound
          cases hbound
          exact haccepts
        · cases hread
      · rename_i hnone
        cases hread
        refine ⟨rfl, hmost, hleast, fun form hbound => ?_⟩
        rw [hnone] at hbound
        cases hbound
    · rintro ⟨heq, hadmits⟩
      cases heq
      refine ⟨hadmits.most, hadmits.least, ?_⟩
      split
      · rename_i hform
        exact if_pos (hadmits.form _ hform)
      · rfl
  | _ => simp [textWithin, refuse]

/-- A field for a text within bounds that has no default holds such a text. -/
theorem Fields.read_textWithin_eq_ok {record : Fields} {name : String} {bounds : Bounds}
    {t : Text} : record.read name (textWithin bounds) none = .ok t ↔
      record.fields.lookup name.toList = some (.text t) ∧ bounds.Admits t := by
  rw [Fields.read_eq_ok]
  constructor
  · rintro (⟨value, hvalue, hread⟩ | ⟨-, hnone⟩)
    · obtain ⟨rfl, hadmits⟩ := textWithin_eq_ok.mp hread
      exact ⟨hvalue, hadmits⟩
    · cases hnone
  · rintro ⟨hvalue, hadmits⟩
    exact Or.inl ⟨_, hvalue, textWithin_eq_ok.mpr ⟨rfl, hadmits⟩⟩

/-- A field for a text within bounds holds one, if its default is one. -/
theorem Fields.admits_of_read {record : Fields} {name : String} {bounds : Bounds}
    {default : Option Text} {t : Text} (h : record.read name (textWithin bounds) default = .ok t)
    (hdefault : ∀ u, default = some u → bounds.Admits u) : bounds.Admits t := by
  rcases Fields.read_eq_ok.mp h with ⟨value, -, hvalue⟩ | ⟨-, hnone⟩
  · exact (textWithin_eq_ok.mp hvalue).2
  · exact hdefault t hnone

end Reader

end Readers

/-! ## Requests -/

/-- The form of a name within a book: it is not empty and has no slashes around it. -/
structure IsPath (name : Text) : Prop where
  ne_nil : name ≠ []
  head : name.head? ≠ some '/'
  last : name.getLast? ≠ some '/'

theorem isPath_cleanName (name : Text) : IsPath (cleanName name) := by
  rw [cleanName]
  split
  · exact ⟨by decide, by decide, by decide⟩
  · rename_i hne
    refine ⟨hne, fun hhead => ?_, fun hlast => ?_⟩
    · simpa using head?_trimBy hhead
    · simpa using getLast?_trimBy hlast

theorem length_cleanName_le {name : Text} {most : Nat} (hhome : homepage.length ≤ most)
    (h : name.length ≤ most) : (cleanName name).length ≤ most := by
  rw [cleanName]
  split
  · exact hhome
  · exact (infix_trimBy (· == '/') name).length_le.trans h

namespace ConvertRequest

/-- The page that a request is about. -/
def page (request : ConvertRequest) : Page := ⟨request.book, request.lang, request.name⟩

/-- The requests that are accepted. -/
structure IsAccepted (request : ConvertRequest) : Prop where
  content : request.content.length ≤ 10000000
  book : isBookName request.book = true
  bookLength : request.book.length ≤ 64
  lang : isLangCode request.lang = true
  name : IsPath request.name
  nameLength : request.name.length ≤ 512

theorem isAccepted_of_ofFields {record : Reader.Fields} {request : ConvertRequest}
    (h : ofFields record = .ok request) : request.IsAccepted := by
  simp only [ofFields, Checked.apply_eq_ok] at h
  obtain ⟨_, name, ⟨_, lang, ⟨_, book, ⟨_, content, hmk, hcontent, rfl⟩, hbook, rfl⟩, hlang, rfl⟩,
    hname, rfl⟩ := h
  cases hmk
  have hcontent' := Reader.Fields.admits_of_read hcontent fun u hu =>
    Option.some.inj hu ▸ Reader.Bounds.Admits.of_length (Nat.zero_le _)
  have hbook' := Reader.Fields.admits_of_read hbook fun u hu => by cases hu
  have hlang' := Reader.Fields.admits_of_read hlang fun u hu => by cases hu
  obtain ⟨written, hlength, rfl⟩ : ∃ written : Text, written.length ≤ 512 ∧
      cleanName written = name := by
    rcases Reader.Fields.read_eq_ok.mp hname with ⟨value, -, hvalue⟩ | ⟨-, hdefault⟩
    · obtain ⟨written, hwritten, rfl⟩ := Checked.map_eq_ok.mp hvalue
      exact ⟨written, (Reader.textWithin_eq_ok.mp hwritten).2.most 512 rfl, rfl⟩
    · cases hdefault
      exact ⟨homepage, by decide, rfl⟩
  exact {
    content := hcontent'.most _ rfl
    book := hbook'.form _ rfl
    bookLength := hbook'.most _ rfl
    lang := hlang'.form _ rfl
    name := isPath_cleanName written
    nameLength := length_cleanName_le (by decide) hlength }

end ConvertRequest

end WikiMarkup
