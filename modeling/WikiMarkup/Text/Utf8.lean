import WikiMarkup.Text.Basic

/-!
# UTF-8

Bytes of texts, and texts of bytes. Reading never fails: bytes that begin no character, or that break
off one, become the replacement character, one for each beginning that could still have been
completed.
-/

namespace WikiMarkup
namespace Utf8

/-- The bytes of a character. -/
def bytes (c : Char) : List Nat := (String.utf8EncodeChar c).map UInt8.toNat

/-- The number of bytes of a text. -/
def byteLength (t : Text) : Nat := t.foldr (fun c n => (bytes c).length + n) 0

/-- What stands for bytes that are no character. -/
def replacement : Char := '\ufffd'

/-- A character of which the first bytes have been read. -/
structure Partial where
  /-- The bits read so far. -/
  bits : Nat
  /-- How many bytes are still to come. -/
  missing : Nat
  /-- The bounds of the next byte. -/
  low : Nat
  high : Nat
deriving DecidableEq, Repr

/-- What the first byte of a character says: the character itself, or what is to come, or nothing if
it can be no first byte. -/
def start (b : Nat) : Char ⊕ Option Partial :=
  if b < 0x80 then .inl (Char.ofNat b)
  else .inr <|
    if 0xC2 ≤ b && b ≤ 0xDF then some ⟨b - 0xC0, 1, 0x80, 0xBF⟩
    else if b == 0xE0 then some ⟨0, 2, 0xA0, 0xBF⟩
    else if b == 0xED then some ⟨0xD, 2, 0x80, 0x9F⟩
    else if 0xE1 ≤ b && b ≤ 0xEF then some ⟨b - 0xE0, 2, 0x80, 0xBF⟩
    else if b == 0xF0 then some ⟨0, 3, 0x90, 0xBF⟩
    else if 0xF1 ≤ b && b ≤ 0xF3 then some ⟨b - 0xF0, 3, 0x80, 0xBF⟩
    else if b == 0xF4 then some ⟨4, 3, 0x80, 0x8F⟩
    else none

/-- A byte between characters: the text that it completes, and the character that it begins. -/
def begin (b : Nat) : Text × Option Partial :=
  match start b with
  | .inl c => ([c], none)
  | .inr (some p) => ([], some p)
  | .inr none => ([replacement], none)

/-- The next byte: the text that it completes, and the character that is open after it. -/
def step (state : Option Partial) (b : Nat) : Text × Option Partial :=
  match state with
  | none => begin b
  | some p =>
    if p.low ≤ b && b ≤ p.high then
      let bits := p.bits * 64 + (b - 0x80)
      if p.missing ≤ 1 then ([Char.ofNat bits], none)
      else ([], some ⟨bits, p.missing - 1, 0x80, 0xBF⟩)
    else
      let (t, state) := begin b
      (replacement :: t, state)

/-- What an open character leaves when no byte follows. -/
def finish (state : Option Partial) : Text :=
  match state with
  | none => []
  | some _ => [replacement]

end Utf8
end WikiMarkup
