import WikiMarkup.Text.Digit
import WikiMarkup.Text.Utf8

/-!
# Percent encoding

In a URL a byte can be written as `%` and two hexadecimal digits. Decoding reads such bytes as UTF-8;
encoding writes every character that is not safe at its place byte by byte.
-/

namespace WikiMarkup
namespace Percent

/-! ## Decoding -/

/-- The byte that a percent sign and the text behind it stand for. -/
def encodedByte? : Text → Option Nat
  | high :: low :: _ => do return 16 * (← Digit.hexValue? high) + (← Digit.hexValue? low)
  | _ => none

/-- Decodes a text of which the first `skip` characters have been read already, with a character of
which some bytes have been read. A character beyond ASCII stands for itself and ends what is
open. -/
def decodeFrom : Option Utf8.Partial → Nat → Text → Text
  | state, _, [] => Utf8.finish state
  | state, skip + 1, _ :: rest => decodeFrom state skip rest
  | state, 0, c :: rest =>
    match if c == '%' then encodedByte? rest else none with
    | some b =>
      let (t, state) := Utf8.step state b
      t ++ decodeFrom state 2 rest
    | none =>
      if Text.isAscii c then
        let (t, state) := Utf8.step state c.toNat
        t ++ decodeFrom state 0 rest
      else Utf8.finish state ++ c :: decodeFrom none 0 rest

/-- A text with its encoded bytes decoded. A percent sign without two hexadecimal digits stands for
itself. -/
def decode (t : Text) : Text := decodeFrom none 0 t

/-! ## Encoding -/

/-- The upper-case hexadecimal digit of a value below sixteen. -/
def hexDigit (n : Nat) : Char := Char.ofNat (if n < 10 then '0'.toNat + n else 'A'.toNat + n - 10)

/-- A byte in percent encoding. -/
def encodeByte (b : Nat) : Text := ['%', hexDigit (b / 16), hexDigit (b % 16)]

/-- The characters that are safe everywhere in a URL. -/
def isUnreserved (c : Char) : Bool := Text.isLetterOrDigit c || "_.-~".toList.contains c

/-- A character of a URL: itself if it is unreserved or in `safe`, else its bytes. -/
def encodeChar (safe : Text) (c : Char) : Text :=
  if isUnreserved c || safe.contains c then [c] else (Utf8.bytes c).flatMap encodeByte

/-- A text for use in a URL where the characters of `safe` may stand. -/
def encode (safe t : Text) : Text := t.flatMap (encodeChar safe)

/-- A text as a word of a URL: a space is written as a plus sign. -/
def encodeWord (t : Text) : Text := t.flatMap fun c => if c == ' ' then ['+'] else encodeChar [] c

end Percent
end WikiMarkup
