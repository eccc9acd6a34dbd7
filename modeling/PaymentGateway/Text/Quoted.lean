/-
# Quoted texts

Two ways to show a text between double quotes on one line. `quote` keeps every
printable character and writes the others as escapes; `quoteBytes` keeps
ASCII from the space on and writes every other byte as `\xNN`. `quoteUtf8` is
`quote` for bytes that may be no text: a stray byte is written `\xNN`.

Key definitions: `Text.quote`, `Text.quoteUtf8`, `Text.quoteBytes`.
-/
import PaymentGateway.Text.Hex
import PaymentGateway.Text.Printable
import PaymentGateway.Text.Utf8

namespace PaymentGateway
namespace Text

variable [Unicode]

/-- The letter of the short escape of a control character. -/
def shortEscape? (c : Char) : Option Char :=
  match c.toNat with
  | 7 => some 'a'
  | 8 => some 'b'
  | 9 => some 't'
  | 10 => some 'n'
  | 11 => some 'v'
  | 12 => some 'f'
  | 13 => some 'r'
  | _ => none

/-- A character as `quote` shows it. -/
def quoteChar (c : Char) : List Char :=
  if c = '"' ∨ c = '\\' then ['\\', c]
  else if isPrintable c then [c]
  else match shortEscape? c with
    | some e => ['\\', e]
    | none =>
      if c.toNat < 0x20 ∨ c.toNat = 0x7F then '\\' :: 'x' :: Hex.padded 2 c.toNat
      else if c.toNat < 0x10000 then '\\' :: 'u' :: Hex.padded 4 c.toNat
      else '\\' :: 'U' :: Hex.padded 8 c.toNat

/-- A text between quotes, non-printable characters as escapes. -/
def quote (s : String) : String :=
  String.ofList ('"' :: s.toList.flatMap quoteChar ++ ['"'])

/-- A byte that belongs to no character. -/
def quoteStray (b : UInt8) : List Char := '\\' :: 'x' :: Hex.padded 2 b.toNat

/-- The characters of bytes as `quote` shows them, after so many bytes are
skipped. -/
def quoteUtf8From : Nat → List UInt8 → List Char
  | _, [] => []
  | skip + 1, _ :: rest => quoteUtf8From skip rest
  | 0, b :: rest =>
    match Utf8.first? (b :: rest) with
    | some (c, more) => quoteChar c ++ quoteUtf8From more rest
    | none => quoteStray b ++ quoteUtf8From 0 rest

/-- Bytes between quotes, those that are no text as `\xNN`. -/
def quoteUtf8 (bs : List UInt8) : String :=
  String.ofList ('"' :: quoteUtf8From 0 bs ++ ['"'])

/-- A character as `quoteBytes` shows it. -/
def quoteByteChar (c : Char) : List Char :=
  if c.toNat < 0x20 ∨ 0x80 ≤ c.toNat then
    (Utf8.encodeChar c).flatMap quoteStray
  else if c = '"' ∨ c = '\\' then ['\\', c]
  else [c]

/-- A text between quotes, the bytes outside printable ASCII as `\xNN`. -/
def quoteBytes (s : String) : String :=
  String.ofList ('"' :: s.toList.flatMap quoteByteChar ++ ['"'])

end Text
end PaymentGateway
