/-
# Percent escapes

A text is escaped byte by byte: letters, digits and `-_.~` stand for
themselves, a space is written `+`, and every other byte of the UTF-8 form is
written `%XX` with capital digits. Undoing escapes gives bytes back; a percent
sign without two hexadecimal digits after it is an error. Only in a form does
`+` mean a space. Other places keep other characters: `Percent.escapeBut` takes
the class of those that are kept.

Key definitions: `Percent.escape`, `Percent.escapeBut`, `Percent.bytes?`,
`Percent.unescape?`, `Percent.unescapeForm?`.
-/
import PaymentGateway.Text.Hex
import PaymentGateway.Text.Utf8

namespace PaymentGateway
namespace Percent

/-- A letter or digit of ASCII. -/
def isAlphanumeric (c : Char) : Bool := c.isAlpha || c.isDigit

/-- A character that is never escaped. -/
def isUnreserved (c : Char) : Bool :=
  isAlphanumeric c || c = '-' || c = '_' || c = '.' || c = '~'

/-- A byte as an escape. -/
def escapeByte (b : UInt8) : List Char :=
  ['%', Text.Hex.upperDigit (b.toNat / 16), Text.Hex.upperDigit b.toNat]

/-- Bytes in escaped form, but for those of ASCII that are kept. -/
def escapeBut (kept : Char → Bool) (bs : List UInt8) : List Char :=
  bs.flatMap fun b =>
    if b.toNat < 0x80 && kept (Char.ofNat b.toNat) then [Char.ofNat b.toNat] else escapeByte b

/-- A character in escaped form. -/
def escapeChar (c : Char) : List Char :=
  if c = ' ' then ['+']
  else if isUnreserved c then [c]
  else (Text.Utf8.encodeChar c).flatMap escapeByte

/-- A text in escaped form. -/
def escape (s : String) : List Char := s.toList.flatMap escapeChar

/-- The byte that two hexadecimal digits spell. -/
def byte? (a b : Char) : Option UInt8 := do
  return UInt8.ofNat ((← Text.Hex.value? a) * 16 + (← Text.Hex.value? b))

/-- The bytes of a text with escapes; `none` when an escape is cut short or has
no digits. -/
def bytes? : List Char → Option (List UInt8)
  | [] => some []
  | '%' :: a :: b :: rest => do
    let x ← byte? a b
    return x :: (← bytes? rest)
  | c :: rest =>
    if c = '%' then none
    else (bytes? rest).map (Text.Utf8.encodeChar c ++ ·)

/-- The text behind escapes. -/
def unescape? (cs : List Char) : Option String := (bytes? cs).map Text.Utf8.text

/-- The text behind the escapes of a form, where `+` is a space. -/
def unescapeForm? (cs : List Char) : Option String :=
  unescape? (cs.map fun c => if c = '+' then ' ' else c)

end Percent
end PaymentGateway
