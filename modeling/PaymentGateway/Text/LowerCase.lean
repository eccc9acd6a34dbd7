/-
# Simple lower case

A text is lower-cased character by character, by the simple mapping of the
edition of Unicode.

Key definitions: `Text.lowerChar`, `Text.lower`.
-/
import PaymentGateway.Text.Unicode

namespace PaymentGateway
namespace Text

variable [Unicode]

/-- The simple lower case of a character; one that no run covers is its own. -/
def lowerChar (c : Char) : Char :=
  if c.toNat < 128 then c.toLower
  else match Unicode.lowerRuns.find? (·.covers c.toNat) with
    | some r => Char.ofNat (c.toNat + r.shift).toNat
    | none => c

/-- A text lower-cased character by character. -/
def lower (s : String) : String := String.ofList (s.toList.map lowerChar)

end Text
end PaymentGateway
