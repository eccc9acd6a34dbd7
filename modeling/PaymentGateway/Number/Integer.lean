/-
# Integers as text

Reading a decimal integer of bounded size. A text that is no integer is a
syntax fault; one that is too large is a range fault. Reading goes from left
to right and stops at the first fault, so a number that is already too large
is out of range whatever follows it.

Key definitions: `Integer.scan`, `Integer.readSigned`, `Integer.readUnsigned`.
-/
import PaymentGateway.Number.Decimal

namespace PaymentGateway
namespace Integer

/-- Why a text is no integer of the wanted size. -/
inductive Fault where
  | syntactic
  | range
  deriving Repr, DecidableEq

/-- How the fault is worded. -/
def Fault.text : Fault → String
  | syntactic => "invalid syntax"
  | range => "value out of range"

/-- Reads digits onto the value so far, up to the bound. -/
def scan (bound : Nat) : Nat → List Char → Except Fault Nat
  | n, [] => .ok n
  | n, c :: cs =>
    if c.isDigit then
      let n' := n * 10 + Digits.digit c
      if bound < n' then .error .range else scan bound n' cs
    else .error .syntactic

/-- An unsigned integer of at most `bits` bits: one digit or more. -/
def readUnsigned (bits : Nat) : List Char → Except Fault Nat
  | [] => .error .syntactic
  | cs => scan (Nat.pow 2 bits - 1) 0 cs

/-- A signed 64-bit integer: an optional sign and one digit or more. -/
def readSigned (s : String) : Except Fault Int := do
  let (negative, digits) := Decimal.takeSign s.toList
  let n ← readUnsigned 64 digits
  if negative then
    if Nat.pow 2 63 < n then .error .range else .ok (-(n : Int))
  else if Nat.pow 2 63 ≤ n then .error .range else .ok n

end Integer
end PaymentGateway
