/-
# Hexadecimal digits

Writing a number with a fixed number of hexadecimal digits, and reading one
digit of either case.

Key definitions: `Text.Hex.digit`, `Text.Hex.value?`, `Text.Hex.padded`.
-/
namespace PaymentGateway
namespace Text
namespace Hex

/-- The lower-case digit of `n % 16`. -/
def digit (n : Nat) : Char :=
  let d := n % 16
  if d < 10 then Char.ofNat (48 + d) else Char.ofNat (87 + d)

/-- The upper-case digit of `n % 16`. -/
def upperDigit (n : Nat) : Char :=
  let d := n % 16
  if d < 10 then Char.ofNat (48 + d) else Char.ofNat (55 + d)

/-- The value of a digit of either case. -/
def value? (c : Char) : Option Nat :=
  let n := c.toNat
  if 48 ≤ n ∧ n ≤ 57 then some (n - 48)
  else if 97 ≤ n ∧ n ≤ 102 then some (n - 87)
  else if 65 ≤ n ∧ n ≤ 70 then some (n - 55)
  else none

/-- The last `width` lower-case digits of `n`. -/
def padded : Nat → Nat → List Char
  | 0, _ => []
  | width + 1, n => padded width (n / 16) ++ [digit n]

end Hex
end Text
end PaymentGateway
