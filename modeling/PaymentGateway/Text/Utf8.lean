/-
# UTF-8

Characters as bytes, and bytes as characters. Decoding never fails: a byte
that does not start a well-formed sequence (of the shortest form, not a
surrogate, at most U+10FFFF) becomes U+FFFD by itself, and decoding goes on
with the byte after it.

Key definitions: `Text.Utf8.encode`, `Text.Utf8.first?`, `Text.Utf8.decode`.
-/
namespace PaymentGateway
namespace Text
namespace Utf8

/-- The bytes of one character, most significant first. -/
def encodeChar (c : Char) : List UInt8 :=
  let n := c.toNat
  if n < 0x80 then [UInt8.ofNat n]
  else if n < 0x800 then [UInt8.ofNat (0xC0 + n / 64), UInt8.ofNat (0x80 + n % 64)]
  else if n < 0x10000 then
    [UInt8.ofNat (0xE0 + n / 4096), UInt8.ofNat (0x80 + n / 64 % 64), UInt8.ofNat (0x80 + n % 64)]
  else
    [UInt8.ofNat (0xF0 + n / 262144), UInt8.ofNat (0x80 + n / 4096 % 64),
      UInt8.ofNat (0x80 + n / 64 % 64), UInt8.ofNat (0x80 + n % 64)]

/-- The bytes of a list of characters. -/
def encode (cs : List Char) : List UInt8 := cs.flatMap encodeChar

/-- The bytes of a text. -/
def bytes (s : String) : List UInt8 := encode s.toList

/-- What a continuation byte adds, if `b` is one. -/
def tail? (b : UInt8) : Option Nat :=
  let n := b.toNat
  if 0x80 ≤ n ∧ n < 0xC0 then some (n - 0x80) else none

/-- The character with code `n`, unless a shorter sequence would write it
(`n < least`) or there is none. -/
def scalar? (least n : Nat) : Option Char :=
  if least ≤ n ∧ n.isValidChar then some (Char.ofNat n) else none

/-- The character that the bytes start with, and how many bytes it takes
after its first. -/
def first? : List UInt8 → Option (Char × Nat)
  | [] => none
  | a :: rest =>
    let n := a.toNat
    if n < 0x80 then some (Char.ofNat n, 0)
    else if 0xC0 ≤ n ∧ n < 0xE0 then
      match rest with
      | b :: _ => do
        let c ← scalar? 0x80 ((n - 0xC0) * 64 + (← tail? b))
        return (c, 1)
      | [] => none
    else if 0xE0 ≤ n ∧ n < 0xF0 then
      match rest with
      | b :: c :: _ => do
        let c ← scalar? 0x800 ((n - 0xE0) * 4096 + (← tail? b) * 64 + (← tail? c))
        return (c, 2)
      | _ => none
    else if 0xF0 ≤ n ∧ n < 0xF8 then
      match rest with
      | b :: c :: d :: _ => do
        let c ← scalar? 0x10000
          ((n - 0xF0) * 262144 + (← tail? b) * 4096 + (← tail? c) * 64 + (← tail? d))
        return (c, 3)
      | _ => none
    else none

/-- What stands for a byte that starts no character. -/
def replacement : Char := Char.ofNat 0xFFFD

/-- Decodes after skipping the given number of bytes, onto the characters read
so far (newest first). -/
def decodeOnto : Nat → List Char → List UInt8 → List Char
  | _, done, [] => done.reverse
  | skip + 1, done, _ :: rest => decodeOnto skip done rest
  | 0, done, b :: rest =>
    match first? (b :: rest) with
    | some (c, more) => decodeOnto more (c :: done) rest
    | none => decodeOnto 0 (replacement :: done) rest

/-- The characters of a byte sequence, a stray byte as U+FFFD. -/
def decode (bs : List UInt8) : List Char := decodeOnto 0 [] bs

/-- The text of a byte sequence, a stray byte as U+FFFD. -/
def text (bs : List UInt8) : String := String.ofList (decode bs)

end Utf8
end Text
end PaymentGateway
