/-
# JSON values as they are spelled

A JSON document keeps its spelling: a number is its numeral, a string the
characters between its quotes with the escapes not undone, an object its
members in order with duplicates. What a spelling means is a separate
function: `Spelling.value` undoes the escapes of a string.

In a spelled string `\uXXXX` names a UTF-16 unit. A high surrogate followed at
once by a low one is one character; any other surrogate stands for U+FFFD.

Key definitions: `Json`, `Json.Spelling.value`, `Json.Spelling.ofText`.
-/
import PaymentGateway.Number.Decimal
import PaymentGateway.Text.Hex
import PaymentGateway.Text.Utf8

namespace PaymentGateway

/-- A JSON document, spelled. -/
inductive Json where
  | null
  | bool (value : Bool)
  | number (numeral : List Char)
  | string (spelling : List Char)
  | array (items : List Json)
  | object (members : List (List Char × Json))
  deriving Inhabited

namespace Json

/-- The blanks allowed between tokens. -/
def isSpace (c : Char) : Bool := c = ' ' || c = '\t' || c = '\n' || c = '\r'

namespace Spelling

/-- The number four hexadecimal digits spell. -/
def unit (a b c d : Char) : Nat :=
  let digit := fun x => (Text.Hex.value? x).getD 0
  digit a * 4096 + digit b * 256 + digit c * 16 + digit d

/-- A UTF-16 unit that starts a pair. -/
def isHigh (n : Nat) : Bool := 0xD800 ≤ n && n < 0xDC00

/-- A UTF-16 unit that ends a pair. -/
def isLow (n : Nat) : Bool := 0xDC00 ≤ n && n < 0xE000

/-- The character of a pair of units. -/
def pair (high low : Nat) : Char :=
  Char.ofNat (0x10000 + (high - 0xD800) * 0x400 + (low - 0xDC00))

/-- The character of a unit on its own. -/
def single (n : Nat) : Char :=
  if isHigh n || isLow n then Text.Utf8.replacement else Char.ofNat n

/-- The character a one-letter escape names. -/
def named (c : Char) : Char :=
  match c with
  | 'b' => Char.ofNat 8
  | 'f' => Char.ofNat 12
  | 'n' => '\n'
  | 'r' => '\r'
  | 't' => '\t'
  | c => c

/-- Undoes the escapes, onto the characters read so far (newest first). A unit
that may start a pair waits as `held`. -/
def valueOnto : List Char → Option Nat → List Char → List Char
  | done, held, [] => ((held.map single).toList ++ done).reverse
  | done, held, '\\' :: 'u' :: a :: b :: c :: d :: rest =>
    let n := unit a b c d
    match held with
    | some high =>
      if isLow n then valueOnto (pair high n :: done) none rest
      else if isHigh n then valueOnto (single high :: done) (some n) rest
      else valueOnto (single n :: single high :: done) none rest
    | none =>
      if isHigh n then valueOnto done (some n) rest
      else valueOnto (single n :: done) none rest
  | done, held, '\\' :: c :: rest =>
    valueOnto (named c :: ((held.map single).toList ++ done)) none rest
  | done, held, c :: rest => valueOnto (c :: ((held.map single).toList ++ done)) none rest

/-- The text that a spelled string denotes. -/
def value (spelling : List Char) : String := String.ofList (valueOnto [] none spelling)

/-- A character as it is written in a string: the quote, the backslash and the
controls are escaped, and so are `<`, `>`, `&` and the two line separators. -/
def ofChar (c : Char) : List Char :=
  match c with
  | '"' => ['\\', '"']
  | '\\' => ['\\', '\\']
  | '\n' => ['\\', 'n']
  | '\r' => ['\\', 'r']
  | '\t' => ['\\', 't']
  | c =>
    let n := c.toNat
    if n = 8 then ['\\', 'b']
    else if n = 12 then ['\\', 'f']
    else if n < 0x20 ∨ c = '<' ∨ c = '>' ∨ c = '&' ∨ n = 0x2028 ∨ n = 0x2029 then
      '\\' :: 'u' :: Text.Hex.padded 4 n
    else [c]

/-- The spelling in which a text is written. -/
def ofText (s : String) : List Char := s.toList.flatMap ofChar

/-- The character of a spelling made safe for a page: `<`, `>`, `&` and the two
line separators are escaped, all else stays as it is spelled. -/
def hardenChar (c : Char) : List Char :=
  if c = '<' ∨ c = '>' ∨ c = '&' ∨ c.toNat = 0x2028 ∨ c.toNat = 0x2029 then
    '\\' :: 'u' :: Text.Hex.padded 4 c.toNat
  else [c]

/-- A spelling made safe for a page. -/
def harden (spelling : List Char) : List Char := spelling.flatMap hardenChar

end Spelling

/-- A text as a JSON string. -/
def ofText (s : String) : Json := .string (Spelling.ofText s)

/-- An integer as a JSON number. -/
def ofInt (i : Int) : Json := .number (Digits.ofInt i)

/-- An object of members named by texts. -/
def ofMembers (ms : List (String × Json)) : Json :=
  .object (ms.map fun (k, v) => (Spelling.ofText k, v))

mutual

/-- The document with every spelling made safe for a page. -/
def hardened : Json → Json
  | .null => .null
  | .bool b => .bool b
  | .number n => .number n
  | .string s => .string (Spelling.harden s)
  | .array vs => .array (hardenedItems vs)
  | .object ms => .object (hardenedMembers ms)

/-- The items of an array, each made safe. -/
def hardenedItems : List Json → List Json
  | [] => []
  | v :: vs => v.hardened :: hardenedItems vs

/-- The members of an object, keys and values made safe. -/
def hardenedMembers : List (List Char × Json) → List (List Char × Json)
  | [] => []
  | (k, v) :: ms => (Spelling.harden k, v.hardened) :: hardenedMembers ms

end

end Json
end PaymentGateway
