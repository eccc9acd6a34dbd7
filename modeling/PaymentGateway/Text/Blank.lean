/-
# Blank characters, trimming and splitting

White space is the Unicode property White_Space: the ASCII blanks, U+0085,
U+00A0, the spaces of U+1680 and U+2000 to U+200A, both separators, U+202F,
U+205F and U+3000. Zero-width characters are not blank. Trimming removes a
class of characters from both ends and nothing inside; splitting at a
separator keeps empty parts.

Key definitions: `Text.isBlank`, `Text.trimBy`, `Text.trim`, `Text.split`,
`Text.nonBlankParts`.
-/
namespace PaymentGateway
namespace Text

/-- The Unicode property White_Space. -/
def isBlank (c : Char) : Bool :=
  let n := c.toNat
  (9 ≤ n && n ≤ 13) || n == 0x20 || n == 0x85 || n == 0xA0 || n == 0x1680 ||
    (0x2000 ≤ n && n ≤ 0x200A) || n == 0x2028 || n == 0x2029 || n == 0x202F ||
    n == 0x205F || n == 0x3000

/-- `cs` without the characters of the class `p` at its end. -/
def trimEndBy (p : Char → Bool) (cs : List Char) : List Char :=
  (cs.reverse.dropWhile p).reverse

/-- `cs` without the characters of the class `p` at its two ends. -/
def trimBy (p : Char → Bool) (cs : List Char) : List Char :=
  trimEndBy p (cs.dropWhile p)

/-- A text without the white space around it. -/
def trim (s : String) : String := String.ofList (trimBy isBlank s.toList)

/-- A text without the slashes around it. -/
def trimSlashes (s : String) : String := String.ofList (trimBy (· == '/') s.toList)

/-- A text without the slashes at its end. -/
def trimEndSlashes (s : String) : String := String.ofList (trimEndBy (· == '/') s.toList)

/-- The parts of `cs` between separators: one more part than there are
separators, empty ones included. -/
def split (sep : Char) (cs : List Char) : List (List Char) :=
  cs.foldr (fun c parts =>
    if c = sep then [] :: parts
    else match parts with
      | [] => [[c]]
      | part :: rest => (c :: part) :: rest) [[]]

/-- The comma-separated parts of a text, trimmed, blank ones left out. -/
def nonBlankParts (s : String) : List String :=
  ((split ',' s.toList).map fun part => String.ofList (trimBy isBlank part)).filter (· ≠ "")

/-- The text before the first `sep` and, if there is one, the text after it. -/
def cut (sep : Char) : List Char → List Char × Option (List Char)
  | [] => ([], none)
  | c :: cs =>
    if c = sep then ([], some cs)
    else
      let (before, after) := cut sep cs
      (c :: before, after)

end Text
end PaymentGateway
