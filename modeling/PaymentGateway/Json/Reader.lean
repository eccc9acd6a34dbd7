/-
# Reading JSON one character at a time

The reader is a machine: `Reader.step` takes one character, and reading a
text is a fold. The grammar is strict; containers nest to at most
`maxDepth` levels. A machine in the middle of a text can be asked whether it
has failed, has the whole first value, or needs more.

A container is complete at its closing bracket. A string, word or number at
the top is complete when a character follows it or the text ends, since more
digits could follow. Characters after the first value do not undo it; whether
any of them was not blank is remembered.

Key definitions: `Reader.State`, `Reader.step`, `Reader.run`,
`Json.parse?` (a whole document), `Reader.State.finish?` (the first value).
-/
import PaymentGateway.Json.Value

namespace PaymentGateway
namespace Json

/-- How deep arrays and objects may nest. -/
def maxDepth : Nat := 10000

namespace Reader

/-- What was read last of a number. -/
inductive NumberPart where
  | sign | zero | whole | point | fraction | mark | markSign | exponent
  deriving Repr, DecidableEq

/-- The part a character leads to; `none` when it does not belong to the
number. -/
def NumberPart.next? : NumberPart → Char → Option NumberPart
  | sign, c => if c = '0' then some zero else if c.isDigit then some whole else none
  | zero, c => if c = '.' then some point else if c = 'e' ∨ c = 'E' then some mark else none
  | whole, c =>
    if c.isDigit then some whole
    else if c = '.' then some point
    else if c = 'e' ∨ c = 'E' then some mark else none
  | point, c => if c.isDigit then some fraction else none
  | fraction, c =>
    if c.isDigit then some fraction else if c = 'e' ∨ c = 'E' then some mark else none
  | mark, c => if c.isDigit then some exponent else if c = '+' ∨ c = '-' then some markSign else none
  | markSign, c => if c.isDigit then some exponent else none
  | exponent, c => if c.isDigit then some exponent else none

/-- Whether a number may end here. -/
def NumberPart.mayEnd : NumberPart → Bool
  | zero | whole | fraction | exponent => true
  | _ => false

/-- What is expected next inside a string: a plain character, the letter of an
escape, or so many more hexadecimal digits. -/
inductive TextPart where
  | plain
  | escape
  | hex (more : Nat)
  deriving Repr, DecidableEq

/-- The part a character other than the closing quote leads to; `none` when
it may not stand there. -/
def TextPart.next? : TextPart → Char → Option TextPart
  | plain, c => if c = '\\' then some escape else if c.toNat < 0x20 then none else some plain
  | escape, c =>
    if c = 'u' then some (hex 3)
    else if c = '"' ∨ c = '\\' ∨ c = '/' ∨ c = 'b' ∨ c = 'f' ∨ c = 'n' ∨ c = 'r' ∨ c = 't' then
      some plain
    else none
  | hex more, c =>
    if (Text.Hex.value? c).isSome then
      some (match more with | 0 => plain | n + 1 => hex n)
    else none

/-- A container whose next value is being read, with what it holds so far
(newest first). -/
inductive Frame where
  | item (done : List Json)
  | member (done : List (List Char × Json)) (key : List Char)

/-- What is being read inside a document. -/
inductive Mode where
  | value
  | openArray
  | afterItem (done : List Json)
  | openObject
  | keyStart (done : List (List Char × Json))
  | keyText (done : List (List Char × Json)) (part : TextPart) (spelled : List Char)
  | colon (done : List (List Char × Json)) (key : List Char)
  | afterMember (done : List (List Char × Json))
  | text (part : TextPart) (spelled : List Char)
  | number (part : NumberPart) (spelled : List Char)
  | word (rest : List Char) (meaning : Json)

/-- The machine: inside a document with `depth` open containers, past a
top-level string or word, past the first value (`junk` once a character that
is not blank followed it), or failed. -/
inductive State where
  | reading (mode : Mode) (stack : List Frame) (depth : Nat)
  | scalar (v : Json)
  | closed (v : Json) (junk : Bool)
  | failed

/-- Hands a value to the container around it. -/
def deliver (v : Json) (top : State) (stack : List Frame) (depth : Nat) : State :=
  match stack with
  | [] => top
  | .item done :: stack => .reading (.afterItem (v :: done)) stack depth
  | .member done key :: stack => .reading (.afterMember ((key, v) :: done)) stack depth

/-- Hands a finished array or object on. -/
def close (v : Json) (stack : List Frame) (depth : Nat) : State :=
  deliver v (.closed v false) stack (depth - 1)

/-- Opens one more container. -/
def descend (mode : Mode) (stack : List Frame) (depth : Nat) : State :=
  if depth < maxDepth then .reading mode stack (depth + 1) else .failed

/-- The first character of a value. -/
def startValue (c : Char) (stack : List Frame) (depth : Nat) : State :=
  match c with
  | '[' => descend .openArray stack depth
  | '{' => descend .openObject stack depth
  | '"' => .reading (.text .plain []) stack depth
  | '-' => .reading (.number .sign [c]) stack depth
  | '0' => .reading (.number .zero [c]) stack depth
  | 't' => .reading (.word ['r', 'u', 'e'] (.bool true)) stack depth
  | 'f' => .reading (.word ['a', 'l', 's', 'e'] (.bool false)) stack depth
  | 'n' => .reading (.word ['u', 'l', 'l'] .null) stack depth
  | c => if c.isDigit then .reading (.number .whole [c]) stack depth else .failed

/-- The first character of a key. -/
def startKey (c : Char) (done : List (List Char × Json)) (stack : List Frame) (depth : Nat) : State :=
  if c = '"' then .reading (.keyText done .plain []) stack depth else .failed

/-- A character after an item of an array. -/
def stepAfterItem (c : Char) (done : List Json) (stack : List Frame) (depth : Nat) : State :=
  if isSpace c then .reading (.afterItem done) stack depth
  else if c = ',' then .reading .value (.item done :: stack) depth
  else if c = ']' then close (.array done.reverse) stack depth
  else .failed

/-- A character after a member of an object. -/
def stepAfterMember (c : Char) (done : List (List Char × Json)) (stack : List Frame)
    (depth : Nat) : State :=
  if isSpace c then .reading (.afterMember done) stack depth
  else if c = ',' then .reading (.keyStart done) stack depth
  else if c = '}' then close (.object done.reverse) stack depth
  else .failed

/-- A character that ends a number: it belongs to what stands around it. -/
def endNumber (c : Char) (v : Json) (stack : List Frame) (depth : Nat) : State :=
  match stack with
  | [] => .closed v (!isSpace c)
  | .item done :: stack => stepAfterItem c (v :: done) stack depth
  | .member done key :: stack => stepAfterMember c ((key, v) :: done) stack depth

/-- A character inside a document. -/
def stepMode (c : Char) (mode : Mode) (stack : List Frame) (depth : Nat) : State :=
  match mode with
  | .value => if isSpace c then .reading .value stack depth else startValue c stack depth
  | .openArray =>
    if isSpace c then .reading .openArray stack depth
    else if c = ']' then close (.array []) stack depth
    else startValue c (.item [] :: stack) depth
  | .afterItem done => stepAfterItem c done stack depth
  | .openObject =>
    if isSpace c then .reading .openObject stack depth
    else if c = '}' then close (.object []) stack depth
    else startKey c [] stack depth
  | .keyStart done =>
    if isSpace c then .reading (.keyStart done) stack depth else startKey c done stack depth
  | .keyText done part spelled =>
    if part = .plain ∧ c = '"' then .reading (.colon done spelled.reverse) stack depth
    else match part.next? c with
      | some part => .reading (.keyText done part (c :: spelled)) stack depth
      | none => .failed
  | .colon done key =>
    if isSpace c then .reading (.colon done key) stack depth
    else if c = ':' then .reading .value (.member done key :: stack) depth
    else .failed
  | .afterMember done => stepAfterMember c done stack depth
  | .text part spelled =>
    if part = .plain ∧ c = '"' then
      let v := Json.string spelled.reverse
      deliver v (.scalar v) stack depth
    else match part.next? c with
      | some part => .reading (.text part (c :: spelled)) stack depth
      | none => .failed
  | .number part spelled =>
    match part.next? c with
    | some part => .reading (.number part (c :: spelled)) stack depth
    | none => if part.mayEnd then endNumber c (.number spelled.reverse) stack depth else .failed
  | .word [] _ => .failed
  | .word (w :: rest) meaning =>
    if c = w then
      if rest.isEmpty then deliver meaning (.scalar meaning) stack depth
      else .reading (.word rest meaning) stack depth
    else .failed

/-- One character. -/
def step (s : State) (c : Char) : State :=
  match s with
  | .reading mode stack depth => stepMode c mode stack depth
  | .scalar v => .closed v (!isSpace c)
  | .closed v junk => .closed v (junk || !isSpace c)
  | .failed => .failed

/-- Before the first character. -/
def start : State := .reading .value [] 0

/-- The machine after a text. -/
def run (cs : List Char) : State := cs.foldl step start

/-- The first value when the text ends here, and whether junk followed it. -/
def State.finish? : State → Option (Json × Bool)
  | .closed v junk => some (v, junk)
  | .scalar v => some (v, false)
  | .reading (.number part spelled) [] _ =>
    if part.mayEnd then some (.number spelled.reverse, false) else none
  | _ => none

end Reader

/-- The document a text spells: one value with blanks around it. -/
def parse? (cs : List Char) : Option Json :=
  match (Reader.run cs).finish? with
  | some (v, false) => some v
  | _ => none

/-- The document a text spells. -/
def parseText? (s : String) : Option Json := parse? s.toList

end Json
end PaymentGateway
