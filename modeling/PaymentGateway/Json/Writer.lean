/-
# Writing JSON

A document is written without blanks, members in order, every spelling as it
is. `Json.render` is the text of a document.

Key definitions: `Json.write`, `Json.render`.
-/
import PaymentGateway.Json.Value

namespace PaymentGateway
namespace Json

/-- A spelling between quotes. -/
def writeString (spelling : List Char) : List Char := '"' :: (spelling ++ ['"'])

mutual

/-- The characters of a document. -/
def write : Json → List Char
  | .null => ['n', 'u', 'l', 'l']
  | .bool true => ['t', 'r', 'u', 'e']
  | .bool false => ['f', 'a', 'l', 's', 'e']
  | .number n => n
  | .string s => writeString s
  | .array [] => ['[', ']']
  | .array (v :: vs) => '[' :: (v.write ++ (writeItems vs ++ [']']))
  | .object [] => ['{', '}']
  | .object ((k, v) :: ms) => '{' :: (writeString k ++ ':' :: (v.write ++ (writeMembers ms ++ ['}'])))

/-- Items after the first, each after a comma. -/
def writeItems : List Json → List Char
  | [] => []
  | v :: vs => ',' :: (v.write ++ writeItems vs)

/-- Members after the first, each after a comma. -/
def writeMembers : List (List Char × Json) → List Char
  | [] => []
  | (k, v) :: ms => ',' :: (writeString k ++ ':' :: (v.write ++ writeMembers ms))

end

/-- The text of a document. -/
def render (v : Json) : String := String.ofList v.write

end Json
end PaymentGateway
