/-
# Reading fields of JSON objects

A field takes the members whose key is its name, compared without regard to
case (the Kelvin sign counts as a k, the long s as an s). Members are taken in
order, so the last one wins; `null` leaves a field as it was, and a value of
the wrong kind makes the whole reading fail. Members that name no field are
skipped.

Key definitions: `Json.Field.named`, `Json.Field.read`, `Json.Field.text`,
`Json.Field.flag`, `Json.Field.amount`.
-/
import PaymentGateway.Json.Value
import PaymentGateway.Number.Binary64

namespace PaymentGateway
namespace Json
namespace Field

/-- A character with its case removed: capital for ASCII letters and for the
two characters outside ASCII that fold to one. -/
def foldChar (c : Char) : Char :=
  if c.toNat = 0x17F then 'S'
  else if c.toNat = 0x212A then 'K'
  else c.toUpper

/-- Whether a spelled key names the field `name`. -/
def named (name : String) (key : List Char) : Bool :=
  (Spelling.value key).toList.map foldChar == name.toList.map foldChar

/-- Reads an object member by member; `null` reads as an empty object. -/
def read {α : Type} (take : α → List Char → Json → Option α) (init : α) : Json → Option α
  | .null => some init
  | .object ms => ms.foldlM (fun a (k, v) => take a k v) init
  | _ => none

/-- A text field. -/
def text (old : String) : Json → Option String
  | .null => some old
  | .string s => some (Spelling.value s)
  | _ => none

/-- A truth-value field. -/
def flag (old : Bool) : Json → Option Bool
  | .null => some old
  | .bool b => some b
  | _ => none

/-- An amount that may be missing; `null` makes it missing again. -/
def amount : Json → Option (Option Binary64)
  | .null => some none
  | .number n => (Binary64.read n).map some
  | _ => none

end Field
end Json
end PaymentGateway
