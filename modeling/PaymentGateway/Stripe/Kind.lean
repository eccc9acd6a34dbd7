/-
# Kinds of values in Stripe's objects

What a member of an object holds: a scalar, a list, a map, an object with
members of its own, or a resource. A resource is an object that may also be
given by its id alone, and is named here, because resources refer to each other
in circles.

Key definitions: `Stripe.Kind`, `Stripe.Members`, `Stripe.Members.fields`,
`Stripe.Members.find?`.
-/
import PaymentGateway.Json.Field

namespace PaymentGateway
namespace Stripe

/-- The kinds of values: texts, integers of 64 bits with sign and of 32 without,
doubles, flags; values that are not looked at; a failure; an object with its
members; a resource, and one of several types, which it names itself; a list, a
page of a list, and values by label. -/
inductive Kind where
  | text
  | integer
  | count
  | double
  | flag
  | anything
  | failure
  | object (members : List (Kind × List String))
  | resource (name : String)
  | oneOf (names : List String)
  | list (item : Kind)
  | page (item : Kind)
  | labelled (item : Kind)

/-- The known members of an object, grouped by kind. -/
abbrev Members := List (Kind × List String)

namespace Members

/-- The members one by one, in the order of the groups. -/
def fields (ms : Members) : List (String × Kind) :=
  ms.flatMap fun (kind, names) => names.map fun name => (name, kind)

/-- The member that a spelled key names. -/
def find? (ms : Members) (key : List Char) : Option (String × Kind) :=
  ms.fields.find? fun f => Json.Field.named f.1 key

end Members

namespace Kind

/-- Whether `null` leaves a value of this kind as it was. Other kinds it takes
back. -/
def keepsOnNull : Kind → Bool
  | text | integer | count | double | flag => true
  | _ => false

/-- The value of this kind that says nothing. -/
def blank : Kind → Json
  | text => Json.ofText ""
  | integer | count | double => Json.ofInt 0
  | flag => .bool false
  | _ => .null

end Kind
end Stripe
end PaymentGateway
