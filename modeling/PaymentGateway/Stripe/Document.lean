/-
# Documents from Stripe

Reading a document against the kinds of its members gives what is known of it:
an object keeps the members that are known, by name; a repeated member goes on
from the value it had; a value of the wrong kind anywhere makes the whole
reading fail. In what was read, `null` stands for a value that says nothing.

Writing gives a document in full: every known member is there, in order, with a
blank value where nothing was said. Only a failure leaves blank members out.

Key definitions: `Stripe.Document.read`, `Stripe.Document.write`,
`Stripe.Document.get`.
-/
import PaymentGateway.Number.Integer
import PaymentGateway.Number.Shortest
import PaymentGateway.Stripe.Schema

namespace PaymentGateway
namespace Stripe
namespace Document

/-- The members of an object that was read; none of anything else. -/
def membersOf : Json → List (List Char × Json)
  | .object ms => ms
  | _ => []

/-- A member of what was read, `null` when nothing is known of it. -/
def get (name : String) (v : Json) : Json := ((membersOf v).lookup name.toList).getD .null

/-- The text of a value, "" when it is no text. -/
def textOf : Json → String
  | .string s => Json.Spelling.value s
  | _ => ""

/-- Members with `v` under a name, in the place the name had or at the end. -/
def set (name : List Char) (v : Json) : List (List Char × Json) → List (List Char × Json)
  | [] => [(name, v)]
  | m :: ms => if m.1 = name then (name, v) :: ms else m :: set name v ms

/-- Reads a truth value. -/
def readFlag (k : Kind) (b : Bool) : Option Json :=
  match k with
  | .flag | .anything => some (.bool b)
  | _ => none

/-- A double as a JSON number. -/
def numberOf? : Binary64 → Option Json
  | .finite negative m e =>
    some (.number (if negative then '-' :: Binary64.numeral m e else Binary64.numeral m e))
  | _ => none

/-- Reads a numeral. Integers have neither fraction nor exponent. -/
def readNumber (k : Kind) (numeral : List Char) : Option Json :=
  match k with
  | .integer => (Integer.readSigned (String.ofList numeral)).toOption.map Json.ofInt
  | .count => (Integer.readUnsigned 32 numeral).toOption.map fun n => Json.ofInt n
  | .double => (Binary64.read numeral).bind numberOf?
  | .anything => some (.number numeral)
  | _ => none

/-- Reads a text. A resource takes it as its id, just as it is spelled. -/
def readText (old : Json) (k : Kind) (spelling : List Char) : Option Json :=
  match k with
  | .text | .anything => some (Json.ofText (Json.Spelling.value spelling))
  | .resource _ | .oneOf _ =>
    some (.object (set "id".toList (Json.ofText (String.ofList spelling)) (membersOf old)))
  | _ => none

/-- The name under which the rest of a resource of one of several types is kept. -/
def contentName : String := "content"

mutual

/-- Reads a value of a kind, onto the value `old` that was there before. -/
def read (old : Json) (k : Kind) : Json → Option Json
  | .null => some (if k.keepsOnNull then old else .null)
  | .bool b => readFlag k b
  | .number n => readNumber k n
  | .string s => readText old k s
  | .array vs =>
    match k with
    | .list item => (readItems item vs).map .array
    | .anything => some (.array vs)
    | _ => none
  | .object ms =>
    match k with
    | .object known => (readMembers known (membersOf old) ms).map .object
    | .failure => (readMembers Schema.failure (membersOf old) ms).map .object
    | .page item => (readMembers (Schema.page item) (membersOf old) ms).map .object
    | .resource name => (readMembers (Schema.resource name) [] ms).map .object
    | .oneOf names =>
      (readMembers Schema.identity [] ms).bind fun self =>
        let type := textOf (get "object" (.object self))
        if names.contains type then
          (readMembers (Schema.resource type) [] ms).map fun content =>
            .object (set contentName.toList (.object content) self)
        else some (.object self)
    | .labelled item => (readLabels item (membersOf old) ms).map .object
    | .anything => some (.object ms)
    | _ => none

/-- Reads the items of a list. -/
def readItems (item : Kind) : List Json → Option (List Json)
  | [] => some []
  | v :: vs => do return (← read .null item v) :: (← readItems item vs)

/-- Reads members in order, onto those read before. -/
def readMembers (known : Members) (done : List (List Char × Json)) :
    List (List Char × Json) → Option (List (List Char × Json))
  | [] => some done
  | (key, v) :: ms =>
    match known.find? key with
    | none => readMembers known done ms
    | some (name, kind) =>
      (read (get name (.object done)) kind v).bind fun x =>
        readMembers known (set name.toList x done) ms

/-- Reads values by label, onto those read before. -/
def readLabels (item : Kind) (done : List (List Char × Json)) :
    List (List Char × Json) → Option (List (List Char × Json))
  | [] => some done
  | (key, v) :: ms =>
    (read .null item v).bind fun x =>
      readLabels item (set (Json.Spelling.ofText (Json.Spelling.value key)) x done) ms

end

/-- Whether a name comes before another, or is the same. -/
def precedes : List Char → List Char → Bool
  | [], _ => true
  | _ :: _, [] => false
  | a :: as, b :: bs => if a = b then precedes as bs else a.toNat < b.toNat

/-- The members of an object one by one, in the order of their names. -/
def sorted (known : Members) : List (String × Kind) :=
  known.fields.mergeSort fun a b => precedes a.1.toList b.1.toList

/-- Written members in the order of the fields, blank where there is none. -/
def arrange (fields : List (String × Kind)) (ms : List (List Char × Json)) :
    List (List Char × Json) :=
  fields.map fun (name, kind) => (name.toList, (ms.lookup name.toList).getD kind.blank)

/-- Whether a value that was read says nothing. -/
def isBlank : Json → Bool
  | .null | .bool false | .string [] | .number ['0'] => true
  | _ => false

/-- The fields of a failure that are written, given its members: those that say
something, and two in any case. -/
def failureFields (ms : List (List Char × Json)) : List (String × Kind) :=
  Schema.failure.fields.filter fun f =>
    !isBlank (get f.1 (.object ms)) || Schema.alwaysWritten.contains f.1

/-- Labels in the order of their texts. -/
def byLabel (ms : List (List Char × Json)) : List (List Char × Json) :=
  ms.mergeSort fun a b =>
    precedes (Json.Spelling.value a.1).toList (Json.Spelling.value b.1).toList

/-- A written resource with its type at the end; a card or bank account names
its customer by id only. -/
def typed (type : String) (content : Json) : Json :=
  let others := (membersOf content).filter fun m => m.1 ≠ "object".toList
  let kind := ("object".toList, Json.ofText type)
  if ["bank_account", "card"].contains type then
    .object (others.filter (fun m => m.1 ≠ "customer".toList) ++
      [("customer".toList, get "id" (get "customer" content)), kind])
  else .object (others ++ [kind])

mutual

/-- A value that was read, in full. -/
def write (k : Kind) : Json → Json
  | .null => k.blank
  | .array vs =>
    match k with
    | .list item => .array (writeItems item vs)
    | _ => .array vs
  | .object ms =>
    match k with
    | .object known => .object (arrange (sorted known) (writeMembers known ms))
    | .failure =>
      .object (arrange (failureFields ms) (writeMembers Schema.failure ms))
    | .page item =>
      .object (arrange (Schema.page item).fields (writeMembers (Schema.page item) ms))
    | .resource name =>
      .object (arrange (sorted (Schema.resource name)) (writeMembers (Schema.resource name) ms))
    | .oneOf names =>
      let type := textOf (get "object" (.object ms))
      let parts := writeMembers (Schema.identity ++ [(.resource type, [contentName])]) ms
      if type = "" then Json.ofText (textOf (get "id" (.object parts)))
      else if names.contains type then typed type (get contentName (.object parts))
      else .null
    | .labelled item => .object (byLabel (writeLabels item ms))
    | _ => .object ms
  | v => v

/-- The items of a list in full. -/
def writeItems (item : Kind) : List Json → List Json
  | [] => []
  | v :: vs => write item v :: writeItems item vs

/-- The members that were read, in full. -/
def writeMembers (known : Members) : List (List Char × Json) → List (List Char × Json)
  | [] => []
  | (name, v) :: ms =>
    let kind := match known.find? name with
      | some (_, kind) => kind
      | none => .anything
    (name, write kind v) :: writeMembers known ms

/-- The labelled values that were read, in full. -/
def writeLabels (item : Kind) : List (List Char × Json) → List (List Char × Json)
  | [] => []
  | (key, v) :: ms => (key, write item v) :: writeLabels item ms

end

end Document
end Stripe
end PaymentGateway
