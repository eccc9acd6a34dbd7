/-
# Event envelopes

An event of an intent is published in an envelope: type, version, time, the
id of the intent, and data. Writing an envelope stamps it when it has no time
and fills in the version; reading one accepts any JSON object, keeps its known
fields and hands back the data of the two intent events. Client secrets are no
part of an event.

Key definitions: `IntentData`, `Envelope`, `Envelope.ofIntent`,
`Envelope.write`, `Envelope.read`.
-/
import PaymentGateway.Fault
import PaymentGateway.Json.Field
import PaymentGateway.Json.Reader
import PaymentGateway.Json.Writer
import PaymentGateway.Time.Moment

namespace PaymentGateway

/-- What an event says about an intent; `attach` is empty when it does not
apply. -/
structure IntentData where
  intentId : String
  status : String
  state : String
  requiresAction : Bool
  attach : String
  deriving Repr, DecidableEq, Inhabited

/-- The data of an event: that of an intent, or any other document. -/
inductive Payload where
  | intent (data : IntentData)
  | other (document : Json)
  deriving Inhabited

/-- An event on its way: `occurredAt` is `Moment.zero` until it is stamped. -/
structure Envelope where
  type : String
  version : String
  occurredAt : Moment
  aggregateId : String
  data : Option Payload
  deriving Inhabited

namespace IntentData

/-- No data at all. -/
def blank : IntentData := ⟨"", "", "", false, ""⟩

/-- The data as a document; a flag that is not set and an empty attach outcome
are left out. -/
def toJson (d : IntentData) : Json :=
  Json.ofMembers <|
    [("intentId", Json.ofText d.intentId), ("status", Json.ofText d.status),
      ("state", Json.ofText d.state)] ++
    (if d.requiresAction then [("requiresAction", Json.bool true)] else []) ++
    (if d.attach = "" then [] else [("attach", Json.ofText d.attach)])

/-- Takes one member of a document. -/
def take (d : IntentData) (key : List Char) (v : Json) : Option IntentData :=
  if Json.Field.named "intentId" key then
    (Json.Field.text d.intentId v).map fun x => { d with intentId := x }
  else if Json.Field.named "status" key then
    (Json.Field.text d.status v).map fun x => { d with status := x }
  else if Json.Field.named "state" key then
    (Json.Field.text d.state v).map fun x => { d with state := x }
  else if Json.Field.named "requiresAction" key then
    (Json.Field.flag d.requiresAction v).map fun x => { d with requiresAction := x }
  else if Json.Field.named "attach" key then
    (Json.Field.text d.attach v).map fun x => { d with attach := x }
  else some d

/-- The data a document holds. -/
def ofJson? (v : Json) : Option IntentData := Json.Field.read take blank v

end IntentData

namespace Envelope

def createdType : String := "PaymentIntentCreated"
def confirmedType : String := "PaymentIntentConfirmed"

/-- The two types of intent events. -/
def isIntentType (type : String) : Bool := type = createdType || type = confirmedType

/-- The envelope of an intent event, not stamped yet. -/
def ofIntent (type : String) (data : IntentData) : Envelope :=
  ⟨type, "v1", Moment.zero, data.intentId, some (.intent data)⟩

/-- No envelope fields at all. -/
def blank : Envelope := ⟨"", "", Moment.zero, "", none⟩

/-- The envelope with its time, or the given one if it has none, and with its
version, or the first if it has none. -/
def stamped (now : Moment) (e : Envelope) : Envelope :=
  { e with
    occurredAt := if e.occurredAt.isZero then now else e.occurredAt
    version := if e.version = "" then "v1" else e.version }

/-- The document of an event's data. -/
def dataJson : Option Payload → Json
  | none => .null
  | some (.intent d) => d.toJson
  | some (.other v) => v.hardened

/-- The document of an envelope, its time given as text. -/
def toJson (e : Envelope) (time : String) : Json :=
  Json.ofMembers
    [("eventType", Json.ofText e.type), ("eventVersion", Json.ofText e.version),
      ("occurredAt", Json.ofText time), ("aggregateId", Json.ofText e.aggregateId),
      ("data", dataJson e.data)]

/-- The text of an envelope, stamped with `now` if it has no time. It fails
when the time has no text. -/
def write (now : Moment) (e : Envelope) : Except Fault String :=
  let e := e.stamped now
  match e.occurredAt.write? with
  | some time => .ok (e.toJson time).render
  | none => .error (.plain ("marshal " ++ e.type ++ " event"))

/-- Why a message is no event: not JSON, or JSON that does not fit the
envelope, or an intent event whose data does not fit. -/
inductive ReadFault where
  | notJson
  | badEnvelope
  | badData (type : String)
  deriving Repr, DecidableEq

/-- The text of a fault. -/
def ReadFault.text : ReadFault → String
  | notJson => "decode envelope"
  | badEnvelope => "decode envelope"
  | badData type => "decode " ++ type ++ " data"

/-- The fields of an envelope with its data still a document. -/
structure Raw where
  envelope : Envelope
  data : Option Json

/-- A time field: it is read as it is spelled. -/
def timeField (old : Moment) : Json → Option Moment
  | .null => some old
  | .string spelling => Moment.read? spelling
  | _ => none

/-- Takes one member of an envelope. -/
def Raw.take (r : Raw) (key : List Char) (v : Json) : Option Raw :=
  let e := r.envelope
  if Json.Field.named "eventType" key then
    (Json.Field.text e.type v).map fun x => { r with envelope := { e with type := x } }
  else if Json.Field.named "eventVersion" key then
    (Json.Field.text e.version v).map fun x => { r with envelope := { e with version := x } }
  else if Json.Field.named "occurredAt" key then
    (timeField e.occurredAt v).map fun x => { r with envelope := { e with occurredAt := x } }
  else if Json.Field.named "aggregateId" key then
    (Json.Field.text e.aggregateId v).map fun x => { r with envelope := { e with aggregateId := x } }
  else if Json.Field.named "data" key then some { r with data := some v }
  else some r

/-- The envelope of a document, and the data if it is an intent event. On bad
data the envelope is handed back with the fault. -/
def ofJson (v : Json) : Except (ReadFault × Envelope) (Envelope × Option IntentData) :=
  match Json.Field.read Raw.take ⟨blank, none⟩ v with
  | none => .error (.badEnvelope, blank)
  | some raw =>
    let e := raw.envelope
    if isIntentType e.type then
      match IntentData.ofJson? (raw.data.getD .null) with
      | some d => .ok ({ e with data := some (.intent d) }, some d)
      | none => .error (.badData e.type, e)
    else .ok (e, none)

/-- The envelope of a message, and the data if it is an intent event. -/
def read (message : List UInt8) : Except (ReadFault × Envelope) (Envelope × Option IntentData) :=
  match Json.parse? (Text.Utf8.decode message) with
  | none => .error (.notJson, blank)
  | some v => ofJson v

end Envelope
end PaymentGateway
