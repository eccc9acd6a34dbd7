/-
# Secrets from a vault

At start the service may fetch secrets from a key-value store and add them to
its environment. That is switched on by naming the store's address, a token
and the path of the secret. Only scalar values are taken over; nested ones are
left out. Whatever goes wrong leaves the environment as it was.

Key definitions: `Vault.Config.ofEnvironment?`, `Vault.Value.text?`,
`Vault.flatten`, `Vault.secrets`, `Vault.bootstrap`.
-/
import PaymentGateway.Environment
import PaymentGateway.Json.Field
import PaymentGateway.Json.Reader
import PaymentGateway.Number.Shortest
import PaymentGateway.Vault.Client

namespace PaymentGateway
namespace Vault

/-- Where the secret is: the store's address and token, the mount and the path
below it, and a namespace ("" for none). -/
structure Config where
  address : String
  token : String
  mount : String
  path : String
  scope : String
  deriving Repr, DecidableEq

/-- The configuration of an environment; `none` when the vault is not used. -/
def Config.ofEnvironment? (e : Environment) : Option Config :=
  let address := Text.trim (e.get "OPENBAO_ADDR")
  let token := e.get "OPENBAO_TOKEN"
  let path := Text.trimSlashes (Text.trim (e.get "OPENBAO_SECRET_PATH"))
  if address = "" || token = "" || path = "" then none
  else some
    { address := Text.trimEndSlashes address
      token
      mount := Text.trimSlashes (Text.trim (e.getOr "OPENBAO_MOUNT" "secret"))
      path
      scope := Text.trim (e.get "OPENBAO_NAMESPACE") }

/-- A value in a secret. -/
inductive Value where
  | text (s : String)
  | flag (b : Bool)
  | number (numeral : String)
  | double (x : Binary64)
  | duration (ns : Int)
  | nested
  deriving Repr, DecidableEq

/-- The text a value is taken over as; `none` when it is not. -/
def Value.text? : Value → Option String
  | text s => some s
  | flag b => some (if b then "true" else "false")
  | number n => some n
  | double x => some x.positional
  | duration ns => some (Duration.text ns)
  | nested => none

/-- The values of a secret that can be taken over. -/
def flatten (data : List (String × Value)) : List (String × String) :=
  data.filterMap fun (k, v) => v.text?.map fun t => (k, t)

/-- A value of a document; numbers keep their spelling. -/
def Value.ofJson : Json → Value
  | .string s => .text (Json.Spelling.value s)
  | .bool b => .flag b
  | .number n => .number (String.ofList n)
  | _ => .nested

/-- What the store answers: nothing, or a status and a body. -/
inductive Reply where
  | unreachable
  | answer (status : Int) (body : String)
  deriving Repr, DecidableEq

/-- A request to the store. -/
structure Request where
  method : String
  path : String
  token : String
  scope : String
  deriving Repr, DecidableEq

/-- The request for a secret. -/
def Request.of (c : Config) : Request where
  method := "GET"
  path := "/v1/" ++ c.mount ++ "/data/" ++ c.path
  token := c.token
  scope := c.scope

/-- Why no secret was fetched. -/
inductive Fault where
  | client
  | address
  | read (mount path : String)
  | notFound
  deriving Repr, DecidableEq

/-- How a fault is worded. -/
def Fault.text : Fault → String
  | client => "openbao config"
  | address => "create OpenBao client"
  | read mount path => "read OpenBao secret " ++ mount ++ "/" ++ path
  | notFound => "openbao secret path not found"

/-- The value of a member of an object, the last one of that name. -/
def member? (name : String) (ms : List (List Char × Json)) : Option Json :=
  (ms.reverse.find? fun m => Json.Spelling.value m.1 == name).map (·.2)

/-- Whether an answer holds something: data or warnings. -/
def holds (ms : List (List Char × Json)) : Bool :=
  (match member? "data" ms with
    | some (.object (_ :: _)) => true
    | _ => false) ||
  (match member? "warnings" ms with
    | some (.array (_ :: _)) => true
    | _ => false)

/-- The secret of an answer's members. Data that is missing or `null` means
that the secret is gone. -/
def secretOf (c : Config) (ms : List (List Char × Json)) : Except Fault (List (String × Value)) :=
  match member? "data" ms with
  | none | some .null => .error .notFound
  | some (.object outer) =>
    match member? "data" outer with
    | some (.object data) =>
      .ok (data.map fun (k, v) => (Json.Spelling.value k, Value.ofJson v))
    | some .null => .error .notFound
    | _ => .error (.read c.mount c.path)
  | some _ => .error (.read c.mount c.path)

/-- The secret that a reply holds. -/
def secrets (c : Config) : Reply → Except Fault (List (String × Value))
  | .unreachable => .error (.read c.mount c.path)
  | .answer status body =>
    if status = 404 ∧ body = "" then .error .notFound
    else if 400 ≤ status ∧ status ≠ 404 then .error (.read c.mount c.path)
    else match Json.parseText? body with
      | some (.object ms) =>
        if status = 404 ∧ !holds ms then .error .notFound else secretOf c ms
      | _ => .error (.read c.mount c.path)

/-- What a start with the vault does: the requests made, the environment after
it and the fault, if any. -/
structure Outcome where
  requests : List Request
  environment : Environment
  fault : Option Fault
  deriving Repr, DecidableEq

/-- Fetches the secrets that an environment asks for, from a store that answers
each request by `wire`. A store that cannot be reached has seen no request. -/
def bootstrap (e : Environment) (wire : Request → Reply) : Outcome :=
  match Config.ofEnvironment? e with
  | none => ⟨[], e, none⟩
  | some c =>
    if !Client.settingsValid e then ⟨[], e, some .client⟩
    else if !(Address.parse (Client.address e c.address)).isOk then ⟨[], e, some .address⟩
    else
      let reply := wire (Request.of c)
      let requests := if reply = .unreachable then [] else [Request.of c]
      match secrets c reply with
      | .error f => ⟨requests, e, some f⟩
      | .ok data => ⟨requests, e.setAll (flatten data), none⟩

end Vault
end PaymentGateway
