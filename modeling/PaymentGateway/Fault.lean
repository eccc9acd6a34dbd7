/-
# Faults

What can go wrong, as a tree: a fault may carry the fault that caused it, and
several faults may be joined into one. A fault's text is its own message or
else its cause's; what a fault is, is asked of the whole tree, `Fault.nodes`,
from the outside in and from left to right.

Key definitions: `Fault`, `Fault.text`, `Fault.nodes`, `Fault.cause?`, and the
questions `Fault.invalid?`, `Fault.isNotFound`, `Fault.isAlreadyAttached`,
`Fault.isCanceled`, `Fault.call?`, `Fault.remote?`.
-/
namespace PaymentGateway

/-- A fault: a plain text, a bad request field, an unknown client secret, a
payment method that is bound already, a cancelled wait, a failure that the
remote service reports, a failed remote call of the handshake, a fault with
words around it, or several at once. -/
inductive Fault where
  | plain (message : String)
  | invalid (message : String)
  | notFound
  | alreadyAttached
  | canceled
  | remote (op code message : String) (status : Int) (cause : Option Fault)
  | call (op : String) (cause : Option Fault)
  | wrapped (before : String) (cause : Fault) (after : String)
  | joined (causes : List Fault)
  deriving Inhabited

namespace Fault

mutual

/-- The text of a fault. -/
def text : Fault → String
  | plain message => message
  | invalid message => message
  | notFound => "PaymentIntent not found"
  | alreadyAttached => "payment method already attached"
  | canceled => "context canceled"
  | remote op _ message _ none => if message = "" then op ++ " failed" else message
  | remote _ _ message _ (some cause) => if message = "" then cause.text else message
  | call op none => op ++ " failed"
  | call _ (some cause) => cause.text
  | wrapped before cause after => before ++ cause.text ++ after
  | joined causes => "\n".intercalate (texts causes)

/-- The texts of several faults. -/
def texts : List Fault → List String
  | [] => []
  | f :: fs => f.text :: texts fs

end

mutual

/-- A fault and all faults below it, each before its causes. -/
def nodes : Fault → List Fault
  | remote op code message status (some cause) =>
    remote op code message status (some cause) :: cause.nodes
  | call op (some cause) => call op (some cause) :: cause.nodes
  | wrapped before cause after => wrapped before cause after :: cause.nodes
  | joined causes => joined causes :: nodesOfAll causes
  | f => [f]

/-- The nodes of several faults, in order. -/
def nodesOfAll : List Fault → List Fault
  | [] => []
  | f :: fs => f.nodes ++ nodesOfAll fs

end

/-- The single fault right below, if there is one. -/
def cause? : Fault → Option Fault
  | remote _ _ _ _ cause => cause
  | call _ cause => cause
  | wrapped _ cause _ => some cause
  | _ => none

/-- What the remote service said about a failure. -/
structure Remote where
  op : String
  code : String
  message : String
  status : Int
  deriving Repr, DecidableEq

/-- The message of the first bad-field fault in the tree. -/
def invalid? (f : Fault) : Option String :=
  f.nodes.findSome? fun
    | invalid message => some message
    | _ => none

/-- Whether an unknown client secret is part of the fault. -/
def isNotFound (f : Fault) : Bool :=
  f.nodes.any fun
    | notFound => true
    | _ => false

/-- Whether a payment method that is bound already is part of the fault. -/
def isAlreadyAttached (f : Fault) : Bool :=
  f.nodes.any fun
    | alreadyAttached => true
    | _ => false

/-- Whether a cancelled wait is part of the fault. -/
def isCanceled (f : Fault) : Bool :=
  f.nodes.any fun
    | canceled => true
    | _ => false

/-- The first failed remote call in the tree: its operation and its text. -/
def call? (f : Fault) : Option (String × String) :=
  f.nodes.findSome? fun
    | call op cause => some (op, (call op cause).text)
    | _ => none

/-- The first report of the remote service in the tree. -/
def remote? (f : Fault) : Option Remote :=
  f.nodes.findSome? fun
    | remote op code message status _ => some ⟨op, code, message, status⟩
    | _ => none

end Fault
end PaymentGateway
