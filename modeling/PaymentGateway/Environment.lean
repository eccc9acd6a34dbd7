/-
# The environment

Named values. A variable that is empty counts as not set. A name that is empty
or contains an equals sign, and a NUL anywhere, cannot be set; setting them
changes nothing.

Key definitions: `Environment`, `Environment.get`, `Environment.set`,
`Environment.changes`.
-/
namespace PaymentGateway

/-- Variables and their values; the first pair with a name counts. -/
abbrev Environment := List (String × String)

namespace Environment

/-- The value of a variable, "" when it is not set. -/
def get (e : Environment) (name : String) : String := (e.lookup name).getD ""

/-- The value of a variable, or a default when it is empty. -/
def getOr (e : Environment) (name fallback : String) : String :=
  if e.get name = "" then fallback else e.get name

/-- Whether a variable can have this name and value. -/
def allows (name value : String) : Bool :=
  name ≠ "" && !name.toList.contains '=' && !name.toList.contains '\x00' &&
    !value.toList.contains '\x00'

/-- The environment with a variable set, if that can be done. -/
def set (e : Environment) (name value : String) : Environment :=
  if allows name value then (name, value) :: e.filter (·.1 ≠ name) else e

/-- The environment with several variables set, in order. -/
def setAll (e : Environment) (vs : List (String × String)) : Environment :=
  vs.foldl (fun e v => e.set v.1 v.2) e

/-- The variables that are new in `after`, or have another value there. -/
def changes (before after : Environment) : Environment :=
  after.filter fun v => before.lookup v.1 ≠ some v.2

end Environment
end PaymentGateway
