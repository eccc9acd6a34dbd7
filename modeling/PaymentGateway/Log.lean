/-
# Log lines

A log entry is one write that ends with a newline. A text that ends with one
is not given a second, so the entry's text is the text without one newline at
its end.

Key definitions: `Log.line`, `Log.lines`.
-/
import PaymentGateway.Text.Blank

namespace PaymentGateway
namespace Log

/-- The text of the entry that logs `s`. -/
def line (s : String) : String :=
  match s.toList.reverse with
  | '\n' :: rest => String.ofList rest.reverse
  | _ => s

/-- The lines an entry shows as when it stands behind a mark and its text has
newlines inside. -/
def lines (mark s : String) : List String :=
  (Text.split '\n' (mark ++ line s).toList).map String.ofList

end Log
end PaymentGateway
