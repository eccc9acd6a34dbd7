/-
# Clean paths

Of the segments of a path an empty one and `.` say nothing, and `..` takes back
the segment before it, if there is one. Cleaning writes the path that is left,
from the root on; a slash at its end stays. Escapes are not looked into: an
escaped dot is no dot.

Key definitions: `Path.segments`, `Path.clean`.
-/
import PaymentGateway.Text.Blank

namespace PaymentGateway
namespace Path

/-- The segments that are left, the last one first, after one more segment. -/
def keep (kept : List (List Char)) (segment : List Char) : List (List Char) :=
  if segment = [] ∨ segment = ['.'] then kept
  else if segment = ['.', '.'] then kept.tail
  else segment :: kept

/-- The segments of a path that are left. -/
def segments (path : List Char) : List (List Char) :=
  ((Text.split '/' path).foldl keep []).reverse

/-- The path from the root to the segments, perhaps with a slash after the last
one. -/
def write (segments : List (List Char)) (slash : Bool) : List Char :=
  '/' :: ['/'].intercalate segments ++ (if slash ∧ segments ≠ [] then ['/'] else [])

/-- A path without the segments that say nothing or are taken back. -/
def clean (path : List Char) : List Char := write (segments path) (path.getLast? = some '/')

end Path
end PaymentGateway
