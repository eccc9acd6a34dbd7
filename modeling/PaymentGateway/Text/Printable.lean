/-
# Printable characters

A character is printable if the edition of Unicode says so.

Key definition: `Text.isPrintable`.
-/
import PaymentGateway.Text.Unicode

namespace PaymentGateway
namespace Text

/-- Whether a character shows as itself when a text is quoted. -/
def isPrintable [Unicode] (c : Char) : Bool :=
  Unicode.printableRanges.any fun (lo, hi) => lo ≤ c.toNat && c.toNat ≤ hi

end Text
end PaymentGateway
