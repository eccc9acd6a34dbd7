/-
# Forms

A form is a list of named values. Its text joins `name=value` pairs by `&`,
names and values escaped, so no separator occurs inside a pair. Reading a form
splits at `&`, then at the first `=`, and undoes the escapes; an empty text is
a form without pairs.

Key definitions: `Form`, `Form.encode`, `Form.decode?`.
-/
import PaymentGateway.Text.Blank
import PaymentGateway.Url.Percent

namespace PaymentGateway

/-- Named values in order. -/
abbrev Form := List (String × String)

namespace Form

/-- The media type of an encoded form. -/
def mediaType : String := "application/x-www-form-urlencoded"

/-- One pair in escaped form. -/
def encodePair (p : String × String) : List Char :=
  Percent.escape p.1 ++ '=' :: Percent.escape p.2

/-- The characters of a form. -/
def write : Form → List Char
  | [] => []
  | [p] => encodePair p
  | p :: q :: rest => encodePair p ++ '&' :: write (q :: rest)

/-- The text of a form. -/
def encode (f : Form) : String := String.ofList (write f)

/-- The pair a piece between separators stands for. -/
def decodePair? (piece : List Char) : Option (String × String) := do
  let (name, value) := Text.cut '=' piece
  return (← Percent.unescapeForm? name, ← Percent.unescapeForm? (value.getD []))

/-- The form a text stands for. -/
def decode? (s : String) : Option Form :=
  if s = "" then some []
  else (Text.split '&' s.toList).mapM decodePair?

end Form
end PaymentGateway
