/-
# Redirects

A resource that has moved is answered with its new address. The field that
names the address is ASCII, so bytes of other characters are escaped in it; a
page that links to the address goes to those who asked for a page.

Key definitions: `Http.Redirect.location`, `Http.Redirect.page`,
`Http.Redirect.response`.
-/
import PaymentGateway.Http.Message
import PaymentGateway.Text.Utf8

namespace PaymentGateway
namespace Http
namespace Redirect

/-- A character of an address as it stands in a header field. -/
def locationChar (c : Char) : List Char :=
  if c.toNat < 0x80 then [c]
  else (Text.Utf8.encodeChar c).flatMap fun b => '%' :: Text.Hex.padded 2 b.toNat

/-- An address as it stands in a header field. -/
def location (url : String) : String := String.ofList (url.toList.flatMap locationChar)

/-- A character as it stands in a page. -/
def pageChar (c : Char) : List Char :=
  match c with
  | '&' => "&amp;".toList
  | '<' => "&lt;".toList
  | '>' => "&gt;".toList
  | '"' => "&#34;".toList
  | '\'' => "&#39;".toList
  | c => [c]

/-- The page that links to an address. -/
def page (url : String) : String :=
  "<a href=\"" ++ String.ofList (url.toList.flatMap pageChar) ++ "\">Moved Permanently</a>.\n\n"

/-- The response that sends a request to another address for good. Only GET
gets the page, and HEAD is told what it would be. -/
def response (method url : String) : Response :=
  ⟨301,
    ("Location", location url) ::
      (if method = "GET" ∨ method = "HEAD" then [("Content-Type", "text/html; charset=utf-8")]
        else []),
    if method = "GET" then page url else ""⟩

end Redirect
end Http
end PaymentGateway
