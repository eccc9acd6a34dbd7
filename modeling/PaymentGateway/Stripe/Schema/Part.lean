/-
# Parts of objects

Members that several kinds of objects have in common: addresses, wallets,
codes to be scanned, requirements.

Key definitions: `Schema.address`, `Schema.wallet`, `Schema.billingDetails`,
`Schema.requirements`.
-/
import PaymentGateway.Stripe.Kind

namespace PaymentGateway
namespace Stripe
namespace Schema

/-- A postal address. -/
def address : Members :=
  [(.text, ["city", "country", "line1", "line2", "postal_code", "state"])]

/-- A postal address with a town. -/
def townAddress : Members :=
  [(.text, ["city", "country", "line1", "line2", "postal_code", "state", "town"])]

/-- Where goods go. -/
def shipping : Members :=
  [(.text, ["carrier", "name", "phone", "tracking_number"]),
    (.object address, ["address"])]

/-- A plan of instalments. -/
def installmentPlan : Members :=
  [(.text, ["interval", "type"]),
    (.integer, ["count"])]

/-- What was checked of a card. -/
def cardChecks : Members :=
  [(.text, ["address_line1_check", "address_postal_code_check", "cvc_check"])]

/-- Who owns a wallet. -/
def walletOwner : Members :=
  [(.text, ["email", "name"]),
    (.object address, ["billing_address", "shipping_address"])]

/-- The wallet a card is kept in. -/
def wallet : Members :=
  [(.text, ["dynamic_last4", "type"]),
    (.object [], ["amex_express_checkout", "apple_pay", "google_pay", "link", "samsung_pay"]),
    (.object walletOwner, ["masterpass", "visa_checkout"])]

/-- What a card reader prints. -/
def receipt : Members :=
  [(.text,
      ["account_type", "application_cryptogram", "application_preferred_name",
        "authorization_code", "authorization_response_code", "cardholder_verification_method",
        "dedicated_file_name", "terminal_verification_results", "transaction_status_information"])]

/-- What a customer is shown to pay. -/
def presentment : Members :=
  [(.text, ["presentment_currency"]),
    (.integer, ["presentment_amount"])]

/-- Who is billed. -/
def billingDetails : Members :=
  [(.text, ["email", "name", "phone", "tax_id"]),
    (.object address, ["address"])]

/-- The card behind a wallet. -/
def fundingCard : Members :=
  [(.text, ["brand", "country", "funding", "last4"]),
    (.integer, ["exp_month", "exp_year"])]

/-- When and where terms were accepted. -/
def acceptance : Members :=
  [(.text, ["ip", "user_agent"]),
    (.integer, ["date"])]

/-- A day of the calendar. -/
def calendarDay : Members :=
  [(.integer, ["day", "month", "year"])]

/-- The networks of a card. -/
def cardNetworks : Members :=
  [(.text, ["preferred"]),
    (.list .text, ["available"])]

/-- When a payment was stored without a connection. -/
def offlineStorage : Members :=
  [(.text, ["type"]),
    (.integer, ["stored_at"])]

/-- A code to be scanned. -/
def qrCode : Members :=
  [(.text, ["data", "hosted_instructions_url", "image_url_png", "image_url_svg"])]

/-- Whether payment methods are chosen by the service. -/
def automaticMethods : Members :=
  [(.text, ["allow_redirects"]),
    (.flag, ["enabled"])]

/-- The configuration a payment method comes from. -/
def configurationDetails : Members :=
  [(.text, ["id", "parent"])]

/-- How a bank account is connected. -/
def bankConnection : Members :=
  [(.text, ["return_url"]),
    (.list .text, ["permissions", "prefetch"]),
    (.object [(.list .text, ["account_subcategories"])], ["filters"])]

/-- How a bank account is verified by small amounts. -/
def microdeposits : Members :=
  [(.text, ["hosted_verification_url", "microdeposit_type"]),
    (.integer, ["arrival_date"])]

/-- A wallet that is opened, or a code to be scanned. -/
def walletRedirect : Members :=
  [(.text, ["hosted_instructions_url", "mobile_auth_url"]),
    (.object [(.text, ["image_url_png", "image_url_svg"]), (.integer, ["expires_at"])],
      ["qr_code"])]

/-- Where a customer is sent. -/
def redirectUrl : Members :=
  [(.text, ["return_url", "url"])]

/-- How the reference of a mandate starts. -/
def referencePrefix : Members :=
  [(.text, ["reference_prefix"])]

/-- How a card was presented. -/
def cardPresentDetails : Members :=
  [(.text,
      ["brand", "brand_product", "cardholder_name", "country", "description", "emv_auth_data",
        "fingerprint", "funding", "generated_card", "issuer", "last4", "network",
        "network_transaction_id", "read_method"]),
    (.integer, ["amount_authorized", "capture_before", "exp_month", "exp_year"]),
    (.flag, ["incremental_authorization_supported", "overcapture_supported"]),
    (.list .text, ["preferred_locales"]),
    (.object offlineStorage, ["offline"]),
    (.object receipt, ["receipt"]),
    (.object [(.text, ["type"])], ["wallet"])]

/-- What is still to be told. -/
def requirements : Members :=
  [(.text, ["disabled_reason"]),
    (.integer, ["current_deadline"]),
    (.list .text, ["currently_due", "eventually_due", "past_due", "pending_verification"]),
    (.list (.object [(.list .text, ["alternative_fields_due", "original_fields_due"])]),
      ["alternatives"]),
    (.list (.object [(.text, ["code", "reason", "requirement"])]), ["errors"])]

/-- What is still to be told of a person. -/
def personRequirements : Members :=
  [(.list .text, ["currently_due", "eventually_due", "past_due", "pending_verification"]),
    (.list (.object [(.list .text, ["alternative_fields_due", "original_fields_due"])]),
      ["alternatives"]),
    (.list (.object [(.text, ["code", "reason", "requirement"])]), ["errors"])]

/-- A document that proves an identity. -/
def identityDocument : Members :=
  [(.text, ["details", "details_code"]),
    (.resource "file", ["back", "front"])]

/-- Who is liable. -/
def liability : Members :=
  [(.text, ["type"]),
    (.resource "account", ["account"])]

end Schema
end Stripe
end PaymentGateway
