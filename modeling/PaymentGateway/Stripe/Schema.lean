/-
# The resources

The members of each resource that can occur in a reply, by the name of the
resource, and those of a failure. The members of a failure and of a page are
listed in the order in which they are written; those of all other objects are
written in the order of their names.

Key definitions: `Schema.resource`, `Schema.failure`, `Schema.page`.
-/
import PaymentGateway.Stripe.Schema.Billing
import PaymentGateway.Stripe.Schema.Charge
import PaymentGateway.Stripe.Schema.Intent
import PaymentGateway.Stripe.Schema.Method
import PaymentGateway.Stripe.Schema.Party

namespace PaymentGateway
namespace Stripe
namespace Schema

/-- The members of a resource; none for a name that is not known. -/
def resource : String → Members
  | "account" => account
  | "application" => application
  | "application_fee" => applicationFee
  | "balance_transaction" => balanceTransaction
  | "bank_account" => bankAccount
  | "card" => card
  | "charge" => charge
  | "charge_outcome_rule" => chargeOutcomeRule
  | "coupon" => coupon
  | "customer" => customer
  | "discount" => discount
  | "fee_refund" => feeRefund
  | "file" => file
  | "file_link" => fileLink
  | "invoice" => invoice
  | "mandate" => mandate
  | "payment_intent" => paymentIntent
  | "payment_method" => paymentMethod
  | "person" => person
  | "price" => price
  | "product" => product
  | "promotion_code" => promotionCode
  | "refund" => refund
  | "review" => review
  | "setup_attempt" => setupAttempt
  | "setup_intent" => setupIntent
  | "source" => source
  | "subscription" => subscription
  | "subscription_item" => subscriptionItem
  | "tax_code" => taxCode
  | "tax_id" => taxId
  | "tax_rate" => taxRate
  | "test_clock" => testClock
  | "transfer" => transfer
  | "transfer_reversal" => transferReversal
  | _ => []

/-- The types that a source of payment can have. -/
def sourceTypes : List String := ["account", "bank_account", "card", "source"]

/-- What every resource tells of itself. -/
def identity : Members :=
  [(.text, ["id", "object"]),
    (.flag, ["deleted"])]

/-- A failure. -/
def failure : Members :=
  [(.text, ["charge", "code", "decline_code", "doc_url"]),
    (.integer, ["status"]),
    (.text, ["message", "developer_message", "param"]),
    (.resource "payment_intent", ["payment_intent"]),
    (.resource "payment_method", ["payment_method"]),
    (.text, ["payment_method_type", "request_id", "request_log_url"]),
    (.resource "setup_intent", ["setup_intent"]),
    (.oneOf sourceTypes, ["source"]),
    (.text, ["type", "error", "error_description"])]

/-- The members of a failure that are written even when they are empty. -/
def alwaysWritten : List String := ["message", "type"]

/-- A page of a list, given the kind of its items. -/
def page (item : Kind) : Members :=
  [(.flag, ["has_more"]),
    (.count, ["total_count"]),
    (.text, ["url"]),
    (.list item, ["data"])]

end Schema
end Stripe
end PaymentGateway
