/-
# Billing

What is known of subscriptions and invoices, and of the prices, products and
tax rates they refer to.

Key definitions: `Schema.subscription`, `Schema.subscriptionItem`,
`Schema.price`, `Schema.product`, `Schema.taxCode`, `Schema.taxRate`,
`Schema.invoice`.
-/
import PaymentGateway.Stripe.Schema.Part

namespace PaymentGateway
namespace Stripe
namespace Schema

/-- A subscription. -/
def subscription : Members :=
  [(.text, ["collection_method", "currency", "description", "id", "object", "status"]),
    (.integer,
      ["billing_cycle_anchor", "cancel_at", "canceled_at", "created", "days_until_due", "ended_at",
        "next_pending_invoice_item_invoice", "start_date", "trial_end", "trial_start"]),
    (.double, ["application_fee_percent"]),
    (.flag, ["cancel_at_period_end", "livemode"]),
    (.labelled .text, ["metadata"]),
    (.resource "application", ["application"]),
    (.resource "customer", ["customer"]),
    (.resource "payment_method", ["default_payment_method"]),
    (.resource "invoice", ["latest_invoice"]),
    (.resource "account", ["on_behalf_of"]),
    (.resource "setup_intent", ["pending_setup_intent"]),
    (.resource "test_clock", ["test_clock"]),
    (.list (.resource "tax_rate"), ["default_tax_rates"]),
    (.list (.resource "discount"), ["discounts"]),
    (.page (.resource "subscription_item"), ["items"]),
    (.oneOf ["account", "bank_account", "card", "source"], ["default_source"]),
    (.object
        [(.text, ["disabled_reason"]),
          (.flag, ["enabled"]),
          (.object liability, ["liability"])],
      ["automatic_tax"]),
    (.object [(.integer, ["day_of_month", "hour", "minute", "month", "second"])],
      ["billing_cycle_anchor_config"]),
    (.object [(.integer, ["amount_gte"]), (.flag, ["reset_billing_cycle_anchor"])],
      ["billing_thresholds"]),
    (.object [(.text, ["comment", "feedback", "reason"])], ["cancellation_details"]),
    (.object
        [(.list (.resource "tax_id"), ["account_tax_ids"]),
          (.object liability, ["issuer"])],
      ["invoice_settings"]),
    (.object [(.text, ["behavior"]), (.integer, ["resumes_at"])], ["pause_collection"]),
    (.object
        [(.text, ["save_default_payment_method"]),
          (.list .text, ["payment_method_types"])],
      ["payment_settings"]),
    (.object [(.text, ["interval"]), (.integer, ["interval_count"])],
      ["pending_invoice_item_interval"]),
    (.object [(.double, ["amount_percent"]), (.resource "account", ["destination"])],
      ["transfer_data"]),
    (.object [(.object [(.text, ["missing_payment_method"])], ["end_behavior"])],
      ["trial_settings"])]

/-- An item of a subscription. -/
def subscriptionItem : Members :=
  [(.text, ["id", "object", "subscription"]),
    (.integer, ["created", "current_period_end", "current_period_start", "quantity"]),
    (.flag, ["deleted"]),
    (.labelled .text, ["metadata"]),
    (.resource "price", ["price"]),
    (.list (.resource "discount"), ["discounts"]),
    (.list (.resource "tax_rate"), ["tax_rates"]),
    (.object [(.integer, ["usage_gte"])], ["billing_thresholds"])]

/-- A price. -/
def price : Members :=
  [(.text,
      ["billing_scheme", "currency", "id", "lookup_key", "nickname", "object", "tax_behavior",
        "tiers_mode", "type"]),
    (.integer, ["created", "unit_amount"]),
    (.flag, ["active", "deleted", "livemode"]),
    (.labelled .text, ["metadata"]),
    (.anything, ["unit_amount_decimal"]),
    (.resource "product", ["product"]),
    (.object [(.integer, ["maximum", "minimum", "preset"])], ["custom_unit_amount"]),
    (.object
        [(.text, ["interval", "meter", "usage_type"]),
          (.integer, ["interval_count", "trial_period_days"])],
      ["recurring"]),
    (.object [(.text, ["round"]), (.integer, ["divide_by"])], ["transform_quantity"])]

/-- A product. -/
def product : Members :=
  [(.text,
      ["description", "id", "name", "object", "statement_descriptor", "type", "unit_label",
        "url"]),
    (.integer, ["created", "updated"]),
    (.flag, ["active", "deleted", "livemode", "shippable"]),
    (.list .text, ["images"]),
    (.labelled .text, ["metadata"]),
    (.resource "price", ["default_price"]),
    (.resource "tax_code", ["tax_code"]),
    (.object [(.double, ["height", "length", "weight", "width"])], ["package_dimensions"]),
    (.list (.object [(.text, ["name"])]), ["marketing_features"])]

/-- A tax code. -/
def taxCode : Members :=
  [(.text, ["description", "id", "name", "object"])]

/-- A tax rate. -/
def taxRate : Members :=
  [(.text,
      ["country", "description", "display_name", "id", "jurisdiction", "jurisdiction_level",
        "object", "rate_type", "state", "tax_type"]),
    (.integer, ["created"]),
    (.double, ["effective_percentage", "percentage"]),
    (.flag, ["active", "inclusive", "livemode"]),
    (.labelled .text, ["metadata"]),
    (.object [(.text, ["currency"]), (.integer, ["amount"])], ["flat_amount"])]

/-- An invoice. -/
def invoice : Members :=
  [(.text,
      ["account_country", "account_name", "billing_reason", "collection_method", "currency",
        "customer_email", "customer_name", "customer_phone", "customer_tax_exempt", "description",
        "footer", "hosted_invoice_url", "id", "invoice_pdf", "number", "object", "receipt_number",
        "statement_descriptor", "status"]),
    (.integer,
      ["amount_due", "amount_overpaid", "amount_paid", "amount_remaining", "amount_shipping",
        "attempt_count", "created", "due_date", "effective_at", "ending_balance",
        "next_payment_attempt", "period_end", "period_start", "post_payment_credit_notes_amount",
        "pre_payment_credit_notes_amount", "starting_balance", "subtotal",
        "subtotal_excluding_tax", "total", "total_excluding_tax", "webhooks_delivered_at"]),
    (.flag, ["attempted", "auto_advance", "deleted", "livemode"]),
    (.labelled .text, ["metadata"]),
    (.failure, ["last_finalization_error"]),
    (.resource "application", ["application"]),
    (.resource "customer", ["customer"]),
    (.resource "payment_method", ["default_payment_method"]),
    (.resource "account", ["on_behalf_of"]),
    (.resource "test_clock", ["test_clock"]),
    (.list (.resource "tax_id"), ["account_tax_ids"]),
    (.list (.resource "tax_rate"), ["default_tax_rates"]),
    (.list (.resource "discount"), ["discounts"]),
    (.oneOf ["account", "bank_account", "card", "source"], ["default_source"]),
    (.object
        [(.text, ["disabled_reason", "provider", "status"]),
          (.flag, ["enabled"]),
          (.object liability, ["liability"])],
      ["automatic_tax"]),
    (.object address, ["customer_address"]),
    (.object shipping, ["customer_shipping"]),
    (.object liability, ["issuer"]),
    (.object
        [(.integer, ["finalized_at", "marked_uncollectible_at", "paid_at", "voided_at"])],
      ["status_transitions"]),
    (.list (.object [(.text, ["name", "value"])]), ["custom_fields"]),
    (.list (.object [(.text, ["type", "value"])]), ["customer_tax_ids"])]

end Schema
end Stripe
end PaymentGateway
