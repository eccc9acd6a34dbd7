/-
# Parties

What is known of customers and accounts, and of discounts, tax numbers, persons
and files that belong to them.

Key definitions: `Schema.customer`, `Schema.discount`, `Schema.coupon`,
`Schema.promotionCode`, `Schema.taxId`, `Schema.testClock`, `Schema.account`,
`Schema.person`, `Schema.file`, `Schema.fileLink`.
-/
import PaymentGateway.Stripe.Schema.Part

namespace PaymentGateway
namespace Stripe
namespace Schema

/-- A customer. -/
def customer : Members :=
  [(.text,
      ["currency", "description", "email", "id", "invoice_prefix", "name", "object", "phone",
        "tax_exempt"]),
    (.integer, ["balance", "created", "next_invoice_sequence"]),
    (.flag, ["deleted", "delinquent", "livemode"]),
    (.list .text, ["preferred_locales"]),
    (.labelled .text, ["metadata"]),
    (.labelled .integer, ["invoice_credit_balance"]),
    (.resource "discount", ["discount"]),
    (.resource "test_clock", ["test_clock"]),
    (.page (.oneOf ["account", "bank_account", "card", "source"]), ["sources"]),
    (.page (.resource "subscription"), ["subscriptions"]),
    (.page (.resource "tax_id"), ["tax_ids"]),
    (.oneOf ["account", "bank_account", "card", "source"], ["default_source"]),
    (.object address, ["address"]),
    (.object
        [(.text, ["customer", "object"]),
          (.flag, ["livemode"]),
          (.labelled .integer, ["available"]),
          (.object
              [(.text, ["reconciliation_mode"]),
                (.flag, ["using_merchant_default"])],
            ["settings"])],
      ["cash_balance"]),
    (.object
        [(.text, ["footer"]),
          (.resource "payment_method", ["default_payment_method"]),
          (.object [(.text, ["amount_tax_display", "template"])], ["rendering_options"]),
          (.list (.object [(.text, ["name", "value"])]), ["custom_fields"])],
      ["invoice_settings"]),
    (.object shipping, ["shipping"]),
    (.object
        [(.text, ["automatic_tax", "ip_address", "provider"]),
          (.object [(.text, ["country", "source", "state"])], ["location"])],
      ["tax"])]

/-- A discount. -/
def discount : Members :=
  [(.text,
      ["checkout_session", "id", "invoice", "invoice_item", "object", "subscription",
        "subscription_item"]),
    (.integer, ["end", "start"]),
    (.flag, ["deleted"]),
    (.resource "coupon", ["coupon"]),
    (.resource "customer", ["customer"]),
    (.resource "promotion_code", ["promotion_code"])]

/-- A coupon. -/
def coupon : Members :=
  [(.text, ["currency", "duration", "id", "name", "object"]),
    (.integer,
      ["amount_off", "created", "duration_in_months", "max_redemptions", "redeem_by",
        "times_redeemed"]),
    (.double, ["percent_off"]),
    (.flag, ["deleted", "livemode", "valid"]),
    (.labelled .text, ["metadata"]),
    (.object [(.list .text, ["products"])], ["applies_to"]),
    (.labelled (.object [(.integer, ["amount_off"])]), ["currency_options"])]

/-- A code that stands for a coupon. -/
def promotionCode : Members :=
  [(.text, ["code", "id", "object"]),
    (.integer, ["created", "expires_at", "max_redemptions", "times_redeemed"]),
    (.flag, ["active", "livemode"]),
    (.labelled .text, ["metadata"]),
    (.resource "coupon", ["coupon"]),
    (.resource "customer", ["customer"]),
    (.object
        [(.text, ["minimum_amount_currency"]),
          (.integer, ["minimum_amount"]),
          (.flag, ["first_time_transaction"]),
          (.labelled (.object [(.integer, ["minimum_amount"])]), ["currency_options"])],
      ["restrictions"])]

/-- A tax number. -/
def taxId : Members :=
  [(.text, ["country", "id", "object", "type", "value"]),
    (.integer, ["created"]),
    (.flag, ["deleted", "livemode"]),
    (.resource "customer", ["customer"]),
    (.object
        [(.text, ["type"]),
          (.resource "account", ["account"]),
          (.resource "application", ["application"]),
          (.resource "customer", ["customer"])],
      ["owner"]),
    (.object [(.text, ["status", "verified_address", "verified_name"])], ["verification"])]

/-- A clock for tests. -/
def testClock : Members :=
  [(.text, ["id", "name", "object", "status"]),
    (.integer, ["created", "deletes_after", "frozen_time"]),
    (.flag, ["deleted", "livemode"]),
    (.object [(.object [(.integer, ["target_frozen_time"])], ["advancing"])], ["status_details"])]

/-- The business of an account. -/
def businessProfile : Members :=
  [(.text,
      ["mcc", "name", "product_description", "support_email", "support_phone", "support_url",
        "url"]),
    (.integer, ["estimated_worker_count"]),
    (.list .text, ["minority_owned_business_designation"]),
    (.object [(.text, ["currency", "fiscal_year_end"]), (.integer, ["amount"])],
      ["annual_revenue"]),
    (.object [(.text, ["currency"]), (.integer, ["amount"])], ["monthly_estimated_revenue"]),
    (.object address, ["support_address"])]

/-- What an account may do. -/
def capabilities : Members :=
  [(.text,
      ["acss_debit_payments", "affirm_payments", "afterpay_clearpay_payments", "alma_payments",
        "amazon_pay_payments", "au_becs_debit_payments", "bacs_debit_payments",
        "bancontact_payments", "bank_transfer_payments", "billie_payments", "blik_payments",
        "boleto_payments", "card_issuing", "card_payments", "cartes_bancaires_payments",
        "cashapp_payments", "crypto_payments", "eps_payments", "fpx_payments",
        "gb_bank_transfer_payments", "giropay_payments", "grabpay_payments", "ideal_payments",
        "india_international_payments", "jcb_payments", "jp_bank_transfer_payments",
        "kakao_pay_payments", "klarna_payments", "konbini_payments", "kr_card_payments",
        "legacy_payments", "link_payments", "mobilepay_payments", "multibanco_payments",
        "mx_bank_transfer_payments", "naver_pay_payments", "nz_bank_account_becs_debit_payments",
        "oxxo_payments", "p24_payments", "pay_by_bank_payments", "payco_payments",
        "paynow_payments", "pix_payments", "promptpay_payments", "revolut_pay_payments",
        "samsung_pay_payments", "satispay_payments", "sepa_bank_transfer_payments",
        "sepa_debit_payments", "sofort_payments", "swish_payments", "tax_reporting_us_1099_k",
        "tax_reporting_us_1099_misc", "transfers", "treasury", "twint_payments",
        "us_bank_account_ach_payments", "us_bank_transfer_payments", "zip_payments"])]

/-- The company of an account. -/
def company : Members :=
  [(.text,
      ["export_license_id", "export_purpose_code", "name", "name_kana", "name_kanji",
        "ownership_exemption_reason", "phone", "structure", "tax_id_registrar"]),
    (.flag,
      ["directors_provided", "executives_provided", "owners_provided", "tax_id_provided",
        "vat_id_provided"]),
    (.object address, ["address"]),
    (.object townAddress, ["address_kana", "address_kanji"]),
    (.object acceptance,
      ["directorship_declaration", "ownership_declaration", "representative_declaration"]),
    (.object calendarDay, ["registration_date"]),
    (.object [(.object identityDocument, ["document"])], ["verification"])]

/-- The settings of an account. -/
def accountSettings : Members :=
  [(.object [(.text, ["display_name", "service_user_number"])], ["bacs_debit_payments"]),
    (.object
        [(.text, ["primary_color", "secondary_color"]),
          (.resource "file", ["icon", "logo"])],
      ["branding"]),
    (.object [(.object acceptance, ["tos_acceptance"])], ["card_issuing", "treasury"]),
    (.object
        [(.text,
            ["statement_descriptor_prefix", "statement_descriptor_prefix_kana",
              "statement_descriptor_prefix_kanji"]),
          (.object [(.flag, ["avs_failure", "cvc_failure"])], ["decline_on"])],
      ["card_payments"]),
    (.object [(.text, ["display_name", "timezone"])], ["dashboard"]),
    (.object
        [(.text, ["hosted_payment_method_save"]),
          (.list (.resource "tax_id"), ["default_account_tax_ids"])],
      ["invoices"]),
    (.object
        [(.text,
            ["statement_descriptor", "statement_descriptor_kana", "statement_descriptor_kanji"])],
      ["payments"]),
    (.object
        [(.text, ["statement_descriptor"]),
          (.flag, ["debit_negative_balances"]),
          (.object
              [(.text, ["interval", "weekly_anchor"]),
                (.integer, ["delay_days", "monthly_anchor"]),
                (.list .text, ["weekly_payout_days"]),
                (.list .integer, ["monthly_payout_days"])],
            ["schedule"])],
      ["payouts"]),
    (.object [(.text, ["creditor_id"])], ["sepa_debit_payments"])]

/-- An account. -/
def account : Members :=
  [(.text, ["business_type", "country", "default_currency", "email", "id", "object", "type"]),
    (.integer, ["created"]),
    (.flag, ["charges_enabled", "deleted", "details_submitted", "payouts_enabled"]),
    (.labelled .text, ["metadata"]),
    (.resource "person", ["individual"]),
    (.page (.oneOf ["bank_account", "card"]), ["external_accounts"]),
    (.object businessProfile, ["business_profile"]),
    (.object capabilities, ["capabilities"]),
    (.object company, ["company"]),
    (.object
        [(.text, ["requirement_collection", "type"]),
          (.flag, ["is_controller"]),
          (.object [(.text, ["payer"])], ["fees"]),
          (.object [(.text, ["payments"])], ["losses"]),
          (.object [(.text, ["type"])], ["stripe_dashboard"])],
      ["controller"]),
    (.object requirements, ["future_requirements", "requirements"]),
    (.object [(.text, ["payments_pricing"])], ["groups"]),
    (.object accountSettings, ["settings"]),
    (.object [(.text, ["ip", "service_agreement", "user_agent"]), (.integer, ["date"])],
      ["tos_acceptance"])]

/-- A person. -/
def person : Members :=
  [(.text,
      ["account", "email", "first_name", "first_name_kana", "first_name_kanji", "gender", "id",
        "last_name", "last_name_kana", "last_name_kanji", "maiden_name", "nationality", "object",
        "phone", "political_exposure"]),
    (.integer, ["created"]),
    (.flag,
      ["deleted", "id_number_provided", "id_number_secondary_provided", "ssn_last_4_provided"]),
    (.list .text, ["full_name_aliases"]),
    (.labelled .text, ["metadata"]),
    (.object [(.object acceptance, ["account"])], ["additional_tos_acceptances"]),
    (.object address, ["address", "registered_address"]),
    (.object townAddress, ["address_kana", "address_kanji"]),
    (.object calendarDay, ["dob"]),
    (.object personRequirements, ["future_requirements", "requirements"]),
    (.object
        [(.text, ["title"]),
          (.double, ["percent_ownership"]),
          (.flag,
            ["authorizer", "director", "executive", "legal_guardian", "owner", "representative"])],
      ["relationship"]),
    (.object
        [(.text, ["self_identified_gender"]),
          (.object [(.text, ["ethnicity_other"]), (.list .text, ["ethnicity"])],
            ["ethnicity_details"]),
          (.object [(.text, ["race_other"]), (.list .text, ["race"])], ["race_details"])],
      ["us_cfpb_data"]),
    (.object
        [(.text, ["details", "details_code", "status"]),
          (.object identityDocument, ["additional_document", "document"])],
      ["verification"])]

/-- A file. -/
def file : Members :=
  [(.text, ["filename", "id", "object", "purpose", "title", "type", "url"]),
    (.integer, ["created", "expires_at", "size"]),
    (.page (.resource "file_link"), ["links"])]

/-- A link to a file. -/
def fileLink : Members :=
  [(.text, ["id", "object", "url"]),
    (.integer, ["created", "expires_at"]),
    (.flag, ["expired", "livemode"]),
    (.labelled .text, ["metadata"]),
    (.resource "file", ["file"])]

end Schema
end Stripe
end PaymentGateway
