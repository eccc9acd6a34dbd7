/-
# Payment methods

What is known of a payment method, with the details of each type, and of the
older sources: cards, bank accounts and sources proper.

Key definitions: `Schema.paymentMethod`, `Schema.card`, `Schema.bankAccount`,
`Schema.source`.
-/
import PaymentGateway.Stripe.Schema.Part

namespace PaymentGateway
namespace Stripe
namespace Schema

/-- The card of a payment method. -/
def methodCard : Members :=
  [(.text,
      ["brand", "country", "description", "display_brand", "fingerprint", "funding", "iin",
        "issuer", "last4", "regulated_status"]),
    (.integer, ["exp_month", "exp_year"]),
    (.object cardChecks, ["checks"]),
    (.object
        [(.text, ["charge"]),
          (.resource "setup_attempt", ["setup_attempt"]),
          (.object [(.text, ["type"]), (.object cardPresentDetails, ["card_present"])],
            ["payment_method_details"])],
      ["generated_from"]),
    (.object cardNetworks, ["networks"]),
    (.object [(.flag, ["supported"])], ["three_d_secure_usage"]),
    (.object wallet, ["wallet"])]

/-- A payment method. -/
def paymentMethod : Members :=
  [(.text, ["allow_redisplay", "id", "object", "type"]),
    (.integer, ["created"]),
    (.flag, ["livemode"]),
    (.labelled .text, ["metadata"]),
    (.resource "customer", ["customer"]),
    (.object
        [(.text, ["bank_name", "fingerprint", "institution_number", "last4", "transit_number"])],
      ["acss_debit"]),
    (.object [],
      ["affirm", "afterpay_clearpay", "alipay", "alma", "amazon_pay", "bancontact", "billie",
        "blik", "crypto", "customer_balance", "giropay", "grabpay", "kakao_pay", "konbini",
        "mobilepay", "multibanco", "oxxo", "pay_by_bank", "payco", "paynow", "pix", "promptpay",
        "revolut_pay", "samsung_pay", "satispay", "swish", "twint", "wechat_pay", "zip"]),
    (.object [(.text, ["bsb_number", "fingerprint", "last4"])], ["au_becs_debit"]),
    (.object [(.text, ["fingerprint", "last4", "sort_code"])], ["bacs_debit"]),
    (.object billingDetails, ["billing_details"]),
    (.object [(.text, ["tax_id"])], ["boleto"]),
    (.object methodCard, ["card"]),
    (.object
        [(.text,
            ["brand", "brand_product", "cardholder_name", "country", "description", "fingerprint",
              "funding", "issuer", "last4", "read_method"]),
          (.integer, ["exp_month", "exp_year"]),
          (.list .text, ["preferred_locales"]),
          (.object cardNetworks, ["networks"]),
          (.object offlineStorage, ["offline"]),
          (.object [(.text, ["type"])], ["wallet"])],
      ["card_present"]),
    (.object [(.text, ["buyer_id", "cashtag"])], ["cashapp"]),
    (.object [(.text, ["bank"])], ["eps", "p24"]),
    (.object [(.text, ["account_holder_type", "bank"])], ["fpx"]),
    (.object [(.text, ["bank", "bic"])], ["ideal"]),
    (.object
        [(.text,
            ["brand", "cardholder_name", "country", "description", "fingerprint", "funding",
              "issuer", "last4", "read_method"]),
          (.integer, ["exp_month", "exp_year"]),
          (.list .text, ["preferred_locales"]),
          (.object cardNetworks, ["networks"])],
      ["interac_present"]),
    (.object [(.object calendarDay, ["dob"])], ["klarna"]),
    (.object [(.text, ["brand", "last4"])], ["kr_card"]),
    (.object [(.text, ["email", "persistent_token"])], ["link"]),
    (.object [(.text, ["buyer_id", "funding"])], ["naver_pay"]),
    (.object
        [(.text,
            ["account_holder_name", "bank_code", "bank_name", "branch_code", "last4", "suffix"])],
      ["nz_bank_account"]),
    (.object [(.text, ["country", "payer_email", "payer_id"])], ["paypal"]),
    (.object [(.text, ["session"])], ["radar_options"]),
    (.object
        [(.text, ["bank_code", "branch_code", "country", "fingerprint", "last4"]),
          (.object
              [(.resource "charge", ["charge"]),
                (.resource "setup_attempt", ["setup_attempt"])],
            ["generated_from"])],
      ["sepa_debit"]),
    (.object [(.text, ["country"])], ["sofort"]),
    (.object
        [(.text,
            ["account_holder_type", "account_type", "bank_name", "financial_connections_account",
              "fingerprint", "last4", "routing_number"]),
          (.object [(.text, ["preferred"]), (.list .text, ["supported"])], ["networks"]),
          (.object [(.object [(.text, ["network_code", "reason"])], ["blocked"])],
            ["status_details"])],
      ["us_bank_account"])]

/-- A card kept as a source. -/
def card : Members :=
  [(.text,
      ["address_city", "address_country", "address_line1", "address_line1_check", "address_line2",
        "address_state", "address_zip", "address_zip_check", "allow_redisplay", "brand", "country",
        "currency", "cvc_check", "description", "dynamic_last4", "fingerprint", "funding", "id",
        "iin", "issuer", "last4", "name", "object", "regulated_status", "status",
        "tokenization_method"]),
    (.integer, ["exp_month", "exp_year"]),
    (.flag, ["default_for_currency", "deleted"]),
    (.list .text, ["available_payout_methods"]),
    (.labelled .text, ["metadata"]),
    (.resource "account", ["account"]),
    (.resource "customer", ["customer"]),
    (.object [(.text, ["preferred"])], ["networks"])]

/-- A bank account. -/
def bankAccount : Members :=
  [(.text,
      ["account_holder_name", "account_holder_type", "account_type", "bank_name", "country",
        "currency", "fingerprint", "id", "last4", "object", "routing_number", "status"]),
    (.flag, ["default_for_currency", "deleted"]),
    (.list .text, ["available_payout_methods"]),
    (.labelled .text, ["metadata"]),
    (.resource "account", ["account"]),
    (.resource "customer", ["customer"]),
    (.object
        [(.list .text, ["currently_due", "past_due", "pending_verification"]),
          (.list (.object [(.text, ["code", "reason", "requirement"])]), ["errors"])],
      ["future_requirements", "requirements"])]

/-- A source. -/
def source : Members :=
  [(.text,
      ["allow_redisplay", "client_secret", "currency", "customer", "flow", "id", "object",
        "statement_descriptor", "status", "type", "usage"]),
    (.integer, ["amount", "created"]),
    (.flag, ["livemode"]),
    (.labelled .text, ["metadata"]),
    (.object
        [(.text,
            ["account_number", "bank_name", "fingerprint", "refund_account_holder_name",
              "refund_account_holder_type", "refund_routing_number", "routing_number",
              "swift_code"])],
      ["ach_credit_transfer"]),
    (.object
        [(.text, ["bank_name", "country", "fingerprint", "last4", "routing_number", "type"])],
      ["ach_debit"]),
    (.object
        [(.text,
            ["bank_address_city", "bank_address_line_1", "bank_address_line_2",
              "bank_address_postal_code", "bank_name", "category", "country", "fingerprint",
              "last4", "routing_number"])],
      ["acss_debit"]),
    (.object [(.text, ["data_string", "native_url", "statement_descriptor"])], ["alipay"]),
    (.object [(.text, ["bsb_number", "fingerprint", "last4"])], ["au_becs_debit"]),
    (.object
        [(.text,
            ["bank_code", "bank_name", "bic", "iban_last4", "preferred_language",
              "statement_descriptor"])],
      ["bancontact"]),
    (.object
        [(.text,
            ["address_line1_check", "address_zip_check", "brand", "country", "cvc_check",
              "description", "dynamic_last4", "fingerprint", "funding", "iin", "issuer", "last4",
              "name", "three_d_secure", "tokenization_method"]),
          (.integer, ["exp_month", "exp_year"])],
      ["card"]),
    (.object
        [(.text,
            ["application_cryptogram", "application_preferred_name", "authorization_code",
              "authorization_response_code", "brand", "country", "cvm_type", "data_type",
              "dedicated_file_name", "description", "emv_auth_data", "evidence_customer_signature",
              "evidence_transaction_certificate", "fingerprint", "funding", "iin", "issuer",
              "last4", "pos_device_id", "pos_entry_mode", "read_method", "reader",
              "terminal_verification_results", "transaction_status_information"]),
          (.integer, ["exp_month", "exp_year"])],
      ["card_present"]),
    (.object [(.text, ["status"]), (.integer, ["attempts_remaining"])], ["code_verification"]),
    (.object [(.text, ["reference", "statement_descriptor"])], ["eps"]),
    (.object [(.text, ["bank_code", "bank_name", "bic", "statement_descriptor"])], ["giropay"]),
    (.object [(.text, ["bank", "bic", "iban_last4", "statement_descriptor"])], ["ideal"]),
    (.object
        [(.text,
            ["background_image_url", "client_token", "first_name", "last_name", "locale",
              "logo_url", "page_title", "pay_later_asset_urls_descriptive",
              "pay_later_asset_urls_standard", "pay_later_name", "pay_later_redirect_url",
              "pay_now_asset_urls_descriptive", "pay_now_asset_urls_standard", "pay_now_name",
              "pay_now_redirect_url", "pay_over_time_asset_urls_descriptive",
              "pay_over_time_asset_urls_standard", "pay_over_time_name",
              "pay_over_time_redirect_url", "payment_method_categories", "purchase_country",
              "purchase_type", "redirect_url", "shipping_first_name", "shipping_last_name"]),
          (.integer, ["shipping_delay"])],
      ["klarna"]),
    (.object
        [(.text,
            ["entity", "reference", "refund_account_holder_address_city",
              "refund_account_holder_address_country", "refund_account_holder_address_line1",
              "refund_account_holder_address_line2", "refund_account_holder_address_postal_code",
              "refund_account_holder_address_state", "refund_account_holder_name",
              "refund_iban"])],
      ["multibanco"]),
    (.object
        [(.text, ["email", "name", "phone", "verified_email", "verified_name", "verified_phone"]),
          (.object address, ["address", "verified_address"])],
      ["owner"]),
    (.object [(.text, ["reference"])], ["p24"]),
    (.object
        [(.text, ["address", "refund_attributes_method", "refund_attributes_status"]),
          (.integer, ["amount_charged", "amount_received", "amount_returned"])],
      ["receiver"]),
    (.object [(.text, ["failure_reason", "return_url", "status", "url"])], ["redirect"]),
    (.object
        [(.text,
            ["bank_name", "bic", "iban", "refund_account_holder_address_city",
              "refund_account_holder_address_country", "refund_account_holder_address_line1",
              "refund_account_holder_address_line2", "refund_account_holder_address_postal_code",
              "refund_account_holder_address_state", "refund_account_holder_name",
              "refund_iban"])],
      ["sepa_credit_transfer"]),
    (.object
        [(.text,
            ["bank_code", "branch_code", "country", "fingerprint", "last4", "mandate_reference",
              "mandate_url"])],
      ["sepa_debit"]),
    (.object
        [(.text,
            ["bank_code", "bank_name", "bic", "country", "iban_last4", "preferred_language",
              "statement_descriptor"])],
      ["sofort"]),
    (.object
        [(.text, ["currency", "email"]),
          (.integer, ["amount"]),
          (.object shipping, ["shipping"]),
          (.list (.object
              [(.text, ["currency", "description", "parent", "type"]),
                (.integer, ["amount", "quantity"])]),
            ["items"])],
      ["source_order"]),
    (.object
        [(.text,
            ["address_line1_check", "address_zip_check", "brand", "card", "country", "customer",
              "cvc_check", "description", "dynamic_last4", "fingerprint", "funding", "iin",
              "issuer", "last4", "name", "three_d_secure", "tokenization_method"]),
          (.integer, ["exp_month", "exp_year"]),
          (.flag, ["authenticated"])],
      ["three_d_secure"]),
    (.object [(.text, ["prepay_id", "qr_code_url", "statement_descriptor"])], ["wechat"])]

end Schema
end Stripe
end PaymentGateway
