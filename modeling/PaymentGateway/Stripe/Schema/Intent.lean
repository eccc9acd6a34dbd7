/-
# Intents

What is known of a payment intent, a setup intent and what belongs to them:
attempts, mandates, reviews and applications.

Key definitions: `Schema.paymentIntent`, `Schema.setupIntent`,
`Schema.setupAttempt`, `Schema.mandate`, `Schema.review`, `Schema.application`.
-/
import PaymentGateway.Stripe.Schema.Part

namespace PaymentGateway
namespace Stripe
namespace Schema

/-- A bank account to which money is sent. -/
def bankAddress : Members :=
  [(.text, ["type"]),
    (.list .text, ["supported_networks"]),
    (.object
        [(.text,
            ["account_holder_name", "account_number", "account_type", "bank_name",
              "routing_number"]),
          (.object address, ["account_holder_address", "bank_address"])],
      ["aba"]),
    (.object
        [(.text, ["account_holder_name", "bic", "country", "iban"]),
          (.object address, ["account_holder_address", "bank_address"])],
      ["iban"]),
    (.object
        [(.text, ["account_holder_name", "account_number", "sort_code"]),
          (.object address, ["account_holder_address", "bank_address"])],
      ["sort_code"]),
    (.object
        [(.text, ["account_holder_name", "bank_code", "bank_name", "clabe"]),
          (.object address, ["account_holder_address", "bank_address"])],
      ["spei"]),
    (.object
        [(.text,
            ["account_holder_name", "account_number", "account_type", "bank_name", "swift_code"]),
          (.object address, ["account_holder_address", "bank_address"])],
      ["swift"]),
    (.object
        [(.text,
            ["account_holder_name", "account_number", "account_type", "bank_code", "bank_name",
              "branch_code", "branch_name"]),
          (.object address, ["account_holder_address", "bank_address"])],
      ["zengin"])]

/-- What the customer is asked to do. -/
def nextAction : Members :=
  [(.text, ["type"]),
    (.object [(.text, ["native_data", "native_url", "return_url", "url"])],
      ["alipay_handle_redirect"]),
    (.object
        [(.text, ["hosted_voucher_url", "number", "pdf"]),
          (.integer, ["expires_at"])],
      ["boleto_display_details"]),
    (.object
        [(.integer, ["charge_attempt_at"]),
          (.flag, ["customer_approval_required"])],
      ["card_await_notification"]),
    (.object walletRedirect, ["cashapp_handle_redirect_or_display_qr_code"]),
    (.object
        [(.text, ["currency", "hosted_instructions_url", "reference", "type"]),
          (.integer, ["amount_remaining"]),
          (.list (.object bankAddress), ["financial_addresses"])],
      ["display_bank_transfer_instructions"]),
    (.object
        [(.text, ["hosted_voucher_url"]),
          (.integer, ["expires_at"]),
          (.object
              [(.object [(.text, ["confirmation_number", "payment_code"])],
                  ["familymart", "lawson", "ministop", "seicomart"])],
            ["stores"])],
      ["konbini_display_details"]),
    (.object
        [(.text, ["entity", "hosted_voucher_url", "reference"]),
          (.integer, ["expires_at"])],
      ["multibanco_display_details"]),
    (.object [(.text, ["hosted_voucher_url", "number"]), (.integer, ["expires_after"])],
      ["oxxo_display_details"]),
    (.object qrCode, ["paynow_display_qr_code", "promptpay_display_qr_code"]),
    (.object
        [(.text, ["data", "hosted_instructions_url", "image_url_png", "image_url_svg"]),
          (.integer, ["expires_at"])],
      ["pix_display_qr_code"]),
    (.object redirectUrl, ["redirect_to_url"]),
    (.object
        [(.text, ["hosted_instructions_url", "mobile_auth_url"]),
          (.object [(.text, ["data", "image_url_png", "image_url_svg"])], ["qr_code"])],
      ["swish_handle_redirect_or_display_qr_code"]),
    (.object [], ["use_stripe_sdk"]),
    (.object microdeposits, ["verify_with_microdeposits"]),
    (.object
        [(.text,
            ["data", "hosted_instructions_url", "image_data_url", "image_url_png",
              "image_url_svg"])],
      ["wechat_pay_display_qr_code"]),
    (.object
        [(.text,
            ["app_id", "nonce_str", "package", "partner_id", "prepay_id", "sign", "timestamp"])],
      ["wechat_pay_redirect_to_android_app"]),
    (.object [(.text, ["native_url"])], ["wechat_pay_redirect_to_ios_app"])]

/-- How a payment intent uses a card. -/
def cardOptions : Members :=
  [(.text,
      ["capture_method", "network", "request_extended_authorization",
        "request_incremental_authorization", "request_multicapture", "request_overcapture",
        "request_three_d_secure", "setup_future_usage", "statement_descriptor_suffix_kana",
        "statement_descriptor_suffix_kanji"]),
    (.flag, ["require_cvc_recollection"]),
    (.object
        [(.flag, ["enabled"]),
          (.object installmentPlan, ["plan"]),
          (.list (.object installmentPlan), ["available_plans"])],
      ["installments"]),
    (.object
        [(.text, ["amount_type", "description", "interval", "reference"]),
          (.integer, ["amount", "end_date", "interval_count", "start_date"]),
          (.list .text, ["supported_types"])],
      ["mandate_options"])]

/-- How a payment intent uses each type of payment method. -/
def paymentOptions : Members :=
  [(.object
        [(.text, ["setup_future_usage", "target_date", "verification_method"]),
          (.object
              [(.text,
                  ["custom_mandate_url", "interval_description", "payment_schedule",
                    "transaction_type"])],
            ["mandate_options"])],
      ["acss_debit"]),
    (.object [(.text, ["capture_method", "preferred_locale", "setup_future_usage"])],
      ["affirm", "klarna"]),
    (.object [(.text, ["capture_method", "reference", "setup_future_usage"])],
      ["afterpay_clearpay"]),
    (.object [(.text, ["setup_future_usage"])],
      ["alipay", "blik", "crypto", "eps", "fpx", "giropay", "grabpay", "ideal", "multibanco",
        "p24", "paynow", "promptpay", "twint", "zip"]),
    (.object [(.text, ["capture_method"])],
      ["alma", "billie", "payco", "samsung_pay", "satispay"]),
    (.object [(.text, ["capture_method", "setup_future_usage"])],
      ["amazon_pay", "cashapp", "kakao_pay", "kr_card", "mobilepay", "naver_pay", "revolut_pay"]),
    (.object [(.text, ["setup_future_usage", "target_date"])],
      ["au_becs_debit", "nz_bank_account"]),
    (.object
        [(.text, ["setup_future_usage", "target_date"]),
          (.object referencePrefix, ["mandate_options"])],
      ["bacs_debit", "sepa_debit"]),
    (.object [(.text, ["preferred_language", "setup_future_usage"])], ["bancontact", "sofort"]),
    (.object [(.text, ["setup_future_usage"]), (.integer, ["expires_after_days"])],
      ["boleto", "oxxo"]),
    (.object cardOptions, ["card"]),
    (.object
        [(.flag, ["request_extended_authorization", "request_incremental_authorization_support"]),
          (.object [(.text, ["requested_priority"])], ["routing"])],
      ["card_present"]),
    (.object
        [(.text, ["funding_type", "setup_future_usage"]),
          (.object
              [(.text, ["type"]),
                (.list .text, ["requested_address_types"]),
                (.object [(.text, ["country"])], ["eu_bank_transfer"])],
            ["bank_transfer"])],
      ["customer_balance"]),
    (.object [], ["interac_present", "pay_by_bank"]),
    (.object
        [(.text, ["confirmation_number", "product_description", "setup_future_usage"]),
          (.integer, ["expires_after_days", "expires_at"])],
      ["konbini"]),
    (.object [(.text, ["capture_method", "persistent_token", "setup_future_usage"])], ["link"]),
    (.object
        [(.text, ["capture_method", "preferred_locale", "reference", "setup_future_usage"])],
      ["paypal"]),
    (.object
        [(.text, ["amount_includes_iof", "setup_future_usage"]),
          (.integer, ["expires_after_seconds", "expires_at"])],
      ["pix"]),
    (.object [(.text, ["reference", "setup_future_usage"])], ["swish"]),
    (.object
        [(.text,
            ["preferred_settlement_speed", "setup_future_usage", "target_date",
              "verification_method"]),
          (.object bankConnection, ["financial_connections"]),
          (.object [(.text, ["collection_method"])], ["mandate_options"])],
      ["us_bank_account"]),
    (.object [(.text, ["app_id", "client", "setup_future_usage"])], ["wechat_pay"])]

/-- A payment intent. -/
def paymentIntent : Members :=
  [(.text,
      ["cancellation_reason", "capture_method", "client_secret", "confirmation_method", "currency",
        "description", "id", "object", "receipt_email", "setup_future_usage",
        "statement_descriptor", "statement_descriptor_suffix", "status", "transfer_group"]),
    (.integer,
      ["amount", "amount_capturable", "amount_received", "application_fee_amount", "canceled_at",
        "created"]),
    (.flag, ["livemode"]),
    (.list .text, ["excluded_payment_method_types", "payment_method_types"]),
    (.labelled .text, ["metadata"]),
    (.failure, ["last_payment_error"]),
    (.resource "application", ["application"]),
    (.resource "customer", ["customer"]),
    (.resource "charge", ["latest_charge"]),
    (.resource "account", ["on_behalf_of"]),
    (.resource "payment_method", ["payment_method"]),
    (.resource "review", ["review"]),
    (.oneOf ["account", "bank_account", "card", "source"], ["source"]),
    (.object [(.object [(.integer, ["amount"])], ["tip"])], ["amount_details"]),
    (.object automaticMethods, ["automatic_payment_methods"]),
    (.object nextAction, ["next_action"]),
    (.object configurationDetails, ["payment_method_configuration_details"]),
    (.object paymentOptions, ["payment_method_options"]),
    (.object presentment, ["presentment_details"]),
    (.object
        [(.text, ["type"]),
          (.object
              [(.object [(.integer, ["completes_at"]), (.flag, ["approval_requested"])],
                  ["customer_notification"])],
            ["card"])],
      ["processing"]),
    (.object shipping, ["shipping"]),
    (.object [(.integer, ["amount"]), (.resource "account", ["destination"])], ["transfer_data"])]

/-- How a setup intent uses each type of payment method. -/
def setupOptions : Members :=
  [(.object
        [(.text, ["currency", "verification_method"]),
          (.object
              [(.text,
                  ["custom_mandate_url", "interval_description", "payment_schedule",
                    "transaction_type"]),
                (.list .text, ["default_for"])],
            ["mandate_options"])],
      ["acss_debit"]),
    (.object [], ["amazon_pay", "card_present"]),
    (.object [(.object referencePrefix, ["mandate_options"])], ["bacs_debit", "sepa_debit"]),
    (.object
        [(.text, ["network", "request_three_d_secure"]),
          (.object
              [(.text, ["amount_type", "currency", "description", "interval", "reference"]),
                (.integer, ["amount", "end_date", "interval_count", "start_date"]),
                (.list .text, ["supported_types"])],
            ["mandate_options"])],
      ["card"]),
    (.object [(.text, ["currency", "preferred_locale"])], ["klarna"]),
    (.object [(.text, ["persistent_token"])], ["link"]),
    (.object [(.text, ["billing_agreement_id"])], ["paypal"]),
    (.object
        [(.text, ["verification_method"]),
          (.object bankConnection, ["financial_connections"]),
          (.object [(.text, ["collection_method"])], ["mandate_options"])],
      ["us_bank_account"])]

/-- A setup intent. -/
def setupIntent : Members :=
  [(.text,
      ["cancellation_reason", "client_secret", "description", "id", "object", "status", "usage"]),
    (.integer, ["created"]),
    (.flag, ["attach_to_self", "livemode"]),
    (.list .text, ["flow_directions", "payment_method_types"]),
    (.labelled .text, ["metadata"]),
    (.failure, ["last_setup_error"]),
    (.resource "application", ["application"]),
    (.resource "customer", ["customer"]),
    (.resource "setup_attempt", ["latest_attempt"]),
    (.resource "mandate", ["mandate", "single_use_mandate"]),
    (.resource "account", ["on_behalf_of"]),
    (.resource "payment_method", ["payment_method"]),
    (.object automaticMethods, ["automatic_payment_methods"]),
    (.object
        [(.text, ["type"]),
          (.object walletRedirect, ["cashapp_handle_redirect_or_display_qr_code"]),
          (.object redirectUrl, ["redirect_to_url"]),
          (.object [], ["use_stripe_sdk"]),
          (.object microdeposits, ["verify_with_microdeposits"])],
      ["next_action"]),
    (.object configurationDetails, ["payment_method_configuration_details"]),
    (.object setupOptions, ["payment_method_options"])]

/-- The payment method of an attempt. -/
def attemptDetails : Members :=
  [(.text, ["type"]),
    (.object [],
      ["acss_debit", "amazon_pay", "au_becs_debit", "bacs_debit", "boleto", "cashapp", "kakao_pay",
        "klarna", "kr_card", "link", "nz_bank_account", "paypal", "revolut_pay", "sepa_debit",
        "us_bank_account"]),
    (.object
        [(.text,
            ["bank_code", "bank_name", "bic", "iban_last4", "preferred_language",
              "verified_name"]),
          (.resource "payment_method", ["generated_sepa_debit"]),
          (.resource "mandate", ["generated_sepa_debit_mandate"])],
      ["bancontact", "sofort"]),
    (.object
        [(.text,
            ["brand", "country", "description", "fingerprint", "funding", "iin", "issuer", "last4",
              "network"]),
          (.integer, ["exp_month", "exp_year"]),
          (.object cardChecks, ["checks"]),
          (.object
              [(.text,
                  ["authentication_flow", "electronic_commerce_indicator", "result",
                    "result_reason", "transaction_id", "version"])],
            ["three_d_secure"]),
          (.object [(.text, ["type"]), (.object [], ["apple_pay", "google_pay"])], ["wallet"])],
      ["card"]),
    (.object
        [(.resource "payment_method", ["generated_card"]),
          (.object offlineStorage, ["offline"])],
      ["card_present"]),
    (.object
        [(.text, ["bank", "bic", "iban_last4", "verified_name"]),
          (.resource "payment_method", ["generated_sepa_debit"]),
          (.resource "mandate", ["generated_sepa_debit_mandate"])],
      ["ideal"]),
    (.object [(.text, ["buyer_id"])], ["naver_pay"])]

/-- An attempt to set a payment method up. -/
def setupAttempt : Members :=
  [(.text, ["id", "object", "status", "usage"]),
    (.integer, ["created"]),
    (.flag, ["attach_to_self", "livemode"]),
    (.list .text, ["flow_directions"]),
    (.failure, ["setup_error"]),
    (.resource "application", ["application"]),
    (.resource "customer", ["customer"]),
    (.resource "account", ["on_behalf_of"]),
    (.resource "payment_method", ["payment_method"]),
    (.resource "setup_intent", ["setup_intent"]),
    (.object attemptDetails, ["payment_method_details"])]

/-- The payment method of a mandate. -/
def mandateDetails : Members :=
  [(.text, ["type"]),
    (.object
        [(.text, ["interval_description", "payment_schedule", "transaction_type"]),
          (.list .text, ["default_for"])],
      ["acss_debit"]),
    (.object [],
      ["amazon_pay", "card", "cashapp", "kakao_pay", "klarna", "kr_card", "link", "naver_pay",
        "nz_bank_account", "revolut_pay"]),
    (.object [(.text, ["url"])], ["au_becs_debit"]),
    (.object [(.text, ["network_status", "reference", "revocation_reason", "url"])],
      ["bacs_debit"]),
    (.object [(.text, ["billing_agreement_id", "payer_id"])], ["paypal"]),
    (.object [(.text, ["reference", "url"])], ["sepa_debit"]),
    (.object [(.text, ["collection_method"])], ["us_bank_account"])]

/-- A mandate. -/
def mandate : Members :=
  [(.text, ["id", "object", "on_behalf_of", "status", "type"]),
    (.flag, ["livemode"]),
    (.resource "payment_method", ["payment_method"]),
    (.object
        [(.text, ["type"]),
          (.integer, ["accepted_at"]),
          (.object [], ["offline"]),
          (.object [(.text, ["ip_address", "user_agent"])], ["online"])],
      ["customer_acceptance"]),
    (.object [], ["multi_use"]),
    (.object mandateDetails, ["payment_method_details"]),
    (.object [(.text, ["currency"]), (.integer, ["amount"])], ["single_use"])]

/-- A review of a payment. -/
def review : Members :=
  [(.text,
      ["billing_zip", "closed_reason", "id", "ip_address", "object", "opened_reason", "reason"]),
    (.integer, ["created"]),
    (.flag, ["livemode", "open"]),
    (.resource "charge", ["charge"]),
    (.resource "payment_intent", ["payment_intent"]),
    (.object
        [(.text, ["city", "country", "region"]),
          (.double, ["latitude", "longitude"])],
      ["ip_address_location"]),
    (.object [(.text, ["browser", "device", "platform", "version"])], ["session"])]

/-- An application that acts for an account. -/
def application : Members :=
  [(.text, ["id", "name", "object"]),
    (.flag, ["deleted"])]

end Schema
end Stripe
end PaymentGateway
