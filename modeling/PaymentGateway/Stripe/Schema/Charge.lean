/-
# Charges

What is known of a charge and of the movements of money around it: refunds,
fees, transfers and the balance.

Key definitions: `Schema.charge`, `Schema.chargeOutcomeRule`,
`Schema.applicationFee`, `Schema.feeRefund`, `Schema.balanceTransaction`,
`Schema.refund`, `Schema.transfer`, `Schema.transferReversal`.
-/
import PaymentGateway.Stripe.Schema.Part

namespace PaymentGateway
namespace Stripe
namespace Schema

/-- The card of a charge. -/
def chargeCard : Members :=
  [(.text,
      ["authorization_code", "brand", "country", "description", "fingerprint", "funding", "iin",
        "issuer", "last4", "mandate", "network", "network_transaction_id", "regulated_status"]),
    (.integer, ["amount_authorized", "capture_before", "exp_month", "exp_year"]),
    (.flag, ["moto"]),
    (.object cardChecks, ["checks"]),
    (.object [(.text, ["status"])],
      ["extended_authorization", "incremental_authorization", "multicapture"]),
    (.object [(.object installmentPlan, ["plan"])], ["installments"]),
    (.object [(.flag, ["used"])], ["network_token"]),
    (.object [(.text, ["status"]), (.integer, ["maximum_amount_capturable"])], ["overcapture"]),
    (.object
        [(.text,
            ["authentication_flow", "electronic_commerce_indicator", "exemption_indicator",
              "result", "result_reason", "transaction_id", "version"]),
          (.flag, ["exemption_indicator_applied"])],
      ["three_d_secure"]),
    (.object wallet, ["wallet"])]

/-- The payment method of a charge. -/
def chargeDetails : Members :=
  [(.text, ["type"]),
    (.object [(.text, ["account_number", "bank_name", "routing_number", "swift_code"])],
      ["ach_credit_transfer"]),
    (.object
        [(.text,
            ["account_holder_type", "bank_name", "country", "fingerprint", "last4",
              "routing_number"])],
      ["ach_debit"]),
    (.object
        [(.text,
            ["bank_name", "fingerprint", "institution_number", "last4", "mandate",
              "transit_number"])],
      ["acss_debit"]),
    (.object [(.text, ["location", "reader", "transaction_id"])], ["affirm"]),
    (.object [(.text, ["order_id", "reference"])], ["afterpay_clearpay"]),
    (.object [(.text, ["buyer_id", "fingerprint", "transaction_id"])], ["alipay"]),
    (.object [(.object [(.integer, ["count"])], ["installments"])], ["alma"]),
    (.object
        [(.text, ["transaction_id"]),
          (.object [(.text, ["type"]), (.object fundingCard, ["card"])], ["funding"])],
      ["amazon_pay", "revolut_pay"]),
    (.object [(.text, ["bsb_number", "fingerprint", "last4", "mandate"])], ["au_becs_debit"]),
    (.object [(.text, ["fingerprint", "last4", "mandate", "sort_code"])], ["bacs_debit"]),
    (.object
        [(.text,
            ["bank_code", "bank_name", "bic", "iban_last4", "preferred_language",
              "verified_name"]),
          (.resource "payment_method", ["generated_sepa_debit"]),
          (.resource "mandate", ["generated_sepa_debit_mandate"])],
      ["bancontact"]),
    (.object [(.text, ["transaction_id"])], ["billie", "grabpay", "satispay"]),
    (.object [(.text, ["buyer_id"])], ["blik"]),
    (.object [(.text, ["tax_id"])], ["boleto"]),
    (.object chargeCard, ["card"]),
    (.object cardPresentDetails, ["card_present"]),
    (.object [(.text, ["buyer_id", "cashtag", "transaction_id"])], ["cashapp"]),
    (.object
        [(.text, ["buyer_address", "network", "token_currency", "transaction_hash"])],
      ["crypto"]),
    (.object [], ["customer_balance", "pay_by_bank", "stripe_account", "twint", "wechat", "zip"]),
    (.object [(.text, ["bank", "verified_name"])], ["eps"]),
    (.object [(.text, ["account_holder_type", "bank", "transaction_id"])], ["fpx"]),
    (.object [(.text, ["bank_code", "bank_name", "bic", "verified_name"])], ["giropay"]),
    (.object
        [(.text, ["bank", "bic", "iban_last4", "transaction_id", "verified_name"]),
          (.resource "payment_method", ["generated_sepa_debit"]),
          (.resource "mandate", ["generated_sepa_debit_mandate"])],
      ["ideal"]),
    (.object
        [(.text,
            ["brand", "cardholder_name", "country", "description", "emv_auth_data", "fingerprint",
              "funding", "generated_card", "issuer", "last4", "network", "network_transaction_id",
              "read_method"]),
          (.integer, ["exp_month", "exp_year"]),
          (.list .text, ["preferred_locales"]),
          (.object receipt, ["receipt"])],
      ["interac_present"]),
    (.object [(.text, ["buyer_id", "transaction_id"])],
      ["kakao_pay", "naver_pay", "payco", "samsung_pay"]),
    (.object
        [(.text, ["payment_method_category", "preferred_locale"]),
          (.object [(.object [(.text, ["country"])], ["address"])], ["payer_details"])],
      ["klarna"]),
    (.object [(.object [(.text, ["chain"])], ["store"])], ["konbini"]),
    (.object [(.text, ["brand", "buyer_id", "last4", "transaction_id"])], ["kr_card"]),
    (.object [(.text, ["country"])], ["link"]),
    (.object
        [(.object
              [(.text, ["brand", "country", "last4"]),
                (.integer, ["exp_month", "exp_year"])],
            ["card"])],
      ["mobilepay"]),
    (.object [(.text, ["entity", "reference"])], ["multibanco"]),
    (.object
        [(.text,
            ["account_holder_name", "bank_code", "bank_name", "branch_code", "last4", "suffix"])],
      ["nz_bank_account"]),
    (.object [(.text, ["number"])], ["oxxo"]),
    (.object [(.text, ["bank", "reference", "verified_name"])], ["p24"]),
    (.object [(.text, ["location", "reader", "reference"])], ["paynow"]),
    (.object
        [(.text, ["country", "payer_email", "payer_id", "payer_name", "transaction_id"]),
          (.object [(.text, ["status"]), (.list .text, ["dispute_categories"])],
            ["seller_protection"])],
      ["paypal"]),
    (.object [(.text, ["bank_transaction_id"])], ["pix"]),
    (.object [(.text, ["reference"])], ["promptpay"]),
    (.object [(.text, ["bank_name", "bic", "iban"])], ["sepa_credit_transfer"]),
    (.object
        [(.text, ["bank_code", "branch_code", "country", "fingerprint", "last4", "mandate"])],
      ["sepa_debit"]),
    (.object
        [(.text,
            ["bank_code", "bank_name", "bic", "country", "iban_last4", "preferred_language",
              "verified_name"]),
          (.resource "payment_method", ["generated_sepa_debit"]),
          (.resource "mandate", ["generated_sepa_debit_mandate"])],
      ["sofort"]),
    (.object [(.text, ["fingerprint", "payment_reference", "verified_phone_last4"])], ["swish"]),
    (.object
        [(.text,
            ["account_holder_type", "account_type", "bank_name", "fingerprint", "last4",
              "payment_reference", "routing_number"]),
          (.resource "mandate", ["mandate"])],
      ["us_bank_account"]),
    (.object [(.text, ["fingerprint", "location", "reader", "transaction_id"])], ["wechat_pay"])]

/-- A charge. -/
def charge : Members :=
  [(.text,
      ["authorization_code", "calculated_statement_descriptor", "currency", "description",
        "failure_code", "failure_message", "id", "object", "payment_method", "receipt_email",
        "receipt_number", "receipt_url", "statement_descriptor", "statement_descriptor_suffix",
        "status", "transfer_group"]),
    (.integer,
      ["amount", "amount_captured", "amount_refunded", "application_fee_amount", "created"]),
    (.flag, ["captured", "disputed", "livemode", "paid", "refunded"]),
    (.labelled .text, ["metadata"]),
    (.resource "application", ["application"]),
    (.resource "application_fee", ["application_fee"]),
    (.resource "balance_transaction", ["balance_transaction", "failure_balance_transaction"]),
    (.resource "customer", ["customer"]),
    (.resource "account", ["on_behalf_of"]),
    (.resource "payment_intent", ["payment_intent"]),
    (.resource "review", ["review"]),
    (.resource "transfer", ["source_transfer", "transfer"]),
    (.page (.resource "refund"), ["refunds"]),
    (.oneOf ["account", "bank_account", "card", "source"], ["source"]),
    (.object billingDetails, ["billing_details"]),
    (.object [(.text, ["stripe_report", "user_report"])], ["fraud_details"]),
    (.object
        [(.text,
            ["customer_reference", "merchant_reference", "shipping_address_zip",
              "shipping_from_zip"]),
          (.integer, ["shipping_amount"]),
          (.list (.object
              [(.text, ["product_code", "product_description"]),
                (.integer, ["discount_amount", "quantity", "tax_amount", "unit_cost"])]),
            ["line_items"])],
      ["level3"]),
    (.object
        [(.text,
            ["advice_code", "network_advice_code", "network_decline_code", "network_status",
              "reason", "risk_level", "seller_message", "type"]),
          (.integer, ["risk_score"]),
          (.resource "charge_outcome_rule", ["rule"])],
      ["outcome"]),
    (.object chargeDetails, ["payment_method_details"]),
    (.object presentment, ["presentment_details"]),
    (.object [(.text, ["session"])], ["radar_options"]),
    (.object shipping, ["shipping"]),
    (.object [(.integer, ["amount"]), (.resource "account", ["destination"])], ["transfer_data"])]

/-- A rule that decided on a charge. -/
def chargeOutcomeRule : Members :=
  [(.text, ["action", "id", "predicate"])]

/-- A fee of an application. -/
def applicationFee : Members :=
  [(.text, ["currency", "id", "object"]),
    (.integer, ["amount", "amount_refunded", "created"]),
    (.flag, ["livemode", "refunded"]),
    (.resource "account", ["account"]),
    (.resource "application", ["application"]),
    (.resource "balance_transaction", ["balance_transaction"]),
    (.resource "charge", ["charge", "originating_transaction"]),
    (.page (.resource "fee_refund"), ["refunds"]),
    (.object [(.text, ["charge", "payout", "type"])], ["fee_source"])]

/-- A fee given back. -/
def feeRefund : Members :=
  [(.text, ["currency", "id", "object"]),
    (.integer, ["amount", "created"]),
    (.labelled .text, ["metadata"]),
    (.resource "balance_transaction", ["balance_transaction"]),
    (.resource "application_fee", ["fee"])]

/-- A movement of the balance. -/
def balanceTransaction : Members :=
  [(.text,
      ["balance_type", "currency", "description", "id", "object", "reporting_category", "status",
        "type"]),
    (.integer, ["amount", "available_on", "created", "fee", "net"]),
    (.double, ["exchange_rate"]),
    (.oneOf ["application_fee", "charge", "fee_refund", "refund", "transfer", "transfer_reversal"],
      ["source"]),
    (.list (.object
        [(.text, ["application", "currency", "description", "type"]),
          (.integer, ["amount"])]),
      ["fee_details"])]

/-- Where a refund goes. -/
def refundDestination : Members :=
  [(.text, ["type"]),
    (.object [],
      ["affirm", "afterpay_clearpay", "alipay", "alma", "amazon_pay", "au_bank_transfer",
        "cashapp", "customer_cash_balance", "eps", "giropay", "grabpay", "klarna",
        "nz_bank_transfer", "paynow", "pix", "revolut", "sofort", "wechat_pay", "zip"]),
    (.object [(.text, ["network_decline_code", "reference", "reference_status"])],
      ["blik", "swish"]),
    (.object [(.text, ["reference", "reference_status"])],
      ["br_bank_transfer", "eu_bank_transfer", "gb_bank_transfer", "jp_bank_transfer",
        "multibanco", "mx_bank_transfer", "p24", "th_bank_transfer", "us_bank_transfer"]),
    (.object [(.text, ["reference", "reference_status", "reference_type", "type"])], ["card"]),
    (.object [(.text, ["reference"])], ["crypto"]),
    (.object [(.text, ["network_decline_code"])], ["paypal"])]

/-- A refund. -/
def refund : Members :=
  [(.text,
      ["currency", "description", "failure_reason", "id", "instructions_email", "object",
        "pending_reason", "reason", "receipt_number", "status"]),
    (.integer, ["amount", "created"]),
    (.labelled .text, ["metadata"]),
    (.resource "balance_transaction", ["balance_transaction", "failure_balance_transaction"]),
    (.resource "charge", ["charge"]),
    (.resource "payment_intent", ["payment_intent"]),
    (.resource "transfer_reversal", ["source_transfer_reversal", "transfer_reversal"]),
    (.object refundDestination, ["destination_details"]),
    (.object
        [(.text, ["type"]),
          (.object
              [(.integer, ["expires_at"]),
                (.object [(.text, ["email_sent_to"]), (.integer, ["email_sent_at"])],
                  ["email_sent"])],
            ["display_details"])],
      ["next_action"]),
    (.object presentment, ["presentment_details"])]

/-- A transfer. -/
def transfer : Members :=
  [(.text, ["currency", "description", "id", "object", "source_type", "transfer_group"]),
    (.integer, ["amount", "amount_reversed", "created"]),
    (.flag, ["livemode", "reversed"]),
    (.labelled .text, ["metadata"]),
    (.resource "balance_transaction", ["balance_transaction"]),
    (.resource "account", ["destination"]),
    (.resource "charge", ["destination_payment", "source_transaction"]),
    (.page (.resource "transfer_reversal"), ["reversals"])]

/-- A transfer taken back. -/
def transferReversal : Members :=
  [(.text, ["currency", "id", "object"]),
    (.integer, ["amount", "created"]),
    (.labelled .text, ["metadata"]),
    (.resource "balance_transaction", ["balance_transaction"]),
    (.resource "refund", ["destination_payment_refund", "source_refund"]),
    (.resource "transfer", ["transfer"])]

end Schema
end Stripe
end PaymentGateway
