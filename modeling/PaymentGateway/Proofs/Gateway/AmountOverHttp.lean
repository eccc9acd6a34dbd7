/-
# The amount arrives as it was sent

A purchase names its amount by a numeral, and numerals of one number are many: more zeros
after the point, or another exponent. If the number is whole and at most `2 ^ 53`, the
provider is asked for exactly that number, whatever numeral was sent (`amount_arrives`).

On the way the numeral is split from the text of the body, read as a decimal, rounded to a
double, and rounded again to whole units. For these numbers neither rounding changes
anything: the decimal is the number (`Json.Numeral.value_read`), a whole number of 53 bits
is a double (`Binary64.ofDecimal_exact`), and a whole number and one half has it as its floor.

Key definition: `Http.Body.Buys`.
Key theorems: `Http.Body.process_buys`, `Json.Numeral.read_exact`, `Gateway.amount_arrives`.
-/
import PaymentGateway.Proofs.Gateway.SecretOverHttp
import PaymentGateway.Proofs.Handshake.Amounts
import PaymentGateway.Proofs.Json.Numeral

namespace PaymentGateway

open Json (IsObject IsText Member Numeral Spelling.Denotes)

/-! ### The double of a numeral -/

/-- **A numeral of a whole number up to `2 ^ 53` is read as a double of that number.** -/
theorem Json.Numeral.read_exact (amount : Numeral) {n : Nat} (hn : 0 < n) (hn' : n ≤ 2 ^ 53)
    (hpower : |amount.power| < 10000) (hvalue : amount.value = n) :
    ∃ x, Binary64.read amount.text = some x ∧ x.IsDouble ∧ x.value? = some n := by
  have hdecimal : (Decimal.read amount.text).value = n := (amount.value_read hpower).trans hvalue
  obtain ⟨x, hread, hx⟩ := Binary64.ofDecimal_exact hn hn' hdecimal
  exact ⟨x, hread, Binary64.isDouble_read hread, hx⟩

/-! ### Bodies of purchases -/

namespace Http.Body

/-- **The body is a purchase**: a JSON object with an amount, spelled by a numeral, and a
currency, in either order, and no other field. The names and the currency may be spelled in
any way, and blanks may stand between the tokens. -/
inductive Buys (amount : Numeral) (currency : String) (text : List Char) : Prop where
  | amountFirst {key name spelled : List Char} (hkey : Spelling.Denotes key "amount".toList)
    (hname : Spelling.Denotes name "currency".toList)
    (hspelled : Spelling.Denotes spelled currency.toList)
    (object : IsText (.object [(key, .number amount.text), (name, .string spelled)]) text)
  | amountLast {key name spelled : List Char} (hkey : Spelling.Denotes key "amount".toList)
    (hname : Spelling.Denotes name "currency".toList)
    (hspelled : Spelling.Denotes spelled currency.toList)
    (object : IsText (.object [(name, .string spelled), (key, .number amount.text)]) text)

/-- A body whose members make a purchase is read as it. -/
theorem process_of_members {body : List UInt8} {ms : List (List Char × Json)} {p : Process}
    (hfirst : first body = .ok (.object ms))
    (htake : ms.foldlM (fun a m => Process.take a m.1 m.2) ⟨none, "", ""⟩ = some p) :
    process body = .ok p.request :=
  read_of_first hfirst (congrArg (Option.map Process.request) htake)

theorem take_amount {m : List Char × Json} {numeral : List Char}
    (h : Member m ("amount", .number numeral)) {x : Binary64}
    (hx : Binary64.read numeral = some x) (p : Process) :
    p.take m.1 m.2 = some { p with amount := some x } := by
  have hnamed : Json.Field.named "amount" m.1 = true :=
    (named_eq h.1 _).trans (beq_self_eq_true _)
  have hamount : Json.Field.amount m.2 = some (some x) := by
    obtain ⟨-, hsays⟩ := h
    generalize m.2 = v at hsays
    cases hsays with
    | number _ => rw [Json.Field.amount, hx, Option.map_some]
  rw [Process.take, if_pos hnamed, hamount, Option.map_some]

theorem take_currency {m : List Char × Json} {currency : String}
    (h : Member m ("currency", .text currency)) (p : Process) :
    p.take m.1 m.2 = some { p with currency } := by
  have hdiffer : ("currency".toList.map Json.Field.foldChar ==
      "amount".toList.map Json.Field.foldChar) = false := by decide
  have hother : Json.Field.named "amount" m.1 = false := (named_eq h.1 _).trans hdiffer
  have hnamed : Json.Field.named "currency" m.1 = true :=
    (named_eq h.1 _).trans (beq_self_eq_true _)
  rw [Process.take, hother, if_neg Bool.false_ne_true, if_pos hnamed, text_says h.2,
    Option.map_some]

/-- **A purchase is read with the double of its numeral.** -/
theorem process_buys {amount : Numeral} {currency : String} {text : List Char}
    (h : Buys amount currency text) (hlen : (Text.Utf8.encode text).length ≤ limit)
    {x : Binary64} (hx : Binary64.read amount.text = some x) :
    process (Text.Utf8.encode text) = .ok ⟨x, currency, ""⟩ := by
  have hnumeral : Json.Says (.number amount.text) (.number amount.text) :=
    .number amount.isNumeral_text
  cases h with
  | amountFirst hkey hname hspelled object =>
    have hobject : IsObject text [("amount", .number amount.text), ("currency", .text currency)] :=
      ⟨_, .cons ⟨hkey, hnumeral⟩ (.cons ⟨hname, .text hspelled⟩ .nil), object⟩
    obtain ⟨_, _ | ⟨hamount, _ | ⟨hcurrency, _ | _⟩⟩, hfirst⟩ := first_encode hobject hlen
    refine process_of_members (p := ⟨some x, currency, ""⟩) hfirst ?_
    rw [List.foldlM_cons, take_amount hamount hx, Option.bind_eq_bind, Option.bind_some,
      List.foldlM_cons, take_currency hcurrency]
    rfl
  | amountLast hkey hname hspelled object =>
    have hobject : IsObject text [("currency", .text currency), ("amount", .number amount.text)] :=
      ⟨_, .cons ⟨hname, .text hspelled⟩ (.cons ⟨hkey, hnumeral⟩ .nil), object⟩
    obtain ⟨_, _ | ⟨hcurrency, _ | ⟨hamount, _ | _⟩⟩, hfirst⟩ := first_encode hobject hlen
    refine process_of_members (p := ⟨some x, currency, ""⟩) hfirst ?_
    rw [List.foldlM_cons, take_currency hcurrency, Option.bind_eq_bind, Option.bind_some,
      List.foldlM_cons, take_amount hamount hx]
    rfl

end Http.Body

namespace Gateway

open Http Handshake

variable {σ : Type}

/-- A purchase asks the provider what the request in its body asks. -/
theorem process_calls (p : Provider σ) (publish : Publish) (counted : Bool) (r : Registry) (s : σ)
    {purchase : Request} (hroute : Route.of purchase = .found .process) {req : CreateRequest}
    (hread : Body.process purchase.body = .ok req) :
    (respond (.ofProvider p publish) counted r s purchase).trace.calls =
      (Handshake.create p publish r s req).trace.calls := by
  obtain ⟨-, -, htrace⟩ := respond_found (.ofProvider p publish) counted r s hroute
  rw [htrace, serve, hread]
  exact exchange_calls createdJson _

/-- **The amount arrives as it was sent.** A purchase of a whole amount from one up to
`2 ^ 53`, in any numeral of it whose exponent is below ten thousand either way, has the
provider asked for exactly that amount, once; for every provider, in every state. -/
theorem amount_arrives (p : Provider σ) (publish : Publish) (counted : Bool) (r : Registry) (s : σ)
    (n : Nat) (hn : 1 ≤ n) (hn' : n ≤ 2 ^ 53) (amount : Numeral) (hvalue : amount.value = n)
    (hpower : |amount.power| < 10000) (currency : String) (hcurrency : Text.trim currency ≠ "")
    (purchase : Request) (hroute : Route.of purchase = .found .process) (text : List Char)
    (hbody : purchase.body = Text.Utf8.encode text) (hlen : purchase.body.length ≤ Body.limit)
    (hbuys : Body.Buys amount currency text) :
    (respond (.ofProvider p publish) counted r s purchase).trace.calls =
      [.create ⟨n, Text.trim currency, ""⟩] := by
  obtain ⟨x, hread, hdouble, hx⟩ := amount.read_exact hn hn' hpower hvalue
  have hprocess : Body.process purchase.body = .ok ⟨x, currency, ""⟩ := by
    rw [hbody] at hlen ⊢
    exact Body.process_buys hbuys hlen hread
  have hpayable : Payable x n := by
    have hone : (1 : ℚ) ≤ n := by exact_mod_cast hn
    have htop : (n : ℚ) ≤ 2 ^ 53 := by exact_mod_cast hn'
    exact ⟨hx, by linarith, by linarith⟩
  have hnone : Text.trim "" = "" := by decide +kernel
  have haccept := @accept_payable ⟨x, currency, ""⟩ hdouble hcurrency n hpayable
  rw [process_calls p publish counted r s hroute hprocess,
    create_accepted p publish r s haccept, Binary64.floor_whole, hnone]

/-- The largest amount, sent with zeros after the point and a negative exponent, after a
currency that is spelled with a code. -/
theorem amount_arrives_scaled :
    let exponent : Json.Exponent := ⟨'E', .minus, ['0', '2'], .inr rfl, by decide, by decide⟩
    let amount : Numeral := ⟨false, "900719925474099200".toList, ['0', '0'], some exponent,
      by decide, .inr ⟨'9', "00719925474099200".toList, by decide, by decide⟩, by decide⟩
    let text := "\x7b\"currency\":\"\\u0065ur\",\"amount\":900719925474099200.00E-02\x7d\n".toList
    let purchase : Request := ⟨"POST", "/payments/process", [], Text.Utf8.encode text⟩
    let script : Script := ⟨.error .canceled, .error .canceled, none⟩
    let r := Registry.new 0 0
    amount.value = 9007199254740992 ∧ Body.Buys amount "eur" text ∧
      (respond (.ofProvider Script.provider fun _ => none) true r script purchase).trace.calls =
        [.create ⟨9007199254740992, "eur", ""⟩] := by
  intro exponent amount text purchase script r
  have hvalue : amount.value = (9007199254740992 : Nat) := by
    have hwhole : Digits.naive amount.whole = 900719925474099200 := by decide +kernel
    have hfraction : Digits.naive amount.fraction = 0 := by decide +kernel
    have hpower : amount.power = -2 := by decide +kernel
    have hsign : amount.negative = false := rfl
    rw [Numeral.value, hwhole, hfraction, hpower, hsign]
    norm_num
  have hbuys : Body.Buys amount "eur" text := by
    have hspelled : Spelling.Denotes "\\u0065ur".toList "eur".toList := by
      have hchars : "\\u0065ur".toList = ['\\', 'u', '0', '0', '6', '5', 'u', 'r'] := by decide
      have htoList : "eur".toList = ['e', 'u', 'r'] := by decide
      rw [hchars, htoList]
      exact .code ⟨0, 0, 6, 5, rfl, rfl, rfl, rfl, rfl⟩
        (.plain (by decide) (by decide) (by decide)
          (.plain (by decide) (by decide) (by decide) .nil))
    refine .amountLast (Json.Spelling.denotes_ofText "amount")
      (Json.Spelling.denotes_ofText "currency") hspelled ?_
    have htext : text = Json.write (.object
        [(Json.Spelling.ofText "currency", .string "\\u0065ur".toList),
          (Json.Spelling.ofText "amount", .number amount.text)]) ++ ['\n'] := by
      decide +kernel
    rw [htext]
    exact Json.isText_write _ rfl
  have hcurrency : Text.trim "eur" = "eur" := by decide +kernel
  have hcalls := amount_arrives Script.provider (fun _ => none) true r script 9007199254740992
    (by decide) (by decide) amount hvalue (by decide +kernel) "eur" (by rw [hcurrency]; decide)
    purchase (by decide +kernel) text rfl (by decide +kernel) hbuys
  rw [hcurrency] at hcalls
  exact ⟨hvalue, hbuys, hcalls⟩

end Gateway
end PaymentGateway
