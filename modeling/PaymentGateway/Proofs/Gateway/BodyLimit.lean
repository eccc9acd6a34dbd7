/-
# The limit on request bodies

The answer to a creation or a confirmation depends on its body through the first value of the body
only, and it is 413 exactly if the body is refused as too large (`respond_first`). A body within the
limit never is. Of a longer body only the first `Body.limit` bytes are read: it is too large exactly
if they do not start with a value and are no mistake, that is, if something may follow that makes
them start with one (`first_tooLarge_iff`). An object is a value at its last brace, so what follows
the brace does not matter, on either side of the limit (`first_object`).

A string, a word or a number outside of any container is seen to end by the byte after it; one that
ends with the last byte that is read makes a longer body too large (`null_at_limit`).

Key definition: `Gateway.IsPost`.
Key theorems: `Http.Body.first_tooLarge_iff`, `Http.Body.first_object`, `Gateway.respond_first`,
`Gateway.body_limit_exact`.
-/
import PaymentGateway.Proofs.Gateway.FaultMapping
import PaymentGateway.Proofs.Json.FirstValue

namespace PaymentGateway

open Json (Starts)
open Json.Reader (run State)

/-! ### The first value of a body -/

namespace Http.Body

theorem first_le {body : List UInt8} (h : body.length ≤ limit) : first body ≠ .error .tooLarge := by
  rw [first, if_pos h]
  intro hrefused
  split at hrefused
  · cases hrefused
  · cases hrefused

/-- Of a body beyond the limit only the bytes up to it are read. -/
theorem first_take {body body' : List UInt8} (h : limit < body.length) (h' : limit < body'.length)
    (hsame : body.take limit = body'.take limit) : first body = first body' := by
  rw [first, first, if_neg (Nat.not_le.mpr h), if_neg (Nat.not_le.mpr h'), hsame]

/-- **A body beyond the limit is too large exactly if the bytes up to the limit neither start with
a value nor are a mistake.** -/
theorem first_tooLarge_iff {body : List UInt8} (h : limit < body.length) :
    first body = .error .tooLarge ↔
      (∀ v, ¬Starts v (Text.Utf8.decode (body.take limit))) ∧
      ∃ more v, Starts v (Text.Utf8.decode (body.take limit) ++ more) := by
  rw [first, if_neg (Nat.not_le.mpr h)]
  generalize Text.Utf8.decode (body.take limit) = text
  constructor
  · intro hlarge
    split at hlarge
    · cases hlarge
    · cases hlarge
    · next hopen hnone =>
      refine ⟨fun v hstarts => ?_, ?_⟩
      · obtain ⟨junk, hrun⟩ := Json.closed_iff.mpr hstarts
        exact hopen v junk hrun
      · by_contra hno
        exact hnone (Json.failed_iff.mpr fun more v hstarts => hno ⟨more, v, hstarts⟩)
  · rintro ⟨hnone, more, v, hstarts⟩
    split
    · next w junk hrun => exact absurd (Json.closed_iff.mp ⟨junk, hrun⟩) (hnone w)
    · next hrun => exact absurd hstarts (Json.failed_iff.mp hrun more v)
    · rfl

/-- The byte of a closing brace. -/
def brace : UInt8 := 0x7D

/-- **A body whose first value is an object that closes within the limit is read as that object**,
whatever follows its last brace. -/
theorem first_object {front : List UInt8} {ms : List (List Char × Json)}
    (hfits : (Json.object ms).fits Json.maxDepth = true)
    (htext : Json.Spaced (Json.object ms).tokens (Text.Utf8.decode (front ++ [brace])))
    (hlength : (front ++ [brace]).length ≤ limit) (tail : List UInt8) :
    first (front ++ brace :: tail) = .ok (.object ms) := by
  have hrun (rest : List UInt8) :
      ∃ junk, run (Text.Utf8.decode (front ++ brace :: rest)) = .closed (.object ms) junk := by
    apply Json.closed_of_starts
    rw [Text.Utf8.decode_ascii (by decide)]
    exact ⟨_, _, hfits, htext, rfl, trivial⟩
  rw [first]
  split
  · obtain ⟨junk, hclosed⟩ := hrun tail
    rw [hclosed]
    rfl
  · have htake : (front ++ brace :: tail).take limit =
        front ++ brace :: tail.take (limit - (front ++ [brace]).length) := by
      rw [← List.singleton_append, ← List.append_assoc, List.take_append,
        List.take_of_length_le hlength, List.append_assoc]
      rfl
    obtain ⟨junk, hclosed⟩ := hrun (tail.take (limit - (front ++ [brace]).length))
    rw [htake, hclosed]

/-! ### Blanks in front -/

/-- Blanks as bytes. -/
def blanks (n : Nat) : List UInt8 := List.replicate n 32

theorem encode_blanks (n : Nat) : Text.Utf8.encode (List.replicate n ' ') = blanks n := by
  induction n with
  | zero => rfl
  | succ n ih =>
    show Text.Utf8.encodeChar ' ' ++ Text.Utf8.encode (List.replicate n ' ') = 32 :: blanks n
    rw [ih]
    rfl

theorem decode_blanks (n : Nat) (cs : List Char) :
    Text.Utf8.decode (blanks n ++ Text.Utf8.encode cs) = List.replicate n ' ' ++ cs := by
  have hencode :
      blanks n ++ Text.Utf8.encode cs = Text.Utf8.encode (List.replicate n ' ' ++ cs) := by
    rw [← encode_blanks, Text.Utf8.encode, Text.Utf8.encode, Text.Utf8.encode, List.flatMap_append]
  rw [hencode, Text.Utf8.decode_encode]

theorem isBlank_replicate (n : Nat) : Json.isBlank (List.replicate n ' ') = true := by
  rw [Json.isBlank, List.all_eq_true]
  intro c hc
  rw [List.eq_of_mem_replicate hc]
  rfl

/-- Blanks in front make no difference to the reader. -/
theorem run_blanks (n : Nat) (cs : List Char) : run (List.replicate n ' ' ++ cs) = run cs := by
  have hvalue : Json.Reader.Mode.value.isBetween = true := rfl
  exact Json.Reader.foldl_between hvalue (isBlank_replicate n) cs

theorem take_blanks (n k : Nat) (bs : List UInt8) :
    (blanks n ++ bs).take (n + k) = blanks n ++ bs.take k := by
  have hlength : (blanks n).length = n := List.length_replicate
  rw [List.take_append, hlength, List.take_of_length_le (by omega), Nat.add_sub_cancel_left]

/-- Blanks are no value yet, and no mistake. -/
theorem blanks_open (n : Nat) : (∀ v, ¬Starts v (List.replicate n ' ')) ∧
    ∃ more v, Starts v (List.replicate n ' ' ++ more) := by
  constructor
  · intro v hstarts
    obtain ⟨junk, hclosed⟩ := Json.closed_of_starts hstarts
    rw [← List.append_nil (List.replicate n ' '), run_blanks] at hclosed
    cases hclosed
  · refine ⟨['{', '}'], .object [], Json.closed_iff.mp ⟨false, ?_⟩⟩
    rw [run_blanks]
    rfl

/-- The part of a body of blanks that is read. -/
theorem decode_take_blanks {n k : Nat} (h : k ≤ n) :
    Text.Utf8.decode ((blanks n).take k) = List.replicate k ' ' := by
  have hdecode := decode_blanks k []
  rw [Text.Utf8.encode, List.flatMap_nil, List.append_nil, List.append_nil] at hdecode
  rw [blanks, List.take_replicate, Nat.min_eq_left h]
  exact hdecode

/-- A body of blanks and a word, with a blank after it. -/
def spacedNull (n : Nat) : List UInt8 := blanks n ++ Text.Utf8.bytes "null "

theorem length_spacedNull (n : Nat) : (spacedNull n).length = n + 5 := by
  rw [spacedNull, List.length_append, blanks, List.length_replicate]
  rfl

theorem decode_spacedNull (n : Nat) : Text.Utf8.decode ((spacedNull n).take (n + 4)) =
    List.replicate n ' ' ++ Json.null.write := by
  have hword : (Text.Utf8.bytes "null ").take 4 = Text.Utf8.encode Json.null.write := by
    decide +kernel
  rw [spacedNull, take_blanks, hword, decode_blanks]

theorem isText_spacedNull (n : Nat) :
    Json.IsText .null (List.replicate n ' ' ++ Json.null.write) := by
  refine ⟨List.replicate n ' ' ++ (Json.null.write ++ []), [], ?_, rfl, ?_⟩
  · exact .token (isBlank_replicate n) .nil
  · rw [List.append_nil, List.append_nil]

/-- At the end of the word the reader does not know yet that it has ended. -/
theorem first_spacedNull {n : Nat} (h : n + 4 = limit) :
    first (spacedNull n) = .error .tooLarge := by
  have hlong : ¬(spacedNull n).length ≤ limit := by
    rw [length_spacedNull, ← h]
    omega
  have hrun : run (Text.Utf8.decode ((spacedNull n).take limit)) = .scalar .null := by
    rw [← h, decode_spacedNull, run_blanks]
    rfl
  rw [first, if_neg hlong, hrun]

end Http.Body

namespace Gateway

open Http Handshake

variable {σ : Type}

/-! ### The answer to a body -/

/-- A request that runs an operation. -/
def IsPost (req : Request) : Prop :=
  Route.of req = .found .process ∨ Route.of req = .found .confirm

theorem faultResponse_status (f : Fault) : (faultResponse f).1.status ≠ 413 := by
  have hmapped := faultResponse_mapped f
  generalize faultResponse f = x at hmapped
  cases hmapped <;> simp

theorem exchange_status {α : Type} (document : α → Json) (o : Outcome σ α) :
    (exchange document o).response.status ≠ 413 := by
  unfold exchange
  split
  · exact nofun
  · next f _ => exact faultResponse_status f

/-- The request that a value makes, if there is one. -/
def requestOf {α : Type} (ofJson? : Json → Option α) (found : Except Body.Refusal Json) :
    Except Body.Refusal α := do
  match ofJson? (← found) with
  | some a => .ok a
  | none => .error .malformed

/-- An operation is answered 413 exactly if its body was refused as too large. -/
theorem operate_status {α β : Type} (r : Registry) (s : σ) (document : β → Json)
    (op : Registry → σ → α → Outcome σ β) (ofJson? : Json → Option α)
    (found : Except Body.Refusal Json) :
    (operate r s document op (requestOf ofJson? found)).response.status = 413 ↔
      found = .error .tooLarge := by
  cases found with
  | error refusal =>
    cases refusal <;> simp [requestOf, operate, still, refusalResponse, bind, Except.bind]
  | ok v =>
    have hstatus : (operate r s document op (requestOf ofJson? (.ok v))).response.status ≠ 413 := by
      cases hv : ofJson? v with
      | none => simp [requestOf, operate, still, refusalResponse, bind, Except.bind, hv]
      | some a =>
        have hrequest : requestOf ofJson? (.ok v) = .ok a := by
          simp only [requestOf, bind, Except.bind, hv]
        rw [hrequest]
        exact exchange_status document _
    exact ⟨fun h => absurd h hstatus, nofun⟩

/-- The answer of an operation to the value that was found, with the fields of its request. -/
def answerTo {α β : Type} (r : Registry) (s : σ) (req : Request) (document : β → Json)
    (op : Registry → σ → α → Outcome σ β) (ofJson? : Json → Option α)
    (found : Except Body.Refusal Json) : Exchange σ :=
  let x := operate r s document op (requestOf ofJson? found)
  { x with response := x.response.withFields (Cors.fields req) }

/-- **The answer depends on the first value of the body only**, and is 413 exactly if the body is
too large. -/
theorem respond_first (b : Backend σ) (counted : Bool) (r : Registry) (s : σ) {req : Request}
    (h : IsPost req) : ∃ answer : Except Body.Refusal Json → Exchange σ,
      (∀ body, respond b counted r s { req with body } = answer (Body.first body)) ∧
      ∀ found, (answer found).response.status = 413 ↔ found = .error .tooLarge := by
  -- the route of a request does not depend on its body
  obtain hroute | hroute := h
  · refine ⟨answerTo r s req createdJson b.create Body.processOfJson?, fun body => ?_, ?_⟩
    · have hbody : Route.of { req with body } = .found .process := hroute
      exact respond_served b counted r s hbody
    · exact operate_status r s createdJson b.create Body.processOfJson?
  · refine ⟨answerTo r s req confirmedJson b.confirm Body.confirmOfJson?, fun body => ?_, ?_⟩
    · have hbody : Route.of { req with body } = .found .confirm := hroute
      exact respond_served b counted r s hbody
    · exact operate_status r s confirmedJson b.confirm Body.confirmOfJson?

/-- **The limit on bodies is exact, and nothing beyond it matters.** A body of at most 1048576 bytes
is never answered 413. Longer bodies that agree up to there are answered alike, with the same
effects. A longer body is answered 413 exactly if its first 1048576 bytes neither start with a value
nor are a mistake. And what follows the last brace of an object that closes within the limit, as
first value of the body, changes neither the answer nor the effects. -/
theorem body_limit_exact (b : Backend σ) (counted : Bool) (r : Registry) (s : σ) {req : Request}
    (h : IsPost req) :
    (∀ body, body.length ≤ 1048576 →
      (respond b counted r s { req with body }).response.status ≠ 413) ∧
    (∀ body body', 1048576 < body.length → 1048576 < body'.length →
      body.take 1048576 = body'.take 1048576 →
      respond b counted r s { req with body } = respond b counted r s { req with body := body' }) ∧
    (∀ body, 1048576 < body.length →
      let text := Text.Utf8.decode (body.take 1048576)
      ((respond b counted r s { req with body }).response.status = 413 ↔
        (∀ v, ¬Starts v text) ∧ ∃ more v, Starts v (text ++ more))) ∧
    ∀ front ms, (Json.object ms).fits Json.maxDepth = true →
      Json.Spaced (Json.object ms).tokens (Text.Utf8.decode (front ++ [Body.brace])) →
      (front ++ [Body.brace]).length ≤ 1048576 → ∀ tail tail',
      respond b counted r s { req with body := front ++ Body.brace :: tail } =
        respond b counted r s { req with body := front ++ Body.brace :: tail' } := by
  obtain ⟨answer, hanswer, hstatus⟩ := respond_first b counted r s h
  simp only [hanswer]
  refine ⟨fun body hle => ?_, fun body body' hlong hlong' hsame => ?_, fun body hlong => ?_,
    fun front ms hfits htext hlength tail tail' => ?_⟩
  · rw [ne_eq, hstatus]
    exact Body.first_le hle
  · rw [Body.first_take hlong hlong' hsame]
  · exact (hstatus _).trans (Body.first_tooLarge_iff hlong)
  · rw [Body.first_object hfits htext hlength tail, Body.first_object hfits htext hlength tail']

/-- Blanks up to the limit are not answered 413, one more makes them so; and an empty object is
answered alike, whatever follows it. -/
theorem body_limit_exact_blanks :
    let p := Sandbox.provider fun n => Digits.text n
    let req : Request := ⟨"POST", "/payments/process", [], []⟩
    let answer := fun body => respond (.ofProvider p fun _ => none) true (Registry.new 3 1000)
      Sandbox.empty { req with body }
    (answer (Body.blanks 1048576)).response.status ≠ 413 ∧
      (answer (Body.blanks 1048577)).response.status = 413 ∧
      answer (Text.Utf8.bytes "\x7b\x7d") = answer (Text.Utf8.bytes "\x7b\x7d, and so on") := by
  intro p req answer
  have hpost : IsPost req := .inl (by decide +kernel)
  obtain ⟨hwithin, -, hbeyond, hobject⟩ := body_limit_exact (.ofProvider p fun _ => none) true
    (Registry.new 3 1000) Sandbox.empty hpost
  have hlength (n : Nat) : (Body.blanks n).length = n := List.length_replicate
  refine ⟨hwithin _ (Nat.le_of_eq (hlength 1048576)), ?_, ?_⟩
  · have hopen := Body.blanks_open 1048576
    rw [← Body.decode_take_blanks (show 1048576 ≤ 1048577 by omega)] at hopen
    exact (hbeyond _ (by rw [hlength]; omega)).mpr hopen
  · have hdecode : Text.Utf8.decode (Text.Utf8.bytes "\x7b" ++ [Body.brace]) = ['{', '}'] := by
      decide +kernel
    have hspaced : Json.Spaced (Json.object []).tokens ['{', '}'] :=
      Json.Spaced.flatten [['{'], ['}']]
    rw [← hdecode] at hspaced
    exact hobject (Text.Utf8.bytes "\x7b") [] rfl hspaced (by decide +kernel) []
      (Text.Utf8.bytes ", and so on")

/-- **A word that ends with the last byte that is read makes the body too large**, although these
bytes are a text of it. -/
theorem null_at_limit :
    let p := Sandbox.provider fun n => Digits.text n
    let body := Body.spacedNull 1048572
    let x := respond (.ofProvider p fun _ => none) true (Registry.new 3 1000) Sandbox.empty
      ⟨"POST", "/payments/process", [], body⟩
    1048576 < body.length ∧ Json.IsText .null (Text.Utf8.decode (body.take 1048576)) ∧
      x.response.status = 413 := by
  intro p body x
  have hpost : IsPost ⟨"POST", "/payments/process", [], []⟩ := .inl (by decide +kernel)
  obtain ⟨answer, hanswer, hstatus⟩ := respond_first (.ofProvider p fun _ => none) true
    (Registry.new 3 1000) Sandbox.empty hpost
  have hx : x = answer (Body.first body) := hanswer body
  have htext : Text.Utf8.decode (body.take 1048576) =
      List.replicate 1048572 ' ' ++ Json.null.write := Body.decode_spacedNull 1048572
  refine ⟨?_, ?_, ?_⟩
  · have hlength : body.length = 1048572 + 5 := Body.length_spacedNull 1048572
    omega
  · rw [htext]
    exact Body.isText_spacedNull 1048572
  · rw [hx, hstatus]
    exact Body.first_spacedNull rfl

end Gateway
end PaymentGateway
