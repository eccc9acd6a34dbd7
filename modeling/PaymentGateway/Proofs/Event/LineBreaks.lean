/-
# When an audit line is one line

The line of an event shows the texts of the event as they are. Its type, the truth
value and the time hold no line break, so the line holds one exactly if a text does that
it shows: the id, the status, the state and, for a confirmation, the attach outcome
(`describe_oneLine_iff`). A text of a message may hold a line break although the message
holds none, since it may be escaped; so whoever writes the message can make one event
look like two (`forged_line`). A line without breaks is shown as one line.

Key definition: `Text.isOneLine`.
Key theorems: `Audit.line_oneLine_iff`, `Log.lines_of_oneLine`,
`Audit.describe_oneLine_iff`, `Audit.forged_line`.
-/
import PaymentGateway.Event.Audit
import PaymentGateway.Proofs.Text.Splitting
import PaymentGateway.Proofs.Time.Moment

namespace PaymentGateway

/-! ### Line breaks -/

namespace Text

/-- Neither a line feed nor a carriage return. -/
def isUnbroken (c : Char) : Bool := c ≠ '\n' && c ≠ '\r'

/-- A text without line breaks. -/
def isOneLine (s : String) : Bool := s.toList.all isUnbroken

theorem isOneLine_append (s t : String) :
    isOneLine (s ++ t) = (isOneLine s && isOneLine t) := by
  rw [isOneLine, String.toList_append, List.all_append]
  rfl

theorem newline_notMem {s : String} (h : isOneLine s = true) : '\n' ∉ s.toList := by
  intro hmem
  exact absurd (List.all_eq_true.mp h '\n' hmem) (by decide)

end Text

open Text (isOneLine isOneLine_append)

/-- **A text without line breaks is logged as one line**, behind a mark that has none
either. -/
theorem Log.lines_of_oneLine {mark s : String} (hmark : isOneLine mark = true)
    (hs : isOneLine s = true) : Log.lines mark s = [mark ++ s] := by
  have hline : Log.line s = s := by
    unfold Log.line
    split
    · next rest hrest =>
      have hmem : '\n' ∈ s.toList := by
        rw [← List.mem_reverse, hrest]
        exact List.mem_cons_self
      exact absurd hmem (Text.newline_notMem hs)
    · rfl
  have hwhole : isOneLine (mark ++ s) = true := by
    rw [isOneLine_append, hmark, hs]
    rfl
  rw [Log.lines, hline, Text.split_of_notMem (Text.newline_notMem hwhole), List.map_singleton,
    String.ofList_toList]

namespace Moment

theorem isUnbroken_of_isTimeChar {c : Char} (h : isTimeChar c = true) :
    Text.isUnbroken c = true := by
  have hne : ∀ x, isTimeChar x = false → c ≠ x := by
    rintro x hx rfl
    rw [h] at hx
    cases hx
  simp only [Text.isUnbroken, Bool.and_eq_true, decide_eq_true_eq, hne '\n' (by decide),
    hne '\r' (by decide), ne_eq, not_false_eq_true, and_self]

/-- A time is shown on one line. -/
theorem utcMillis_oneLine (m : Moment) : isOneLine m.utcMillis = true := by
  have htext : ((Civil.ofSeconds m.seconds).text ++
      '.' :: (Digits.padded 3 (m.nanos / 1000000) ++ ['Z'])).all isTimeChar = true := by
    simp only [List.all_append, List.all_cons, civil_all, padded_all]
    rfl
  rw [isOneLine, utcMillis, String.toList_ofList, List.all_eq_true]
  intro c hc
  exact isUnbroken_of_isTimeChar (List.all_eq_true.mp htext c hc)

end Moment

/-! ### The line of an event -/

namespace Audit

theorem yesNo_oneLine (b : Bool) : isOneLine (yesNo b) = true := by
  cases b <;> decide

/-- The texts that the line of an event shows. -/
def shown (e : Envelope) (d : IntentData) : List String :=
  [d.intentId, d.status, d.state] ++
    if e.type = Envelope.confirmedType then [d.attach] else []

/-- The line of an intent event has a line break only if a text has that it shows. -/
theorem line_oneLine_iff {e : Envelope} (htype : Envelope.isIntentType e.type = true)
    (d : IntentData) :
    isOneLine (line e d) = true ↔ ∀ s ∈ shown e d, isOneLine s = true := by
  have htypes : isOneLine e.type = true := by
    simp only [Envelope.isIntentType, Bool.or_eq_true, decide_eq_true_eq] at htype
    obtain h | h := htype <;> rw [h] <;> decide
  have htime : isOneLine (if e.occurredAt.isZero then "" else " at=" ++ e.occurredAt.utcMillis) =
      true := by
    split
    · decide
    · rw [isOneLine_append, Moment.utcMillis_oneLine]
      decide
  have hattach : isOneLine (if d.attach = "" then "" else " attach=" ++ d.attach) =
      isOneLine d.attach := by
    split
    · next hempty =>
      rw [hempty]
    · rw [isOneLine_append]
      exact Bool.true_and _
  have hwords : ∀ s ∈ [" intent=", " status=", " state=", " requires_action="],
      isOneLine s = true := by decide
  simp only [List.forall_mem_cons, List.not_mem_nil, false_implies, implies_true, and_true]
    at hwords
  unfold line shown
  by_cases hconfirmed : e.type = Envelope.confirmedType
  · simp only [isOneLine_append, hconfirmed ▸ htypes, hwords, hconfirmed, ↓reduceIte, yesNo_oneLine,
      hattach, htime, Bool.true_and, Bool.and_true, Bool.and_eq_true, List.forall_mem_cons,
      List.cons_append, List.nil_append, List.not_mem_nil, false_implies, implies_true, and_true,
      and_assoc]
  · have hempty : isOneLine "" = true := rfl
    simp only [isOneLine_append, htypes, hwords, hconfirmed, ↓reduceIte, htime, hempty,
      Bool.true_and, Bool.and_true, Bool.and_eq_true, List.forall_mem_cons, List.append_nil,
      List.not_mem_nil, false_implies, implies_true, and_true, and_assoc]

theorem ofJson_some {v : Json} {e : Envelope} {d : IntentData}
    (h : Envelope.ofJson v = .ok (e, some d)) : Envelope.isIntentType e.type = true := by
  unfold Envelope.ofJson at h
  split at h
  · cases h
  · simp only at h
    split at h
    · next htype =>
      split at h
      · cases h
        exact htype
      · cases h
    · cases h

/-- What is described is an intent event, and its line is what it is described by. -/
theorem describe_some {message : List UInt8} {l : String} (h : describe message = .ok (some l)) :
    ∃ e d, Envelope.read message = .ok (e, some d) ∧ Envelope.isIntentType e.type = true ∧
      l = line e d := by
  unfold describe at h
  split at h
  · cases h
  · next e data hread =>
    cases data with
    | none => cases h
    | some d =>
      have htype : Envelope.isIntentType e.type = true := by
        unfold Envelope.read at hread
        split at hread
        · cases hread
        · exact ofJson_some hread
      cases h
      exact ⟨e, d, hread, htype, rfl⟩

/-- Options can be compared, results cannot. -/
theorem describe_of_toOption {message : List UInt8} {l : String}
    (h : (describe message).toOption = some (some l)) : describe message = .ok (some l) := by
  cases hd : describe message with
  | error f =>
    rw [hd] at h
    cases h
  | ok o =>
    rw [hd] at h
    cases h
    rfl

/-- **The line of a message is one line exactly if the texts of its event are** that the line
shows: the id, the status, the state and, for a confirmation, the attach outcome. If it is
one line, it is logged as one, behind any mark without line breaks. -/
theorem describe_oneLine_iff {message : List UInt8} {l : String}
    (h : describe message = .ok (some l)) :
    ∃ e d, Envelope.read message = .ok (e, some d) ∧
      (isOneLine l = true ↔ isOneLine d.intentId = true ∧ isOneLine d.status = true ∧
        isOneLine d.state = true ∧ (e.type = Envelope.confirmedType → isOneLine d.attach = true)) ∧
      (isOneLine l = true → ∀ mark, isOneLine mark = true → Log.lines mark l = [mark ++ l]) := by
  obtain ⟨e, d, hread, htype, rfl⟩ := describe_some h
  refine ⟨e, d, hread, ?_, fun hl mark hmark => Log.lines_of_oneLine hmark hl⟩
  rw [line_oneLine_iff htype]
  by_cases hconfirmed : e.type = Envelope.confirmedType
  · simp [shown, hconfirmed]
  · simp [shown, hconfirmed]

/-- A creation whose id holds a line separator, which is no line break, and whose attach
outcome holds a line feed, which the line of a creation does not show. -/
theorem describe_oneLine_hidden :
    let message := Text.Utf8.bytes ("\x7b\"eventType\":\"PaymentIntentCreated\"," ++
      "\"data\":\x7b\"intentId\":\"\\u2028\",\"attach\":\"\\n\"\x7d\x7d")
    let l := "PaymentIntentCreated intent=\u2028 status= state="
    describe message = .ok (some l) ∧ isOneLine l = true ∧ Log.lines "> " l = ["> " ++ l] := by
  intro message l
  have hdescribe : describe message = .ok (some l) :=
    describe_of_toOption (by decide +kernel)
  have hone : isOneLine l = true := by decide +kernel
  obtain ⟨_, _, -, -, hlogged⟩ := describe_oneLine_iff hdescribe
  exact ⟨hdescribe, hone, hlogged hone "> " (by decide)⟩

/-- **A message without a line break is logged as two lines**, the second of which looks like
the line of a confirmation: the id of its event holds an escaped line feed. -/
theorem forged_line :
    let message := Text.Utf8.bytes ("\x7b\"eventType\":\"PaymentIntentCreated\"," ++
      "\"data\":\x7b\"intentId\":\"a\\nPaymentIntentConfirmed intent=b\"\x7d\x7d")
    let l := "PaymentIntentCreated intent=a\nPaymentIntentConfirmed intent=b status= state="
    message.all (fun b => b ≠ 10 && b ≠ 13) = true ∧ describe message = .ok (some l) ∧
      isOneLine l = false ∧ Log.lines "" l =
        ["PaymentIntentCreated intent=a", "PaymentIntentConfirmed intent=b status= state="] := by
  intro message l
  have hdescribe : describe message = .ok (some l) :=
    describe_of_toOption (by decide +kernel)
  exact ⟨by decide +kernel, hdescribe, by decide +kernel, by decide +kernel⟩

end Audit
end PaymentGateway
