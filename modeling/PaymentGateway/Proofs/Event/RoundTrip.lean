/-
# Events survive the wire

An intent event that is written is read back as it was (`read_write`), whatever
characters its texts hold: the bytes decode to the text, the text parses to the
document, the members of the document name the fields they were written for, and
the time is read back to the nanosecond. Fields that are left out because they
are empty are those that an event starts out with when it is read.

The only changes are those that stamping makes: an empty version becomes the
first one, a time that is not set becomes the time of writing.

Key definition: `Moment.Sendable`.
Key theorems: `IntentData.ofJson?_toJson`, `Envelope.ofJson_toJson`,
`Envelope.read_write`, `Envelope.round_trip`.
-/
import PaymentGateway.Event.Envelope
import PaymentGateway.Proofs.Json.RoundTrip
import PaymentGateway.Proofs.Text.Utf8
import PaymentGateway.Proofs.Time.Moment

namespace PaymentGateway

/-! ### Fields -/

namespace Json.Field

theorem text_ofText (old s : String) : text old (ofText s) = some s := by
  rw [ofText, text, Spelling.value_ofText]

theorem read_ofMembers {α : Type} (take : α → List Char → Json → Option α) (init : α)
    (ms : List (String × Json)) :
    read take init (ofMembers ms) =
      ms.foldlM (fun a m => take a (Spelling.ofText m.1) m.2) init := by
  rw [ofMembers, read, List.foldlM_map]

end Json.Field

open Json (Spelling.ofText)

namespace IntentData

/-- Every member that is written is taken by the field it was written for. -/
theorem take_written (d : IntentData) :
    (∀ s, d.take (Spelling.ofText "intentId") (Json.ofText s) = some { d with intentId := s }) ∧
    (∀ s, d.take (Spelling.ofText "status") (Json.ofText s) = some { d with status := s }) ∧
    (∀ s, d.take (Spelling.ofText "state") (Json.ofText s) = some { d with state := s }) ∧
    (∀ b, d.take (Spelling.ofText "requiresAction") (.bool b) =
      some { d with requiresAction := b }) ∧
    ∀ s, d.take (Spelling.ofText "attach") (Json.ofText s) = some { d with attach := s } := by
  refine ⟨?_, ?_, ?_, ?_, ?_⟩ <;> intro x <;>
    simp +decide [take, Json.Field.text_ofText, Json.Field.flag]

/-- **The data of an intent is read back from its document.** -/
theorem ofJson?_toJson (d : IntentData) : ofJson? d.toJson = some d := by
  obtain ⟨intentId, status, state, requiresAction, attach⟩ := d
  have hflag (d : IntentData) (hd : d.requiresAction = false) :
      (if requiresAction then [("requiresAction", Json.bool true)] else []).foldlM
        (fun a m => take a (Spelling.ofText m.1) m.2) d = some { d with requiresAction } := by
    cases requiresAction with
    | false =>
      show some d = some { d with requiresAction := false }
      rw [← hd]
    | true => simp [take_written]
  have hattach (d : IntentData) (hd : d.attach = "") :
      (if attach = "" then [] else [("attach", Json.ofText attach)]).foldlM
        (fun a m => take a (Spelling.ofText m.1) m.2) d = some { d with attach } := by
    by_cases h : attach = ""
    · simp [h, ← hd]
    · simp [h, take_written]
  simp only [ofJson?, toJson, Json.Field.read_ofMembers, List.foldlM_append, List.foldlM_cons,
    List.foldlM_nil, take_written, Option.bind_eq_bind, Option.bind_some, Option.pure_def]
  rw [hflag _ rfl, Option.bind_some, hattach _ rfl]

theorem toJson_fits (d : IntentData) (room : Nat) : d.toJson.fits (room + 1) = true := by
  apply Json.ofMembers_fits
  intro m hm
  simp only [List.mem_append, List.mem_cons, List.not_mem_nil, or_false, List.mem_ite_nil_right,
    List.mem_ite_nil_left] at hm
  obtain ((rfl | rfl | rfl) | ⟨-, rfl⟩) | ⟨-, rfl⟩ := hm
  · exact Json.ofText_fits _ _
  · exact Json.ofText_fits _ _
  · exact Json.ofText_fits _ _
  · rfl
  · exact Json.ofText_fits _ _

end IntentData

/-! ### Envelopes -/

/-- A moment in universal time that has a text. -/
structure Moment.Sendable (m : Moment) : Prop where
  utc : m.offset = 0
  nanos : m.nanos < 1000000000
  year : 0 ≤ m.civil.date.year ∧ m.civil.date.year ≤ 9999

theorem Moment.Sendable.write? {m : Moment} (h : m.Sendable) :
    m.write? = some (String.ofList m.text) := by
  have hoffset : m.offset.natAbs / 3600 < 24 := by rw [h.utc]; decide
  rw [Moment.write?, if_pos ⟨h.year.1, h.year.2, hoffset⟩]

theorem Moment.toNat_lt_of_isTimeChar {c : Char} (h : Moment.isTimeChar c = true) :
    c.toNat < 128 := by
  simp only [Moment.isTimeChar, Bool.or_eq_true, Char.isDigit, Bool.and_eq_true, decide_eq_true_eq,
    List.mem_cons, List.not_mem_nil, or_false] at h
  obtain ⟨-, hdigit⟩ | rfl | rfl | rfl | rfl | rfl | rfl := h
  · have hle : c.toNat ≤ 57 := hdigit
    omega
  all_goals decide

/-- The text of a moment is spelled as it is. -/
theorem Moment.spelling_text (m : Moment) : Spelling.ofText (String.ofList m.text) = m.text := by
  have hplain : ∀ n < 128, Moment.isTimeChar (Char.ofNat n) = true →
      Json.Spelling.ofChar (Char.ofNat n) = [Char.ofNat n] := by decide
  apply Json.Spelling.ofText_plain
  intro c hc
  have htime := List.all_eq_true.mp m.text_all c hc
  have hself := hplain c.toNat (Moment.toNat_lt_of_isTimeChar htime)
  rw [Char.ofNat_toNat] at hself
  exact hself htime

namespace Envelope

theorem timeField_ofText (old : Moment) (s : String) :
    timeField old (Json.ofText s) = Moment.read? (Spelling.ofText s) := rfl

/-- Every member that is written is taken by the field it was written for, the
time as it is spelled. -/
theorem take_written (r : Raw) :
    (∀ s, r.take (Spelling.ofText "eventType") (Json.ofText s) =
      some { r with envelope := { r.envelope with type := s } }) ∧
    (∀ s, r.take (Spelling.ofText "eventVersion") (Json.ofText s) =
      some { r with envelope := { r.envelope with version := s } }) ∧
    (∀ s, r.take (Spelling.ofText "occurredAt") (Json.ofText s) =
      (Moment.read? (Spelling.ofText s)).map fun m =>
        { r with envelope := { r.envelope with occurredAt := m } }) ∧
    (∀ s, r.take (Spelling.ofText "aggregateId") (Json.ofText s) =
      some { r with envelope := { r.envelope with aggregateId := s } }) ∧
    ∀ v, r.take (Spelling.ofText "data") v = some { r with data := some v } := by
  refine ⟨?_, ?_, ?_, ?_, ?_⟩ <;> intro x <;>
    simp +decide [Raw.take, Json.Field.text_ofText, timeField_ofText]

/-- **An intent event is read back from its document.** -/
theorem ofJson_toJson {e : Envelope} {d : IntentData} {time : String}
    (htype : isIntentType e.type = true) (hdata : e.data = some (.intent d))
    (htime : Moment.read? (Spelling.ofText time) = some e.occurredAt) :
    ofJson (e.toJson time) = .ok (e, some d) := by
  have hread : Json.Field.read Raw.take ⟨blank, none⟩ (e.toJson time) =
      some ⟨{ e with data := none }, some d.toJson⟩ := by
    simp only [toJson, Json.Field.read_ofMembers, List.foldlM_cons, List.foldlM_nil, take_written,
      htime, hdata, dataJson, Option.map_some, Option.bind_eq_bind, Option.bind_some,
      Option.pure_def, blank]
  rw [ofJson, hread]
  simp only [htype, ↓reduceIte, Option.getD_some, IntentData.ofJson?_toJson, ← hdata]

theorem toJson_fits {e : Envelope} {d : IntentData} (hdata : e.data = some (.intent d))
    (time : String) : (e.toJson time).fits Json.maxDepth = true := by
  show (e.toJson time).fits (9998 + 1 + 1) = true
  apply Json.ofMembers_fits
  intro m hm
  simp only [List.mem_cons, List.not_mem_nil, or_false] at hm
  obtain rfl | rfl | rfl | rfl | rfl := hm
  · exact Json.ofText_fits _ _
  · exact Json.ofText_fits _ _
  · exact Json.ofText_fits _ _
  · exact Json.ofText_fits _ _
  · rw [hdata]
    exact d.toJson_fits 9998

/-- The document whose text the bytes are is what they are read as. -/
theorem read_render {v : Json} (h : v.fits Json.maxDepth = true) :
    read (Text.Utf8.bytes v.render) = ofJson v := by
  rw [read, Text.Utf8.bytes, Text.Utf8.decode_encode, Json.render, String.toList_ofList,
    Json.parse?_write h]

theorem write_of_text {now : Moment} {e : Envelope} {time : String}
    (h : (e.stamped now).occurredAt.write? = some time) :
    e.write now = .ok ((e.stamped now).toJson time).render := by
  unfold write
  extract_lets s
  rw [h]

/-- **An intent event that is written is read back as it was stamped.** -/
theorem read_write {now : Moment} {e : Envelope} {d : IntentData}
    (htype : isIntentType e.type = true) (hdata : e.data = some (.intent d))
    (htime : (e.stamped now).occurredAt.Sendable) :
    ∃ text, e.write now = .ok text ∧
      read (Text.Utf8.bytes text) = .ok (e.stamped now, some d) := by
  have hspelled : Moment.read? (Spelling.ofText (String.ofList (e.stamped now).occurredAt.text)) =
      some (e.stamped now).occurredAt := by
    rw [Moment.spelling_text, Moment.read?_text htime.utc htime.nanos htime.year]
  have hstamped : (e.stamped now).data = some (.intent d) := hdata
  refine ⟨_, write_of_text htime.write?, ?_⟩
  rw [read_render (toJson_fits hstamped _)]
  exact ofJson_toJson htype hstamped hspelled

/-- **Events round-trip.** An event of an intent, with any texts, any version and
any time in universal time that was set, is written, and what is read back is the
event and its data; an empty version comes back as the first. -/
theorem round_trip (type : String) (htype : type = createdType ∨ type = confirmedType)
    (d : IntentData) (version : String) (time now : Moment) (hset : time.isZero = false)
    (htime : time.Sendable) :
    ∃ text, ({ ofIntent type d with version, occurredAt := time } : Envelope).write now = .ok text ∧
      read (Text.Utf8.bytes text) =
        .ok ({ ofIntent type d with
          version := if version = "" then "v1" else version, occurredAt := time }, some d) := by
  have hstamped : ({ ofIntent type d with version, occurredAt := time } : Envelope).stamped now =
      { ofIntent type d with
        version := if version = "" then "v1" else version, occurredAt := time } := by
    simp only [stamped, hset, Bool.false_eq_true, ↓reduceIte]
  have hintent : isIntentType type = true := by simpa [isIntentType] using htype
  rw [← hstamped]
  apply read_write hintent rfl
  rw [hstamped]
  exact htime

/-- An event with quotes, a backslash, controls, markup, a line separator and an
astral character, no version, and a time whose fraction ends in zeros. -/
theorem round_trip_escaped :
    ∃ text, ({ ofIntent confirmedType
          ⟨"pi_\"1\"\\", "<b>&\u2028", "\x01\n😀", true, "né"⟩ with
        version := "", occurredAt := ⟨951782400, 120000000, 0⟩ } : Envelope).write .zero = .ok text ∧
      read (Text.Utf8.bytes text) =
        .ok ({ ofIntent confirmedType ⟨"pi_\"1\"\\", "<b>&\u2028", "\x01\n😀", true, "né"⟩ with
          version := "v1", occurredAt := ⟨951782400, 120000000, 0⟩ },
          some ⟨"pi_\"1\"\\", "<b>&\u2028", "\x01\n😀", true, "né"⟩) :=
  round_trip confirmedType (.inr rfl) _ "" ⟨951782400, 120000000, 0⟩ .zero (by decide)
    ⟨rfl, by decide, by decide⟩

end Envelope
end PaymentGateway
