/-
# Flat objects

The documents that the gateway takes and gives are objects whose values are no
containers. A text is such an object with given fields if it is a text of a document
with one member for each field, in order, and the literals of the member denote the
field (`IsObject`). This leaves open the blanks, and how the names and the texts are
spelled.

The reader takes such a text to its members (`IsObject.finish?_eq`), so a text is an
object with no more than one list of fields (`IsObject.unique`). What is written is one
(`isObject_render`).

Key definitions: `Json.Datum`, `Json.Says`, `Json.Member`, `Json.IsObject`.
Key theorems: `Json.IsObject.finish?_eq`, `Json.IsObject.unique`, `Json.isObject_render`.
-/
import Mathlib.Data.List.Forall2
import PaymentGateway.Proofs.Json.RoundTrip

namespace PaymentGateway
namespace Json

/-- What a value says that is no container; a number says its numeral. -/
inductive Datum where
  | null
  | flag (value : Bool)
  | number (numeral : List Char)
  | text (value : String)
  deriving DecidableEq

/-- The values that say something. A string says what its literal denotes. -/
inductive Says : Json → Datum → Prop where
  | null : Says .null .null
  | flag (b : Bool) : Says (.bool b) (.flag b)
  | number {n : List Char} (numeral : isNumeral n = true) : Says (.number n) (.number n)
  | text {s : List Char} {t : String} (literal : Spelling.Denotes s t.toList) :
    Says (.string s) (.text t)

/-- A member of an object and the field it is: name and value. -/
def Member (m : List Char × Json) (f : String × Datum) : Prop :=
  Spelling.Denotes m.1 f.1.toList ∧ Says m.2 f.2

/-- **The text is a JSON object with these fields**, in this order and no others. -/
def IsObject (text : List Char) (fields : List (String × Datum)) : Prop :=
  ∃ ms, List.Forall₂ Member ms fields ∧ IsText (.object ms) text

/-! ### What members say -/

theorem denotes_value {s : List Char} {t : String} (h : Spelling.Denotes s t.toList) :
    Spelling.value s = t := by
  rw [h.value_eq]
  exact String.ofList_toList

theorem Says.fits {v : Json} {d : Datum} (h : Says v d) (room : Nat) : v.fits room = true := by
  cases h with
  | null => rw [Json.fits]
  | flag b => rw [Json.fits]
  | number numeral => rw [Json.fits, numeral]
  | text literal => rw [Json.fits, literal.isSpelled]

theorem Says.unique {v : Json} {d d' : Datum} (h : Says v d) (h' : Says v d') : d = d' := by
  cases h with
  | null => cases h'; rfl
  | flag b => cases h'; rfl
  | number _ => cases h'; rfl
  | text literal =>
    cases h' with
    | text literal' => rw [← denotes_value literal, ← denotes_value literal']

theorem members_fit {ms : List (List Char × Json)} {fields : List (String × Datum)}
    (h : List.Forall₂ Member ms fields) (room : Nat) : (Json.object ms).fits (room + 1) = true := by
  rw [Json.fits]
  induction h with
  | nil => rfl
  | cons hmember _ ih =>
    rw [membersFit, hmember.1.isSpelled, hmember.2.fits, ih]
    rfl

theorem members_unique {ms : List (List Char × Json)} {fields : List (String × Datum)}
    (h : List.Forall₂ Member ms fields) : ∀ {fields' : List (String × Datum)},
    List.Forall₂ Member ms fields' → fields = fields' := by
  induction h with
  | nil => intro _ h'; cases h'; rfl
  | cons hmember _ ih =>
    intro _ h'
    obtain _ | ⟨hmember', hrest'⟩ := h'
    have hname := (denotes_value hmember.1).symm.trans (denotes_value hmember'.1)
    rw [ih hrest', Prod.ext hname (hmember.2.unique hmember'.2)]

/-! ### Reading and writing -/

/-- **The reader takes an object to its members.** -/
theorem IsObject.finish?_eq {text : List Char} {fields : List (String × Datum)}
    (h : IsObject text fields) :
    ∃ ms, List.Forall₂ Member ms fields ∧
      (Reader.run text).finish? = some (.object ms, false) := by
  obtain ⟨ms, hms, htext⟩ := h
  have hfits : (Json.object ms).fits maxDepth = true := members_fit hms 9999
  exact ⟨ms, hms, finish?_text hfits htext⟩

/-- A text is an object in one way only. -/
theorem IsObject.unique {text : List Char} {fields fields' : List (String × Datum)}
    (h : IsObject text fields) (h' : IsObject text fields') : fields = fields' := by
  obtain ⟨ms, hms, hread⟩ := h.finish?_eq
  obtain ⟨ms', hms', hread'⟩ := h'.finish?_eq
  have hsame : ms = ms' := by
    rw [hread] at hread'
    injection hread' with hpair
    injection hpair with hobject
    injection hobject
  exact members_unique hms (hsame ▸ hms')

theorem says_ofText (s : String) : Says (ofText s) (.text s) := .text (Spelling.denotes_ofText s)

/-- **A document of named values is written as an object with these fields.** -/
theorem isObject_render {ms : List (String × Json)} {fields : List (String × Datum)}
    (h : List.Forall₂ (fun m f => m.1 = f.1 ∧ Says m.2 f.2) ms fields) :
    IsObject ((ofMembers ms).render ++ "\n").toList fields := by
  refine ⟨ms.map fun m => (Spelling.ofText m.1, m.2), ?_, ?_⟩
  · rw [List.forall₂_map_left_iff]
    refine h.imp fun m f hmf => ⟨?_, hmf.2⟩
    rw [← hmf.1]
    exact Spelling.denotes_ofText m.1
  · rw [String.toList_append, render, String.toList_ofList]
    exact isText_write _ (by decide)

end Json
end PaymentGateway
