/-
# Texts of a document

A document has many texts: between two of its tokens, before the first and after the
last there may be blanks (`IsText`). The text in which it is written has none
(`isText_write`).

Key definitions: `Json.tokens`, `Json.Spaced`, `Json.IsText`.
Key theorems: `Json.Spaced.split`, `Json.isText_write`.
-/
import PaymentGateway.Json.Writer

namespace PaymentGateway
namespace Json

mutual

/-- The tokens of a document, in order. A string with its quotes is one token. -/
def tokens : Json → List (List Char)
  | .null => [Json.null.write]
  | .bool b => [(Json.bool b).write]
  | .number n => [n]
  | .string s => [writeString s]
  | .array [] => [['['], [']']]
  | .array (v :: vs) => ['['] :: (v.tokens ++ (itemTokens vs ++ [[']']]))
  | .object [] => [['{'], ['}']]
  | .object ((k, v) :: ms) =>
    ['{'] :: writeString k :: [':'] :: (v.tokens ++ (memberTokens ms ++ [['}']]))

/-- The tokens of the items after the first. -/
def itemTokens : List Json → List (List Char)
  | [] => []
  | v :: vs => [','] :: (v.tokens ++ itemTokens vs)

/-- The tokens of the members after the first. -/
def memberTokens : List (List Char × Json) → List (List Char)
  | [] => []
  | (k, v) :: ms => [','] :: writeString k :: [':'] :: (v.tokens ++ memberTokens ms)

end

/-- Nothing but blanks. -/
def isBlank (cs : List Char) : Bool := cs.all isSpace

/-- The tokens in order, with blanks before each of them. -/
inductive Spaced : List (List Char) → List Char → Prop where
  | nil : Spaced [] []
  | token {blanks token rest : List Char} {tokens : List (List Char)}
    (blank : isBlank blanks = true) (tail : Spaced tokens rest) :
    Spaced (token :: tokens) (blanks ++ (token ++ rest))

/-- **A text of a document**: its tokens, with blanks before, between and after
them. -/
def IsText (v : Json) (text : List Char) : Prop :=
  ∃ inner blanks, Spaced v.tokens inner ∧ isBlank blanks = true ∧ text = inner ++ blanks

namespace Spaced

/-- Where the tokens are split the text is. -/
theorem split {us : List (List Char)} : ∀ {ts : List (List Char)} {text : List Char},
    Spaced (ts ++ us) text → ∃ front back, Spaced ts front ∧ Spaced us back ∧ text = front ++ back
  | [], text, h => ⟨[], text, .nil, h, rfl⟩
  | t :: ts, _, @Spaced.token blanks _ _ _ blank tail => by
    obtain ⟨front, back, hfront, hback, rfl⟩ := split tail
    refine ⟨blanks ++ (t ++ front), back, .token blank hfront, hback, ?_⟩
    simp only [List.append_assoc]

/-- Without any blanks. -/
theorem flatten : ∀ ts : List (List Char), Spaced ts ts.flatten
  | [] => .nil
  | _ :: ts => @Spaced.token [] _ _ _ rfl (flatten ts)

end Spaced

mutual

/-- A document is written token by token. -/
theorem flatten_tokens : ∀ v : Json, v.tokens.flatten = v.write
  | .null => rfl
  | .bool true => rfl
  | .bool false => rfl
  | .number n => List.append_nil n
  | .string s => List.append_nil _
  | .array [] => rfl
  | .array (v :: vs) => by
    rw [tokens, write, List.flatten_cons, List.flatten_append, List.flatten_append,
      flatten_tokens v, flatten_itemTokens vs]
    rfl
  | .object [] => rfl
  | .object ((k, v) :: ms) => by
    rw [tokens, write, List.flatten_cons, List.flatten_cons, List.flatten_cons,
      List.flatten_append, List.flatten_append, flatten_tokens v, flatten_memberTokens ms]
    rfl

theorem flatten_itemTokens : ∀ vs : List Json, (itemTokens vs).flatten = writeItems vs
  | [] => rfl
  | v :: vs => by
    rw [itemTokens, writeItems, List.flatten_cons, List.flatten_append, flatten_tokens v,
      flatten_itemTokens vs]
    rfl

theorem flatten_memberTokens : ∀ ms : List (List Char × Json),
    (memberTokens ms).flatten = writeMembers ms
  | [] => rfl
  | (k, v) :: ms => by
    rw [memberTokens, writeMembers, List.flatten_cons, List.flatten_cons, List.flatten_cons,
      List.flatten_append, flatten_tokens v, flatten_memberTokens ms]
    rfl

end

/-- **What is written is a text of the document**, also with blanks after it. -/
theorem isText_write (v : Json) {blanks : List Char} (blank : isBlank blanks = true) :
    IsText v (v.write ++ blanks) :=
  ⟨v.write, blanks, flatten_tokens v ▸ Spaced.flatten v.tokens, blank, rfl⟩

end Json
end PaymentGateway
