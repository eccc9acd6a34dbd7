/-
# The first fault of a kind

Of several faults of a kind in a tree the first one counts, from the outside in and from
left to right. Which one that is, is said here along the tree (`Fault.First`): the root if
it is of that kind; else the first one in the cause, or in the first of several causes in
which one occurs. It is what a search through the nodes comes upon
(`Fault.first_of_findSome?`), and there is no more than one (`Fault.First.unique`).

Key definitions: `Fault.Has`, `Fault.First`, `Fault.IsInvalid`, `Fault.IsCall`.
Key theorems: `Fault.First.unique`, `Fault.first_of_findSome?`, `Fault.invalid?_eq_some`,
`Fault.call?_eq_some`.
-/
import PaymentGateway.Proofs.Fault.Tree

namespace PaymentGateway
namespace Fault

/-- A fault of a kind occurs in the fault. -/
def Has (f : Fault) (kind : Fault → Prop) : Prop := ∃ g, Occurs g f ∧ kind g

/-- A bad request field. -/
def IsInvalid (f : Fault) : Prop := ∃ message, f = .invalid message

/-- A failed remote call of the handshake. -/
def IsCall (f : Fault) : Prop := ∃ op cause, f = .call op cause

/-- **The fault `g` is the first of a kind in a fault**, depth first. -/
inductive First (kind : Fault → Prop) (g : Fault) : Fault → Prop where
  | here (is : kind g) : First kind g g
  | remote {op code message : String} {status : Int} {cause : Fault}
    (root : ¬ kind (.remote op code message status (some cause))) (inside : First kind g cause) :
    First kind g (.remote op code message status (some cause))
  | call {op : String} {cause : Fault} (root : ¬ kind (.call op (some cause)))
    (inside : First kind g cause) : First kind g (.call op (some cause))
  | wrapped {before after : String} {cause : Fault} (root : ¬ kind (.wrapped before cause after))
    (inside : First kind g cause) : First kind g (.wrapped before cause after)
  | joined {before after : List Fault} {cause : Fault}
    (root : ¬ kind (.joined (before ++ cause :: after))) (clear : ∀ f ∈ before, ¬ f.Has kind)
    (inside : First kind g cause) : First kind g (.joined (before ++ cause :: after))

variable {kind : Fault → Prop} {f g g' : Fault}

theorem First.occurs (h : First kind g f) : Occurs g f ∧ kind g := by
  induction h with
  | here is => exact ⟨.here, is⟩
  | remote _ _ ih => exact ⟨.remote ih.1, ih.2⟩
  | call _ _ ih => exact ⟨.call ih.1, ih.2⟩
  | wrapped _ _ ih => exact ⟨.wrapped ih.1, ih.2⟩
  | joined _ _ _ ih => exact ⟨.joined (by simp) ih.1, ih.2⟩

theorem First.has (h : First kind g f) : f.Has kind := ⟨g, h.occurs⟩

/-- Of several faults there is one first in which a fault of a kind occurs. -/
theorem clear_unique {a b c d : List Fault} {x y : Fault} (h : a ++ x :: b = c ++ y :: d)
    (ha : ∀ f ∈ a, ¬ f.Has kind) (hc : ∀ f ∈ c, ¬ f.Has kind) (hx : x.Has kind)
    (hy : y.Has kind) : x = y := by
  rcases List.append_eq_append_iff.mp h with ⟨m, rfl, hm⟩ | ⟨m, rfl, hm⟩
  · cases m with
    | nil => exact (List.cons.inj hm).1
    | cons z m =>
      obtain ⟨rfl, -⟩ := List.cons.inj hm
      exact absurd hx (hc _ (by simp))
  · cases m with
    | nil => exact (List.cons.inj hm).1.symm
    | cons z m =>
      obtain ⟨rfl, -⟩ := List.cons.inj hm
      exact absurd hy (ha _ (by simp))

/-- **There is one first fault of a kind at most.** -/
theorem First.unique (h : First kind g f) (h' : First kind g' f) : g = g' := by
  induction h with
  | here is =>
    cases h' with
    | here _ => rfl
    | remote root _ => exact absurd is root
    | call root _ => exact absurd is root
    | wrapped root _ => exact absurd is root
    | joined root _ _ => exact absurd is root
  | remote root _ ih =>
    cases h' with
    | here is => exact absurd is root
    | remote _ inside => exact ih inside
  | call root _ ih =>
    cases h' with
    | here is => exact absurd is root
    | call _ inside => exact ih inside
  | wrapped root _ ih =>
    cases h' with
    | here is => exact absurd is root
    | wrapped _ inside => exact ih inside
  | joined root clear inside ih =>
    generalize hcauses : Fault.joined _ = whole at h' root
    cases h' with
    | here is => exact absurd is root
    | joined _ clear' inside' =>
      have hsame := clear_unique (Fault.joined.inj hcauses) clear clear' inside.has inside'.has
      exact ih (hsame ▸ inside')
    | remote _ _ => cases hcauses
    | call _ _ => cases hcauses
    | wrapped _ _ => cases hcauses

/-! ### A search through the nodes -/

theorem not_has_of_nodes (h : ∀ x ∈ f.nodes, ¬ kind x) : ¬ f.Has kind := by
  rintro ⟨g, hg, hkind⟩
  exact h g ((mem_nodes_iff g f).mpr hg) hkind

/-- The first node of a fault without causes is the fault. -/
theorem first_of_leaf {l r : List Fault} (leaf : f.nodes = [f]) (h : f.nodes = l ++ g :: r)
    (is : kind g) : First kind g f := by
  rw [leaf] at h
  cases l with
  | nil =>
    obtain ⟨rfl, -⟩ := List.cons.inj h
    exact .here is
  | cons x l => simp at h

/-- In a fault with something below it, the first node of a kind is the root, or the root is
not of that kind and the rest is below. -/
theorem first_of_cons {below l r : List Fault} (h : f :: below = l ++ g :: r) (is : kind g)
    (clear : ∀ x ∈ l, ¬ kind x)
    (inside : ∀ l', ¬ kind f → below = l' ++ g :: r → (∀ x ∈ l', ¬ kind x) → First kind g f) :
    First kind g f := by
  cases l with
  | nil =>
    obtain ⟨rfl, -⟩ := List.cons.inj h
    exact .here is
  | cons x l =>
    obtain ⟨rfl, hbelow⟩ := List.cons.inj h
    exact inside l (clear f List.mem_cons_self) hbelow fun y hy =>
      clear y (List.mem_cons_of_mem _ hy)

mutual

theorem first_of_nodes : ∀ (f : Fault) {l r : List Fault}, f.nodes = l ++ g :: r → kind g →
    (∀ x ∈ l, ¬ kind x) → First kind g f
  | .plain _, _, _, h, is, _ => first_of_leaf rfl h is
  | .invalid _, _, _, h, is, _ => first_of_leaf rfl h is
  | .notFound, _, _, h, is, _ => first_of_leaf rfl h is
  | .alreadyAttached, _, _, h, is, _ => first_of_leaf rfl h is
  | .canceled, _, _, h, is, _ => first_of_leaf rfl h is
  | .remote _ _ _ _ none, _, _, h, is, _ => first_of_leaf rfl h is
  | .remote _ _ _ _ (some cause), _, _, h, is, clear =>
    first_of_cons h is clear fun _ root below clear' =>
      .remote root (first_of_nodes cause below is clear')
  | .call _ none, _, _, h, is, _ => first_of_leaf rfl h is
  | .call _ (some cause), _, _, h, is, clear =>
    first_of_cons h is clear fun _ root below clear' =>
      .call root (first_of_nodes cause below is clear')
  | .wrapped _ cause _, _, _, h, is, clear =>
    first_of_cons h is clear fun _ root below clear' =>
      .wrapped root (first_of_nodes cause below is clear')
  | .joined causes, _, _, h, is, clear =>
    first_of_cons h is clear fun _ root below clear' => by
      obtain ⟨before, cause, after, rfl, hbefore, inside⟩ :=
        first_of_nodesOfAll causes below is clear'
      exact .joined root hbefore inside

theorem first_of_nodesOfAll : ∀ (fs : List Fault) {l r : List Fault},
    nodesOfAll fs = l ++ g :: r → kind g → (∀ x ∈ l, ¬ kind x) →
    ∃ before cause after, fs = before ++ cause :: after ∧ (∀ f ∈ before, ¬ f.Has kind) ∧
      First kind g cause
  | [], _, _, h, _, _ => by simp [nodesOfAll] at h
  | f :: fs, l, r, h, is, clear => by
    -- the split of all nodes falls into the first fault, or behind it
    have hlater : ∀ l', l = f.nodes ++ l' → nodesOfAll fs = l' ++ g :: r →
        ∃ before cause after, f :: fs = before ++ cause :: after ∧
          (∀ f ∈ before, ¬ f.Has kind) ∧ First kind g cause := by
      rintro l' rfl hrest
      obtain ⟨before, cause, after, rfl, hbefore, inside⟩ :=
        first_of_nodesOfAll fs hrest is fun x hx => clear x (List.mem_append_right _ hx)
      have hfirst : ¬ f.Has kind :=
        not_has_of_nodes fun x hx => clear x (List.mem_append_left _ hx)
      exact ⟨f :: before, cause, after, rfl, List.forall_mem_cons.mpr ⟨hfirst, hbefore⟩, inside⟩
    rw [nodesOfAll] at h
    rcases List.append_eq_append_iff.mp h with ⟨l', hl, hrest⟩ | ⟨m, hnodes, hm⟩
    · exact hlater l' hl hrest
    · cases m with
      | nil => exact hlater [] (by simpa using hnodes.symm) (by simpa using hm.symm)
      | cons x m =>
        obtain ⟨rfl, -⟩ := List.cons.inj hm
        exact ⟨[], f, fs, rfl, by simp, first_of_nodes f hnodes is clear⟩

end

/-- **A search through the nodes comes upon the first fault of the kind it looks for.** -/
theorem first_of_findSome? {α : Type} {pick : Fault → Option α} {a : α}
    (hkind : ∀ x, kind x ↔ pick x ≠ none) (h : f.nodes.findSome? pick = some a) :
    ∃ g, First kind g f ∧ pick g = some a := by
  obtain ⟨l, g, r, hnodes, hg, hl⟩ := List.findSome?_eq_some_iff.mp h
  refine ⟨g, first_of_nodes f hnodes ((hkind g).mpr (by simp [hg])) fun x hx hx' => ?_, hg⟩
  exact (hkind x).mp hx' (hl x hx)

theorem not_has_of_findSome? {α : Type} {pick : Fault → Option α}
    (hkind : ∀ x, kind x ↔ pick x ≠ none) (h : f.nodes.findSome? pick = none) :
    ¬ f.Has kind :=
  not_has_of_nodes fun x hx hx' => (hkind x).mp hx' (List.findSome?_eq_none_iff.mp h x hx)

/-! ### Bad fields and failed calls -/

theorem isInvalid_iff (f : Fault) : f.IsInvalid ↔
    (match f with
      | .invalid message => some message
      | _ => none) ≠ none := by
  cases f <;> simp [IsInvalid]

theorem isCall_iff (f : Fault) : f.IsCall ↔
    (match f with
      | .call op cause => some (op, (Fault.call op cause).text)
      | _ => none) ≠ none := by
  cases f <;> simp [IsCall]

theorem invalid?_eq_some {message : String} (h : f.invalid? = some message) :
    First IsInvalid (.invalid message) f := by
  obtain ⟨g, hg, hpick⟩ := first_of_findSome? isInvalid_iff h
  obtain ⟨m, rfl⟩ := hg.occurs.2
  cases hpick
  exact hg

theorem invalid?_eq_none (h : f.invalid? = none) : ¬ f.Has IsInvalid :=
  not_has_of_findSome? isInvalid_iff h

theorem call?_eq_some {op text : String} (h : f.call? = some (op, text)) :
    ∃ g, First IsCall g f ∧ text = g.text := by
  obtain ⟨g, hg, hpick⟩ := first_of_findSome? isCall_iff h
  obtain ⟨op', cause, rfl⟩ := hg.occurs.2
  cases hpick
  exact ⟨_, hg, rfl⟩

theorem call?_eq_none (h : f.call? = none) : ¬ f.Has IsCall :=
  not_has_of_findSome? isCall_iff h

end Fault
end PaymentGateway
