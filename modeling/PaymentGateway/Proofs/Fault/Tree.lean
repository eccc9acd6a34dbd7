/-
# Faults inside faults

A fault is a tree, and what it is, is asked of all its nodes. Where a fault stands
in another is said here without listing the nodes (`Fault.Occurs`): at the root, or
in the cause of a report of the remote service, of a failed call or of a fault with
words around it, or in one of several faults that were joined. The nodes of a fault
are the faults that occur in it (`Fault.mem_nodes_iff`), so a question that is asked
of all nodes is about what occurs (`Fault.isAlreadyAttached_iff`).

Key definition: `Fault.Occurs`.
Key theorems: `Fault.mem_nodes_iff`, `Fault.isAlreadyAttached_iff`, `Fault.isNotFound_iff`.
-/
import PaymentGateway.Fault

namespace PaymentGateway
namespace Fault

/-- The fault `g` occurs in a fault: it is the fault, or occurs in its cause or in
one of its causes. -/
inductive Occurs (g : Fault) : Fault → Prop where
  | here : Occurs g g
  | remote {op code message : String} {status : Int} {cause : Fault} (inside : Occurs g cause) :
    Occurs g (.remote op code message status (some cause))
  | call {op : String} {cause : Fault} (inside : Occurs g cause) :
    Occurs g (.call op (some cause))
  | wrapped {before after : String} {cause : Fault} (inside : Occurs g cause) :
    Occurs g (.wrapped before cause after)
  | joined {causes : List Fault} {cause : Fault} (member : cause ∈ causes)
    (inside : Occurs g cause) : Occurs g (.joined causes)

theorem mem_nodesOfAll_of_mem {g f : Fault} (hg : g ∈ f.nodes) :
    ∀ {fs : List Fault}, f ∈ fs → g ∈ nodesOfAll fs
  | f' :: fs, h => by
    rw [nodesOfAll, List.mem_append]
    rcases List.mem_cons.mp h with rfl | h
    · exact .inl hg
    · exact .inr (mem_nodesOfAll_of_mem hg h)

/-- A fault is the first of its own nodes. -/
theorem mem_nodes_self (f : Fault) : f ∈ f.nodes := by
  unfold nodes
  split <;> exact List.mem_cons_self

theorem mem_nodes_of_occurs {g f : Fault} (h : Occurs g f) : g ∈ f.nodes := by
  induction h with
  | here => exact mem_nodes_self g
  | remote _ ih => rw [nodes]; exact List.mem_cons_of_mem _ ih
  | call _ ih => rw [nodes]; exact List.mem_cons_of_mem _ ih
  | wrapped _ ih => rw [nodes]; exact List.mem_cons_of_mem _ ih
  | joined member _ ih =>
    rw [nodes]
    exact List.mem_cons_of_mem _ (mem_nodesOfAll_of_mem ih member)

/-- In a fault without causes only the fault itself occurs. -/
theorem occurs_of_leaf {g f : Fault} (leaf : f.nodes = [f]) (h : g ∈ f.nodes) : Occurs g f := by
  rw [leaf, List.mem_singleton] at h
  exact h ▸ .here

/-- In a fault with something below it, what does not occur below is the root. -/
theorem occurs_of_cons {g f : Fault} {below : List Fault} (h : g ∈ f :: below)
    (inside : g ∈ below → Occurs g f) : Occurs g f := by
  rcases List.mem_cons.mp h with rfl | h
  · exact .here
  · exact inside h

mutual

theorem occurs_of_mem_nodes {g : Fault} : ∀ (f : Fault), g ∈ f.nodes → Occurs g f
  | .plain _, h => occurs_of_leaf rfl h
  | .invalid _, h => occurs_of_leaf rfl h
  | .notFound, h => occurs_of_leaf rfl h
  | .alreadyAttached, h => occurs_of_leaf rfl h
  | .canceled, h => occurs_of_leaf rfl h
  | .remote _ _ _ _ none, h => occurs_of_leaf rfl h
  | .remote _ _ _ _ (some cause), h =>
    occurs_of_cons h fun below => .remote (occurs_of_mem_nodes cause below)
  | .call _ none, h => occurs_of_leaf rfl h
  | .call _ (some cause), h => occurs_of_cons h fun below => .call (occurs_of_mem_nodes cause below)
  | .wrapped _ cause _, h =>
    occurs_of_cons h fun below => .wrapped (occurs_of_mem_nodes cause below)
  | .joined causes, h => occurs_of_cons h fun below => by
    obtain ⟨cause, member, inside⟩ := occurs_of_mem_nodesOfAll causes below
    exact .joined member inside

theorem occurs_of_mem_nodesOfAll {g : Fault} : ∀ (fs : List Fault), g ∈ nodesOfAll fs →
    ∃ f ∈ fs, Occurs g f
  | [], h => by simp [nodesOfAll] at h
  | f :: fs, h => by
    rw [nodesOfAll, List.mem_append] at h
    rcases h with h | h
    · exact ⟨f, List.mem_cons_self, occurs_of_mem_nodes f h⟩
    · obtain ⟨f', hf', inside⟩ := occurs_of_mem_nodesOfAll fs h
      exact ⟨f', List.mem_cons_of_mem _ hf', inside⟩

end

/-- **The nodes of a fault are the faults that occur in it.** -/
theorem mem_nodes_iff (g f : Fault) : g ∈ f.nodes ↔ Occurs g f :=
  ⟨occurs_of_mem_nodes f, mem_nodes_of_occurs⟩

/-- Some node is of a kind exactly if a fault of that kind occurs. -/
theorem any_nodes_iff (kind : Fault → Bool) (f : Fault) :
    f.nodes.any kind = true ↔ ∃ g, Occurs g f ∧ kind g = true := by
  rw [List.any_eq_true]
  exact exists_congr fun g => and_congr_left fun _ => mem_nodes_iff g f

theorem isAlreadyAttached_iff (f : Fault) :
    f.isAlreadyAttached = true ↔ Occurs .alreadyAttached f := by
  rw [isAlreadyAttached, any_nodes_iff]
  constructor
  · rintro ⟨g, hg, hkind⟩
    split at hkind
    · exact hg
    · cases hkind
  · exact fun h => ⟨_, h, rfl⟩

theorem isNotFound_iff (f : Fault) : f.isNotFound = true ↔ Occurs .notFound f := by
  rw [isNotFound, any_nodes_iff]
  constructor
  · rintro ⟨g, hg, hkind⟩
    split at hkind
    · exact hg
    · cases hkind
  · exact fun h => ⟨_, h, rfl⟩

end Fault
end PaymentGateway
