/-
# Wiring.Proofs.Creation.Visits -- depth-first pre-order of a graph

`Walks goal next seen roots out` says that a depth-first walk from the roots in order, along the
successors in order, comes to the nodes `out` for the first time, in this order, if those of `seen`
have been visited before.  A node that is asked for leads to another, its `goal`, and nothing is
done if either has been visited.  There is one such list (`Walks.unique`), and asking for a node
again makes no difference to it (`Walks.eraseDups`).

`Visits` is a walk in which nodes lead to themselves.  Started with nothing seen it holds exactly
the nodes that the roots reach (`mem_iff_reaches`).  Hence the order of the roots decides the order
of the nodes but not which nodes there are.
-/
import Mathlib.Logic.Relation
import Mathlib.Tactic.Tauto

namespace Wiring

set_option autoImplicit false

open Relation (ReflTransGen)

variable {α : Type} {next : α → List α}

/-! ## Walks -/

section

variable {goal : α → α} {seen seen' ns ms out out' : List α} {n : α}

/-- A node, or the one it leads to, has been seen. -/
def Visited (goal : α → α) (seen : List α) (n : α) : Prop := n ∈ seen ∨ goal n ∈ seen

theorem Visited.mono (settled : Visited goal seen n) (sub : seen ⊆ seen') :
    Visited goal seen' n := settled.imp (fun old => sub old) fun old => sub old

/-- The nodes that are come to when some are asked for in order, each leading to another. -/
inductive Walks (goal : α → α) (next : α → List α) : List α → List α → List α → Prop where
  | done {seen : List α} : Walks goal next seen [] []
  | known {seen ns out : List α} {n : α} (settled : Visited goal seen n)
      (rest : Walks goal next seen ns out) : Walks goal next seen (n :: ns) out
  | visit {seen ns below out : List α} {n : α} (new : ¬Visited goal seen n)
      (inside : Walks goal next (seen ++ [goal n]) (next (goal n)) below)
      (rest : Walks goal next (seen ++ goal n :: below) ns out) :
      Walks goal next seen (n :: ns) (goal n :: below ++ out)

namespace Walks

theorem append (first : Walks goal next seen ns out)
    (second : Walks goal next (seen ++ out) ms out') :
    Walks goal next seen (ns ++ ms) (out ++ out') := by
  induction first generalizing ms out' with
  | done => rwa [List.append_nil] at second
  | known settled rest ih => exact .known settled (ih second)
  | @visit seen ns below out n new inside rest _ ih =>
      have second : Walks goal next ((seen ++ goal n :: below) ++ out) ms out' := by
        simpa [List.append_assoc] using second
      have whole := Walks.visit new inside (ih second)
      simpa [List.append_assoc] using whole

/-- **There is only one such list.** -/
theorem unique (first : Walks goal next seen ns out) (second : Walks goal next seen ns out') :
    out = out' := by
  induction first generalizing out' with
  | done =>
      cases second
      rfl
  | known settled rest ih =>
      cases second with
      | known _ rest' => exact ih rest'
      | visit new => exact absurd settled new
  | visit new inside rest inside_ih rest_ih =>
      cases second with
      | known settled => exact absurd settled new
      | visit _ inside' rest' =>
          cases inside_ih inside'
          cases rest_ih rest'
          rfl

theorem settled (walks : Walks goal next seen ns out) :
    ∀ n ∈ ns, Visited goal (seen ++ out) n := by
  induction walks with
  | done => simp
  | known settled rest ih =>
      intro m member
      rcases List.mem_cons.1 member with rfl | member
      · exact settled.mono (List.subset_append_left _ _)
      · exact ih m member
  | visit new inside rest _ ih =>
      intro m member
      rcases List.mem_cons.1 member with rfl | member
      · exact .inr (by simp)
      · have there := ih m member
        simpa [List.append_assoc] using there

variable [DecidableEq α]

/-- What is settled may be left out. -/
theorem filter_ne (walks : Walks goal next seen ns out) (settled : Visited goal seen n) :
    Walks goal next seen (ns.filter fun m => !m == n) out := by
  induction walks with
  | done => exact .done
  | @known seen ns out m old rest ih =>
      rw [List.filter_cons]
      split
      · exact .known old (ih settled)
      · exact ih settled
  | @visit seen ns below out m new inside rest _ ih =>
      have other : (!m == n) = true := by
        rw [Bool.not_eq_true', beq_eq_false_iff_ne]
        rintro rfl
        exact new settled
      rw [List.filter_cons, if_pos other]
      exact .visit new inside (ih (settled.mono (List.subset_append_left _ _)))

/-- **Only the first time that a node is asked for counts.** -/
theorem eraseDups {seen ns out : List α} (walks : Walks goal next seen ns out) :
    Walks goal next seen ns.eraseDups out := by
  match ns, out, walks with
  | [], _, .done => exact .done
  | n :: ns, out, .known settled rest =>
      rw [List.eraseDups_cons]
      exact .known settled (eraseDups (rest.filter_ne settled))
  | n :: ns, _, .visit new inside rest =>
      rw [List.eraseDups_cons]
      exact .visit new inside (eraseDups (rest.filter_ne (.inr (by simp))))
termination_by ns.length
decreasing_by all_goals exact Nat.lt_succ_of_le (List.length_filter_le _ _)

end Walks

end

/-! ## Visits -/

/-- The nodes a depth-first walk comes to for the first time, in order. -/
inductive Visits (next : α → List α) : List α → List α → List α → Prop where
  | done {seen : List α} : Visits next seen [] []
  | again {seen ns out : List α} {n : α} (old : n ∈ seen) (rest : Visits next seen ns out) :
      Visits next seen (n :: ns) out
  | visit {seen ns below out : List α} {n : α} (new : n ∉ seen)
      (inside : Visits next (seen ++ [n]) (next n) below)
      (rest : Visits next (seen ++ n :: below) ns out) :
      Visits next seen (n :: ns) (n :: below ++ out)

/-- One node is reached from another along successors, in zero or more steps. -/
abbrev Reaches (next : α → List α) : α → α → Prop := ReflTransGen fun a b => b ∈ next a

namespace Visits

variable {seen ns ms out out' : List α}

/-- It is a walk in which every node leads to itself. -/
theorem walks (visits : Visits next seen ns out) : Walks id next seen ns out := by
  induction visits with
  | done => exact .done
  | again old rest ih => exact .known (.inl old) ih
  | visit new inside rest inside_ih rest_ih =>
      exact .visit (fun settled => new (settled.elim id id)) inside_ih rest_ih

theorem of_walks (walks : Walks id next seen ns out) : Visits next seen ns out := by
  induction walks with
  | done => exact .done
  | known settled rest ih => exact .again (settled.elim id id) ih
  | visit new inside rest inside_ih rest_ih =>
      exact .visit (fun old => new (.inl old)) inside_ih rest_ih

theorem append (first : Visits next seen ns out) (second : Visits next (seen ++ out) ms out') :
    Visits next seen (ns ++ ms) (out ++ out') :=
  of_walks (first.walks.append second.walks)

/-- **There is only one such order.** -/
theorem unique (first : Visits next seen ns out) (second : Visits next seen ns out') :
    out = out' :=
  first.walks.unique second.walks

/-- Every root has been visited in the end. -/
theorem roots_mem (visits : Visits next seen ns out) : ∀ n ∈ ns, n ∈ seen ++ out :=
  fun n root => (visits.walks.settled n root).elim id id

/-- The successors of what has been visited have been visited as well. -/
theorem closed (visits : Visits next seen ns out) :
    ∀ x ∈ out, ∀ y ∈ next x, y ∈ seen ++ out := by
  induction visits with
  | done => simp
  | again old rest ih => exact ih
  | @visit seen ns below out n new inside rest inside_ih rest_ih =>
      intro x member y successor
      rcases List.mem_append.1 member with member | member
      · have there : y ∈ seen ++ [n] ++ below := by
          rcases List.mem_cons.1 member with rfl | member
          · exact inside.roots_mem y successor
          · exact inside_ih x member y successor
        have sub : seen ++ [n] ++ below ⊆ seen ++ (n :: below ++ out) := by
          intro z member
          simp only [List.mem_append, List.mem_cons, List.not_mem_nil, or_false] at member ⊢
          tauto
        exact sub there
      · have there := rest_ih x member y successor
        simpa [List.append_assoc] using there

theorem reaches (visits : Visits next seen ns out) : ∀ x ∈ out, ∃ r ∈ ns, Reaches next r x := by
  induction visits with
  | done => simp
  | again old rest ih =>
      intro x member
      obtain ⟨r, root, path⟩ := ih x member
      exact ⟨r, List.mem_cons_of_mem _ root, path⟩
  | @visit seen ns below out n new inside rest inside_ih rest_ih =>
      intro x member
      rcases List.mem_append.1 member with member | member
      · rcases List.mem_cons.1 member with rfl | member
        · exact ⟨x, List.mem_cons_self, .refl⟩
        · obtain ⟨r, successor, path⟩ := inside_ih x member
          exact ⟨n, List.mem_cons_self, .head successor path⟩
      · obtain ⟨r, root, path⟩ := rest_ih x member
        exact ⟨r, List.mem_cons_of_mem _ root, path⟩

/-- **A walk from the beginning visits what its roots reach.** -/
theorem mem_iff_reaches (visits : Visits next [] ns out) {x : α} :
    x ∈ out ↔ ∃ r ∈ ns, Reaches next r x := by
  constructor
  · exact visits.reaches x
  · rintro ⟨r, root, path⟩
    induction path with
    | refl => exact visits.roots_mem r root
    | tail path successor ih => exact visits.closed _ ih _ successor

end Visits

end Wiring
