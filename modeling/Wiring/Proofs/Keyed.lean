/-
# Wiring.Proofs.Keyed -- lists in which each key stands once

Where no key is repeated a look-up finds exactly the members of the list, and putting
a key that is new adds it at the end.  Putting repeats no key, and what is found stays found.
-/
import Wiring.Keyed
import Mathlib.Data.List.Nodup

namespace Wiring.Keyed

set_option autoImplicit false

variable {κ β : Type} [BEq κ] [LawfulBEq κ]

theorem mem_of_lookup {l : List (κ × β)} {k : κ} {v : β} (found : l.lookup k = some v) :
    (k, v) ∈ l := by
  obtain ⟨l₁, l₂, split, _⟩ := List.lookup_eq_some_iff.1 found
  rw [split]
  simp

theorem lookup_of_mem {l : List (κ × β)} (distinct : (l.map (·.1)).Nodup) {k : κ} {v : β}
    (member : (k, v) ∈ l) : l.lookup k = some v := by
  induction l with
  | nil => simp at member
  | cons p rest ih =>
      obtain ⟨key, value⟩ := p
      simp only [List.map_cons, List.nodup_cons] at distinct
      rcases List.mem_cons.1 member with same | member
      · cases same
        simp
      · have other : key ≠ k := by
          intro same
          exact distinct.1 (List.mem_map.2 ⟨(k, v), member, same.symm⟩)
        have differs : (k == key) = false := by simpa using Ne.symm other
        rw [List.lookup_cons, differs]
        exact ih distinct.2 member

theorem lookup_eq_some_iff_mem {l : List (κ × β)} (distinct : (l.map (·.1)).Nodup) {k : κ}
    {v : β} : l.lookup k = some v ↔ (k, v) ∈ l :=
  ⟨mem_of_lookup, lookup_of_mem distinct⟩

theorem notMem_of_lookup_eq_none {l : List (κ × β)} {k : κ} (absent : l.lookup k = none) :
    k ∉ l.map (·.1) := by
  intro member
  obtain ⟨p, there, same⟩ := List.mem_map.1 member
  have differs := List.lookup_eq_none_iff.1 absent p there
  simp [same] at differs

theorem put_of_notMem {l : Keyed β} {k : String} (fresh : k ∉ l.map (·.1)) (v : β) :
    l.put k v = l ++ [(k, v)] := by
  induction l with
  | nil => rfl
  | cons p rest ih =>
      simp only [List.map_cons, List.mem_cons, not_or] at fresh
      have other : (p.1 == k) = false := by simpa using Ne.symm fresh.1
      unfold put
      rw [other, ih fresh.2]
      rfl

theorem keys_put_of_mem {l : Keyed β} {k : String} (there : k ∈ l.map (·.1)) (v : β) :
    (l.put k v).map (·.1) = l.map (·.1) := by
  induction l with
  | nil => cases there
  | cons p rest ih =>
      unfold put
      by_cases same : p.1 = k
      · rw [if_pos (beq_iff_eq.2 same), List.map_cons, List.map_cons, same]
      · have later : k ∈ rest.map (·.1) := by
          rcases List.mem_cons.1 there with first | later
          · exact absurd first.symm same
          · exact later
        rw [if_neg (by simpa using same), List.map_cons, List.map_cons, ih later]

theorem nodup_put {l : Keyed β} (distinct : (l.map (·.1)).Nodup) (k : String) (v : β) :
    ((l.put k v).map (·.1)).Nodup := by
  by_cases there : k ∈ l.map (·.1)
  · rw [keys_put_of_mem there]
    exact distinct
  · rw [put_of_notMem there, List.map_append, List.map_singleton]
    exact distinct.append (List.nodup_singleton k) (List.disjoint_singleton.2 there)

theorem isSome_lookup_put {l : Keyed β} {n : String} (found : (l.lookup n).isSome) (k : String)
    (v : β) : ((l.put k v).lookup n).isSome := by
  by_cases same : n = k
  · rw [same, lookup_put_self]
    rfl
  · rw [lookup_put_of_ne same]
    exact found

theorem isSome_lookup_iff {l : List (κ × β)} {k : κ} :
    (l.lookup k).isSome ↔ k ∈ l.map (·.1) := by
  constructor
  · intro found
    obtain ⟨v, found⟩ := Option.isSome_iff_exists.1 found
    exact List.mem_map_of_mem (mem_of_lookup found)
  · intro member
    cases found : l.lookup k with
    | none => exact absurd member (notMem_of_lookup_eq_none found)
    | some v => rfl

end Wiring.Keyed
