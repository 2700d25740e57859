/-
# Wiring.Keyed -- lists of keys and values, each key once

`put` replaces the value of a key in place, or adds the key at the end; `ofList` puts
one pair after the other, so that the last value of a key stands.
-/
namespace Wiring

set_option autoImplicit false

/-- Values by key. -/
abbrev Keyed (β : Type) := List (String × β)

namespace Keyed

variable {β : Type}

def put (l : Keyed β) (k : String) (v : β) : Keyed β :=
  match l with
  | [] => [(k, v)]
  | p :: rest => if p.1 == k then (k, v) :: rest else p :: put rest k v

def ofList (l : List (String × β)) : Keyed β := l.foldl (fun acc p => acc.put p.1 p.2) []

theorem lookup_put_self (l : Keyed β) (k : String) (v : β) : (l.put k v).lookup k = some v := by
  induction l with
  | nil => simp [put]
  | cons p rest ih =>
    obtain ⟨name, value⟩ := p
    unfold put
    split
    · simp
    · next h =>
      have : (k == name) = false := by simpa [BEq.comm] using h
      simp [List.lookup_cons, this, ih]

theorem lookup_put_of_ne {l : Keyed β} {k n : String} {v : β} (h : n ≠ k) :
    (l.put k v).lookup n = l.lookup n := by
  have hk : (n == k) = false := by simpa using h
  induction l with
  | nil => simp [put, List.lookup_cons, hk]
  | cons p rest ih =>
    obtain ⟨name, value⟩ := p
    unfold put
    split
    · next e =>
      have e : name = k := by simpa using e
      simp [List.lookup_cons, e, hk]
    · simp [List.lookup_cons, ih]

end Keyed

end Wiring
