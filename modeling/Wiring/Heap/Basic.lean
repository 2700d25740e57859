/-
# Wiring.Heap.Basic -- shared objects and the pointers to them

A heap holds live objects and the handles that are held from outside.  An object's
content tells which references it holds; its strong count is the number of handles
and references to it, and is computed, never stored.  Weak references are no concern
of the heap: they are part of the content and simply find nothing once their object
is gone.

`allocate` makes an object with one handle, `acquire` adds a handle to a live
object, `store` replaces contents and returns the references lost by that.  Contents
never refer to objects that are not live: `store` ignores a change that would.
-/
namespace Wiring

set_option autoImplicit false

/-- The identity of an object; no two objects ever share one. -/
abbrev ObjectId := Nat

/-- What the heap asks of the content of an object. -/
class Holder (α : Type) where
  /-- The strong references held, in the order they are released when the object goes. -/
  held : α → List ObjectId

/-- Live objects, the next unused identity, and the handles held from outside. -/
structure Heap (α : Type) where
  cells : List (ObjectId × α)
  next : ObjectId
  handles : List ObjectId

namespace Heap

variable {α : Type}

def empty : Heap α := ⟨[], 0, []⟩

def find? (h : Heap α) (id : ObjectId) : Option α := h.cells.lookup id

def isLive (h : Heap α) (id : ObjectId) : Bool := (h.find? id).isSome

/-- Makes an object, with one handle to it. -/
def allocate (h : Heap α) (a : α) : ObjectId × Heap α :=
  (h.next, ⟨h.cells ++ [(h.next, a)], h.next + 1, h.next :: h.handles⟩)

/-- Adds a handle to a live object. -/
def acquire (h : Heap α) (id : ObjectId) : Heap α :=
  if h.isLive id then { h with handles := id :: h.handles } else h

/-- Forgets one handle, without regard to what that means for the object. -/
def dropHandle (h : Heap α) (id : ObjectId) : Heap α := { h with handles := h.handles.erase id }

def erase (h : Heap α) (id : ObjectId) : Heap α :=
  { h with cells := h.cells.filter (·.1 != id) }

def replace (h : Heap α) (id : ObjectId) (a : α) : Heap α :=
  { h with cells := h.cells.map fun c => if c.1 == id then (id, a) else c }

/-- The members of a list that another list does not make up for, in order. -/
def lostFrom : List ObjectId → List ObjectId → List ObjectId
  | [], _ => []
  | id :: old, new =>
    if new.contains id then lostFrom old (new.erase id) else id :: lostFrom old new

variable [Holder α]

/-- The references to an object from live objects. -/
def inner (h : Heap α) (id : ObjectId) : Nat :=
  (h.cells.map fun c => (Holder.held c.2).count id).foldr (· + ·) 0

/-- The strong count of an object: handles and references. -/
def count (h : Heap α) (id : ObjectId) : Nat := h.handles.count id + h.inner id

/-- Replaces the content of a live object by one that refers to live objects only; returns the
references that are lost, in the order the old content held them. -/
def store (h : Heap α) (id : ObjectId) (a : α) : Heap α × List ObjectId :=
  match h.find? id with
  | none => (h, [])
  | some old =>
    if (Holder.held a).all h.isLive then
      (h.replace id a, lostFrom (Holder.held old) (Holder.held a))
    else (h, [])

def storeAll (h : Heap α) : List (ObjectId × α) → Heap α × List ObjectId
  | [] => (h, [])
  | (id, a) :: rest =>
    let (h, lost) := h.store id a
    let (h, more) := h.storeAll rest
    (h, lost ++ more)

end Heap

end Wiring
