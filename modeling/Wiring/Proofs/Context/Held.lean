/-
# Wiring.Proofs.Context.Held -- which handles are the context's own

Of all handles that are held from outside, one for each owned instance is the
context's, and the rest are those of others: `Held c others`.  That is what keeps
owned instances alive, whatever components do with their references.

Between two constructions a context proceeds by steps that change its host only, do
some deeds, and leave the handles as they are (`Proceeds`).  The steps that do take or
give up a handle say whose it is.  Along both, what is owned stays owned and what it is
(`Tends`).
-/
import Wiring.Proofs.Context.Passes
import Wiring.Proofs.Host.Deeds

namespace Wiring.Context

set_option autoImplicit false

open Wiring.Component
open Wiring.Document (Property)
open Wiring.Logging (Level Logged)

variable {σ : Type} {others : List ObjectId}

/-! ## Whose handles are whose -/

/-- Owned instances are live, and the handles are one for each of them and those of others. -/
structure Held (c : Context σ) (others : List ObjectId) : Prop where
  fresh : c.host.heap.Fresh
  live : ∀ e ∈ c.owned, c.host.heap.isLive e.2
  handles : c.host.heap.handles.Perm (others ++ c.owned.map (·.2))

namespace Held

variable {c : Context σ}

/-- A name finds an object that is owned. -/
theorem live_of_lookup (held : Held c others) {n : String} {id : ObjectId}
    (found : c.lookup n = some id) : c.host.heap.isLive id := by
  unfold lookup at found
  obtain ⟨position, _, there⟩ := Option.bind_eq_some_iff.1 found
  obtain ⟨e, owned, rfl⟩ := Option.map_eq_some_iff.1 there
  exact held.live e (List.mem_of_getElem? owned)

end Held

variable [Lifecycle σ]

/-- These deeds were done, what was owned is still owned and of the same blueprint, and the handles
of others are now these. -/
structure Tends (c : Context σ) (ds : List Deed) (c' : Context σ) (others : List ObjectId) :
    Prop where
  does : c.host.Does ds c'.host
  held : Held c' others
  lasts : ∀ e ∈ c.owned, e ∈ c'.owned ∧ c'.host.blueprint? e.2 = c.host.blueprint? e.2

theorem Held.tends {c : Context σ} (held : Held c others) : Tends c [] c others :=
  ⟨.nothing _, held, fun _ owned => ⟨owned, rfl⟩⟩

theorem Tends.trans {a b c : Context σ} {ds es : List Deed} {more : List ObjectId}
    (first : Tends a ds b more) (second : Tends b es c others) : Tends a (ds ++ es) c others := by
  refine ⟨first.does.trans second.does, second.held, ?_⟩
  intro e owned
  obtain ⟨owned', same⟩ := first.lasts e owned
  obtain ⟨owned'', same'⟩ := second.lasts e owned'
  exact ⟨owned'', same'.trans same⟩

theorem Tends.hasHook {c c' : Context σ} {ds : List Deed} (tends : Tends c ds c' others)
    {e : String × ObjectId} (owned : e ∈ c.owned) (hook : String) :
    c'.host.hasHook e.2 hook = c.host.hasHook e.2 hook := by
  rw [Host.hasHook_eq, Host.hasHook_eq, (tends.lasts e owned).2]

/-- A step of the host is tended if it leaves the context its handles. -/
theorem Held.moves {c : Context σ} {host : Host σ} {ds : List Deed} {others' : List ObjectId}
    (held : Held c others) (moves : c.host.Moves ds host)
    (handles : host.heap.handles.Perm (others' ++ c.owned.map (·.2))) :
    Tends c ds { c with host } others' := by
  have same : ∀ e ∈ c.owned, host.blueprint? e.2 = c.host.blueprint? e.2 := by
    intro e owned
    apply moves.blueprint? (held.live e owned)
    rw [handles.mem_iff, List.mem_append]
    exact .inr (List.mem_map.2 ⟨e, owned, rfl⟩)
  refine ⟨moves.does, ⟨moves.fresh held.fresh, ?_, handles⟩, fun e owned => ⟨owned, same e owned⟩⟩
  intro e owned
  have live := held.live e owned
  rw [Host.isLive_iff_blueprint?] at live ⊢
  rw [same e owned]
  exact live

/-! ## Handles taken and given up -/

theorem tends_acquire {c : Context σ} {id : ObjectId} (held : Held c others)
    (live : c.host.heap.isLive id) : Tends c [] (c.acquire id) (id :: others) := by
  refine held.moves (.acquire c.host id) ?_
  rw [Host.handles_acquire live]
  exact held.handles.cons id

theorem tends_release {c : Context σ} {id : ObjectId} (held : Held c (id :: others)) :
    Tends c [] (c.release id) others := by
  refine held.moves (.release c.host id) ?_
  show (c.host.heap.release id).1.handles.Perm _
  rw [Heap.handles_release]
  simpa using held.handles.erase id

/-- The context takes a handle of its own to what it takes over. -/
theorem tends_register {c : Context σ} {id : ObjectId} (held : Held c others)
    (live : c.host.heap.isLive id) (name : String) :
    Tends c [] (c.register name id) others := by
  have acquired := tends_acquire held live
  refine ⟨acquired.does, ⟨acquired.held.fresh, ?_, ?_⟩, ?_⟩
  · intro e owned
    rcases List.mem_append.1 owned with owned | new
    · exact acquired.held.live e owned
    · rw [List.mem_singleton.1 new, Host.isLive_iff_blueprint?]
      have handle : id ∈ (c.host.acquire id).heap.handles := by
        rw [Host.handles_acquire live]
        exact List.mem_cons_self
      show ((c.host.acquire id).blueprint? id).isSome
      rw [(Host.Moves.acquire c.host id).blueprint? live handle, ← Host.isLive_iff_blueprint?]
      exact live
  · show (c.host.acquire id).heap.handles.Perm (others ++ (c.owned ++ [(name, id)]).map (·.2))
    rw [Host.handles_acquire live, List.map_append, ← List.append_assoc]
    refine (held.handles.cons id).trans ?_
    exact (List.perm_append_singleton id _).symm
  · intro e owned
    exact ⟨List.mem_append_left _ owned, (acquired.lasts e owned).2⟩

/-! ## Steps that leave the handles as they are -/

/-- Nothing but the host differs, these deeds were done, and all handles are as before. -/
structure Proceeds (c : Context σ) (ds : List Deed) (c' : Context σ) : Prop where
  only : OnlyHost c c'
  does : c.host.Does ds c'.host
  tends : ∀ {others}, Held c others → Tends c ds c' others

namespace Proceeds

theorem refl (c : Context σ) : Proceeds c [] c := ⟨.refl c, .nothing _, Held.tends⟩

theorem trans {a b c : Context σ} {ds es : List Deed} (first : Proceeds a ds b)
    (second : Proceeds b es c) : Proceeds a (ds ++ es) c :=
  ⟨first.only.trans second.only, first.does.trans second.does,
    fun held => (first.tends held).trans (second.tends (first.tends held).held)⟩

theorem moves {c : Context σ} {host : Host σ} {ds : List Deed} (moves : c.host.Moves ds host)
    (handles : host.heap.handles = c.host.heap.handles) : Proceeds c ds { c with host } :=
  ⟨rfl, moves.does, fun held => held.moves moves (handles ▸ held.handles)⟩

end Proceeds

theorem proceeds_take {α : Type} (c : Context σ) (x : Logged α) : Proceeds c [] (c.take x).2 :=
  .moves (.enter c.host x.records) rfl

theorem proceeds_expand (c : Context σ) (text : String) : Proceeds c [] (c.expand text).2 :=
  proceeds_take c _

theorem proceeds_log (c : Context σ) (level : Level) (message : String) :
    Proceeds c [] (c.log level message) := .moves (.enter c.host [entry level message]) rfl

theorem proceeds_loadLibrary (c : Context σ) (library : String) :
    Proceeds c [] (c.loadLibrary library).2 := by
  unfold loadLibrary
  split
  · exact .refl c
  · have same := Host.heap_load c.host c.paths library
    exact .moves (.load c.host c.paths library) (congrArg Heap.handles same)

theorem proceeds_inject (c : Context σ) (id : ObjectId) (name : String) (value : Given) :
    Proceeds c [.injected id name value (c.inject id name value).1]
      (c.inject id name value).2 :=
  .moves (.inject c.host id name value) (Host.handles_inject c.host id name value)

/-- A bare instance that is not to be had, or a new one with one handle. -/
theorem instantiate_proceeds (c : Context σ) (name : String) :
    (∃ e c', c.instantiate name = (.error e, c') ∧ Proceeds c [] c') ∨
    ∃ id c', c.instantiate name = (.ok id, c') ∧ OnlyHost c c' ∧ c'.host.heap.isLive id ∧
      ∀ {others}, Held c others → Tends c [.made id] c' (id :: others) := by
  unfold instantiate
  cases (c.view name).validated with
  | error e => exact .inl ⟨e, c, rfl, .refl c⟩
  | ok d =>
      have named := proceeds_take c (c.view name).library
      have loaded := proceeds_loadLibrary (c.take (c.view name).library).2
        (c.take (c.view name).library).1
      cases load : (c.take (c.view name).library).2.loadLibrary
          (c.take (c.view name).library).1 with
      | mk result after =>
          rw [load] at loaded
          simp only [load]
          cases result with
          | error e => exact .inl ⟨e, after, rfl, named.trans loaded⟩
          | ok u =>
              let className := (after.take (after.view name).className).1
              let ready := (after.take (after.view name).className).2.log .info
                s!"Creating '{name}' as {className}"
              have prepared : Proceeds c [] ready :=
                (named.trans loaded).trans ((proceeds_take _ _).trans (proceeds_log _ _ _))
              cases made : ready.host.construct className with
              | mk r host =>
                  cases r with
                  | error e =>
                      rcases Host.construct_cases ready.host className with
                        ⟨e', failed⟩ | ⟨host', made', _⟩
                      · rw [made] at failed
                        cases failed
                        exact .inl ⟨e, ready, onHost_eq made, prepared⟩
                      · simp [made] at made'
                  | ok id =>
                      obtain ⟨o, rfl, allocated⟩ := Host.construct_eq_ok made
                      have moves := Host.Moves.construct made
                      refine .inr ⟨_, { ready with host }, onHost_eq made, ?_, ?_, ?_⟩
                      · exact prepared.only.trans rfl
                      · show host.heap.isLive ready.host.heap.next
                        rw [allocated]
                        exact Heap.isLive_allocate_self _ o
                      · intro others held
                        have before := prepared.tends held
                        refine before.trans (before.held.moves moves ?_)
                        rw [allocated]
                        exact before.held.handles.cons _

end Wiring.Context
