/-
# Wiring.Proofs.Context.Custody -- the handles of a context from its beginning to its end

A context begins without handles and takes one for each instance that it keeps.  As
long as callers give up no handles but their own (`Fair`), every call leaves it with
exactly those (`tended_operate`), and a shutdown leaves it with none
(`held_shutdown`).
-/
import Wiring.Proofs.Context.Operations
import Wiring.Proofs.Creation.Handing
import Wiring.Proofs.Teardown.Phases

namespace Wiring.Context

set_option autoImplicit false

open Wiring.Component
open Wiring.Config (Environment)

variable {σ : Type} [Lifecycle σ]

/-! ## Calls -/

/-- A caller gives up no handle of the context's. -/
def Fair (c : Context σ) : Operation → Prop
  | .release id => (c.owned.map (·.2)).count id < c.host.heap.handles.count id
  | _ => True

instance (c : Context σ) (call : Operation) : Decidable (Fair c call) :=
  match call with
  | .release _ => inferInstanceAs (Decidable (_ < _))
  | .create _ | .createAs .. | .createDetached _ | .find _ | .findAs .. | .shutdown =>
    inferInstanceAs (Decidable True)

variable {c c' : Context σ} {others : List ObjectId} {id : ObjectId}

theorem tended_create (held : Held c others) {name : String} {r : Except Error ObjectId}
    (result : c.create name = (r, c')) : Tended c c' (r.toOption.toList ++ others) := by
  have runs := runs_create c name
  rw [result] at runs
  exact runs.tended held

theorem tended_castHandle (held : Held c (id :: others)) (target : TypeName) :
    ∃ left, Tended c (c.castHandle id target).2 left := by
  unfold castHandle
  split
  · exact ⟨_, .refl held⟩
  · exact ⟨_, (Tended.refl held).release⟩

theorem tended_find (held : Held c others) (name : String) :
    Tended c (c.find name).2 ((c.find name).1.toList ++ others) := by
  have noted := (Tended.refl held).idle (proceeds_take c (c.view name).aliasTarget)
  unfold find
  cases found : c.lookup name with
  | some id => exact (Tended.refl held).acquire (held.live_of_lookup found)
  | none =>
      simp only
      cases expanded : c.take (c.view name).aliasTarget with
      | mk result after =>
          rw [expanded] at noted
          cases result with
          | error e => exact noted
          | ok target =>
              simp only
              split
              · exact noted
              · cases live : after.lookup target with
                | none => exact noted
                | some id => exact noted.acquire (noted.held.live_of_lookup live)

omit [Lifecycle σ] in
/-- What a caller may give up is a handle of others. -/
theorem exists_of_fair (held : Held c others) (fair : Fair c (.release id)) :
    ∃ left, others.Perm (id :: left) := by
  have all := held.handles.count_eq id
  have more : (c.owned.map (·.2)).count id < c.host.heap.handles.count id := fair
  rw [List.count_append] at all
  have member : id ∈ others := List.count_pos_iff.1 (by omega)
  exact ⟨others.erase id, List.perm_cons_erase member⟩

/-- **A call leaves a context its handles.** -/
theorem tended_operate (held : Held c others) {call : Operation} (fair : Fair c call)
    (running : call ≠ .shutdown) : ∃ left, Tended c (c.operate call) left := by
  cases call with
  | create name => exact ⟨_, tended_create held rfl⟩
  | createDetached name => exact ⟨_, (runs_createDetached c name).tended held⟩
  | createAs name target =>
      show ∃ left, Tended c (c.createAs name target).2 left
      unfold createAs
      cases made : c.create name with
      | mk r after =>
          have created := tended_create held made
          cases r with
          | error e => exact ⟨_, created⟩
          | ok id =>
              obtain ⟨left, cast⟩ := tended_castHandle created.held target
              exact ⟨left, created.trans cast⟩
  | find name => exact ⟨_, tended_find held name⟩
  | findAs name target =>
      show ∃ left, Tended c (c.findAs name target).2 left
      have looked := tended_find held name
      unfold findAs
      cases found : c.find name with
      | mk answer after =>
          rw [found] at looked
          cases answer with
          | none => exact ⟨_, looked⟩
          | some id =>
              obtain ⟨left, used⟩ := tended_castHandle looked.held target
              simp only
              cases cast : after.castHandle id target with
              | mk r final =>
                  rw [cast] at used
                  cases r <;> exact ⟨left, looked.trans used⟩
  | release id =>
      obtain ⟨left, same⟩ := exists_of_fair held fair
      have handles := held.handles.trans (same.append_right _)
      have free : Held c (id :: left) := ⟨held.fresh, held.live, handles⟩
      exact ⟨left, (Tended.refl free).release⟩
  | shutdown => exact absurd rfl running

theorem held_shutdown (held : Held c others) : Held c.shutdown others := by
  unfold shutdown
  split
  · exact held
  · obtain ⟨between, cleans, sheds⟩ := tearDown_phases held.handles
    obtain ⟨ds, does⟩ := cleans.does
    exact ⟨(does.trans sheds.does).fresh held.fresh, by simp [destroyAll], sheds.handles⟩

/-! ## The beginning -/

theorem Tended.environment (first : Tended c c' others) (environment : Environment) :
    Tended c { c' with environment } others := by
  obtain ⟨ds, tame, does, ⟨fresh, live, handles⟩, lasts⟩ := first
  exact ⟨ds, tame, does, ⟨fresh, live, handles⟩, lasts⟩

theorem tended_createEarly (held : Held c others) (names : List String) :
    Tended c (c.createEarly names).2 others := by
  induction names generalizing c with
  | nil => exact .refl held
  | cons name rest ih =>
      have noted := (Tended.refl held).idle
        (proceeds_log c .info s!"Creating early instance '{name}'")
      unfold createEarly
      cases made : (c.log .info s!"Creating early instance '{name}'").create name with
      | mk r after =>
          have created := noted.andThen fun held => tended_create held made
          cases r with
          | error e => exact created
          | ok id => exact created.release.andThen ih

theorem tended_start (held : Held c others) (avoidEarly : Bool) :
    Tended c (c.start avoidEarly).2 others := by
  have published : Tended c c.publish.2 others :=
    ((Tended.refl held).idle (proceeds_take c _)).environment _
  unfold start
  cases made : c.publish with
  | mk r after =>
      rw [made] at published
      cases r with
      | error e => exact published
      | ok u =>
          simp only
          split
          · exact published
          · exact published.andThen fun held => tended_createEarly held _

/-- A context that was built, or what is left of one, has the handles of what it keeps. -/
theorem tended_build {host : Host σ} (fresh : host.heap.Fresh) (environment : Environment)
    (document : Document) (options : Options) :
    Held (build host environment document options).2 host.heap.handles ∧
      ((build host environment document options).1 = .ok () →
        ∃ ds, Tame ds ∧ host.Does ds (build host environment document options).2.host) := by
  let bare : Context σ :=
    { host, document, environment, paths := searchPath environment options.paths }
  have begins : Held bare host.heap.handles := ⟨fresh, by simp [bare], by simp [bare]⟩
  have scanned : Tended bare (bare.onHost Host.scan).2 host.heap.handles :=
    (Tended.refl begins).idle (.moves (.scan host) rfl)
  unfold build
  simp only
  cases scan : bare.onHost Host.scan with
  | mk r after =>
      rw [scan] at scanned
      cases r with
      | error e =>
          obtain ⟨fresh, live, handles⟩ := scanned.held
          exact ⟨⟨fresh, live, handles⟩, by simp⟩
      | ok u =>
          have started := scanned.andThen fun held => tended_start held options.avoidEarly
          simp only
          cases start : after.start options.avoidEarly with
          | mk r c =>
              rw [start] at started
              have logged (message : String) := started.idle (proceeds_log c .error message)
              cases r with
              | error e => exact ⟨held_shutdown (logged _).held, by simp⟩
              | ok u =>
                  have done := started.idle (proceeds_log c .info
                    s!"Application context started with {c.owned.length} instances")
                  obtain ⟨ds, tame, tends⟩ := done
                  exact ⟨tends.held, fun _ => ⟨ds, tame, tends.does⟩⟩

end Wiring.Context
