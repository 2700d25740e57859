/-
# Wiring.Proofs.Context.Smooth -- dependencies are ready before the hook is called

A run is smooth as long as no creation has failed (`Smooth`); builds and calls are made
up of its steps (`smooth_build`, `Smooth.operate`), and so are the parts of a build that
is still under way (`Smooth.prepares`).  In a smooth run all that a context owns is
furnished (`Smooth.settled`).

So whenever the hook of an instance is called that does not need itself, all that it
needs is live, has all its entries, and had its own hook called with success
(`ready_before_done`).
-/
import Wiring.Proofs.Context.Life
import Wiring.Proofs.Creation.Closure
import Wiring.Proofs.Creation.Moments
import Wiring.Proofs.Creation.Ready

namespace Wiring.Context

set_option autoImplicit false

open Wiring.Component
open Wiring.Config (Environment)

variable {σ : Type} [Lifecycle σ] {document : Document} {c c₁ c' : Context σ} {D ds : List Deed}
  {own others : List ObjectId} {more : List (String × ObjectId)} {name target : String}
  {id : ObjectId}

/-! ## Settled contexts -/

/-- All that a context owns is furnished by these deeds. -/
structure Settled (D : List Deed) (c : Context σ) : Prop extends Steady D c where
  furnished : ∀ e ∈ c.owned, c.Furnished D e

namespace Settled

omit [Lifecycle σ] in
/-- Nothing waits for a request that is made of a settled context. -/
theorem poised (settled : Settled D c) (keep : Bool) (name : String) :
    Poised D (.request keep name) c :=
  ⟨settled.toSteady, fun e owned => .inl (settled.furnished e owned), trivial⟩

/-- It stays settled if what is added is furnished, and nothing else is called that is owned. -/
theorem adds (settled : Settled D c) (adds : Adds own c ds c' others more)
    (ready : ∀ x ∈ own, x < c.host.heap.next) (other : ∀ e ∈ c.owned, e.2 ∉ own)
    (all : ∀ e ∈ more, c'.Furnished ds e) : Settled (D ++ ds) c' := by
  refine ⟨settled.toSteady.adds adds ready, fun e member => ?_⟩
  rcases List.mem_append.1 (adds.owned ▸ member) with old | new
  · exact (settled.furnished e old).append settled.indexed old (other e old) adds
  · exact (all e new).prepend (settled.spared (adds.newer new))

/-- Steps that leave the instances alone. -/
theorem lasts (settled : Settled D c) (goes : Goes c c') (tends : Tends c ds c' others)
    (owned : c'.owned = c.owned) : Settled D c' := by
  refine ⟨⟨goes.indexed settled.indexed, ⟨others, tends.held⟩, fun d member x callee =>
    Nat.lt_of_lt_of_le (settled.older d member x callee) goes.extended.next⟩, fun e member => ?_⟩
  rw [owned] at member
  exact (settled.furnished e member).lasts settled.indexed member goes tends

/-- What the rest of the program does. -/
theorem moves {host : Host σ} (settled : Settled D c) (moves : c.host.Moves ds host)
    (handles : host.heap.handles.Perm (others ++ c.owned.map (·.2))) :
    Settled D { c with host } := by
  obtain ⟨_, held⟩ := settled.held
  obtain ⟨es, follows, _⟩ := moves.journal
  have passes : Passes c { c with host } es := ⟨rfl, follows⟩
  exact settled.lasts (.passes passes) (held.moves moves handles) rfl

/-- **A creation that succeeds leaves a context settled.** -/
theorem create (settled : Settled D c) (made : c.create name = (.ok id, c')) :
    ∃ ds, c.host.Does ds c'.host ∧ Settled (D ++ ds) c' := by
  obtain ⟨others, held⟩ := settled.held
  have runs := runs_create c name
  rw [made] at runs
  obtain ⟨ds, more, chain, told⟩ := runs.told settled.indexed held rfl
  obtain ⟨rfl, _⟩ := told.done id rfl
  refine ⟨ds, told.adds.tends.does, settled.adds told.adds ?_ ?_ ?_⟩
  · exact fun x mine => absurd mine List.not_mem_nil
  · exact fun e owned => List.not_mem_nil
  · exact fun e member => (told.furnished e member).resolve_left List.not_mem_nil

/-- A root that is not kept is begun. -/
theorem begun (settled : Settled D c) (wants : Wants c name target)
    (built : (c.noted name).instantiate target = (.ok id, c₁)) :
    Settled (D ++ [.made id]) (c₁.begun false target id) := by
  obtain ⟨others, held⟩ := settled.held
  have goes : Goes c (c₁.begun false target id) := .single (.begins wants built)
  have tends := tends_begun false held built
  obtain ⟨⟨_, _, passes⟩, _⟩ := silent_of_built built
  refine ⟨settled.after goes tends (by simp [Deed.callee]), fun e member => ?_⟩
  have old : e ∈ c.owned := passes.only.owned ▸ member
  exact ((settled.furnished e old).lasts settled.indexed old goes tends).extend rfl

/-- So does one whose root is not kept. -/
theorem createDetached (settled : Settled D c) (made : c.createDetached name = (.ok id, c')) :
    ∃ ds, c.host.Does ds c'.host ∧ Settled (D ++ ds) c' := by
  obtain ⟨others, held⟩ := settled.held
  have found {b : Context σ} (noted : Proceeds c [] b) (live : b.host.heap.isLive id) :
      ∃ ds, c.host.Does ds (b.acquire id).host ∧ Settled (D ++ ds) (b.acquire id) := by
    have tends := tends_acquire (noted.tends held).held live
    have adds : Adds [] c [] (b.acquire id) (id :: others) [] :=
      .idle (noted.only.trans rfl) ((noted.tends held).trans tends)
    exact ⟨[], adds.tends.does, settled.adds adds (by simp) (by simp) (by simp)⟩
  have noted := proceeds_take c (c.view name).aliasTarget
  have runs := runs_createDetached c name
  rw [made] at runs
  cases runs with
  | live live => exact found (.refl c) (held.live_of_lookup live)
  | followed missing leads live =>
      exact found noted ((noted.tends held).held.live_of_lookup live)
  | @complete _ _ target _ c₁ b _ _ wants built filled called =>
      have begun := settled.begun wants built
      obtain ⟨⟨_, _, passes⟩, newer, used, _⟩ := silent_of_built built
      have held' := (tends_begun false held built).held
      obtain ⟨ds, more, chain, told⟩ := filled.told begun.indexed held' used
      obtain ⟨rfl, _⟩ := told.done id rfl
      have last := Adds.finale told.adds.tends.held called
      have inner := told.adds.andIdle last
      have does := (tends_begun false held built).does.trans inner.tends.does
      refine ⟨_, does, ?_⟩
      rw [← List.append_assoc]
      refine begun.adds inner ?_ ?_ ?_
      · exact fun x mine => List.mem_singleton.1 mine ▸ used
      · intro e member mine
        have older := settled.indexed.fresh e (passes.only.owned ▸ member)
        rw [List.mem_singleton.1 mine] at older
        exact absurd newer (Nat.not_le.2 older)
      · intro e member
        have owned : e ∈ b.owned := told.adds.owned ▸ List.mem_append_right _ member
        have furnished := (told.furnished e member).resolve_left List.not_mem_nil
        exact furnished.append (told.adds.goes.indexed begun.indexed) owned
          (told.adds.other used member) last

/-- So does a shutdown, after which nothing is owned. -/
theorem shutdown (settled : Settled D c) :
    ∃ ds, c.host.Does ds c.shutdown.host ∧ Settled (D ++ ds) c.shutdown := by
  obtain ⟨others, held⟩ := settled.held
  cases shut : c.shutDown with
  | true =>
      rw [shutdown_of_shutDown shut]
      exact ⟨[], .nothing _, by rwa [List.append_nil]⟩
  | false =>
      obtain ⟨ds, does, only, _⟩ := does_shutdown held
      have owned : c.shutdown.owned = [] := (cleaned_shutdown held shut).2.1
      have older : ∀ d ∈ D ++ ds, ∀ x, d.callee = some x → x < c.shutdown.host.heap.next := by
        intro d member x callee
        refine Nat.lt_of_lt_of_le ?_ does.next_le
        rcases List.mem_append.1 member with old | new
        · exact settled.older d old x callee
        · obtain ⟨e, there, r, rfl⟩ := only d new
          cases callee
          exact settled.indexed.fresh e there
      have happens : Happens c (some .shutdown) c.shutdown := .called trivial
      exact ⟨ds, does, ⟨settled.indexed.happens happens, ⟨others, held_shutdown held⟩, older⟩,
        by simp [owned]⟩

end Settled

/-! ## Smooth runs -/

/-- A run in which no creation has failed, from when the constants have been published: the context
as it is now, and the host before and after each time that it created something or was shut down.
In between, the rest of the program may do what it likes, but leaves the context its handles and the
environment as it is. -/
inductive Smooth (document : Document) : List (Host σ × Host σ) → Context σ → Prop where
  | begins {host : Host σ} {environment : Environment} {options : Options}
      (fresh : host.heap.Fresh) (scanned : host.scan.1 = .ok ())
      (published : (opened host environment document options).publish.1 = .ok ()) :
      Smooth document [] (opened host environment document options).publish.2
  | create {spans : List (Host σ × Host σ)} {c c' : Context σ} {name : String} {id : ObjectId}
      (smooth : Smooth document spans c) (made : c.create name = (.ok id, c')) :
      Smooth document (spans ++ [(c.host, c'.host)]) c'
  | createDetached {spans : List (Host σ × Host σ)} {c c' : Context σ} {name : String}
      {id : ObjectId} (smooth : Smooth document spans c)
      (made : c.createDetached name = (.ok id, c')) :
      Smooth document (spans ++ [(c.host, c'.host)]) c'
  | shutdown {spans : List (Host σ × Host σ)} {c : Context σ} (smooth : Smooth document spans c) :
      Smooth document (spans ++ [(c.host, c.shutdown.host)]) c.shutdown
  | aside {spans : List (Host σ × Host σ)} {c : Context σ} {host : Host σ} {ds : List Deed}
      {others : List ObjectId} (smooth : Smooth document spans c) (moves : c.host.Moves ds host)
      (handles : host.heap.handles.Perm (others ++ c.owned.map (·.2))) :
      Smooth document spans { c with host }

variable {spans : List (Host σ × Host σ)}

def Did (span : Host σ × Host σ) (ds : List Deed) : Prop := span.1.Does ds span.2

/-- **In a smooth run all that is owned is furnished**, by what was done in its spans. -/
theorem Smooth.settled (smooth : Smooth document spans c) :
    c.document = document ∧ ∃ works, List.Forall₂ Did spans works ∧ Settled works.flatten c := by
  have andThen {spans : List (Host σ × Host σ)} {works : List (List Deed)} {c c' : Context σ}
      (did : List.Forall₂ Did spans works)
      (last : ∃ ds, c.host.Does ds c'.host ∧ Settled (works.flatten ++ ds) c') :
      ∃ works, List.Forall₂ Did (spans ++ [(c.host, c'.host)]) works ∧
        Settled works.flatten c' := by
    obtain ⟨ds, does, settled⟩ := last
    refine ⟨works ++ [ds], List.rel_append did (.cons does .nil), ?_⟩
    rwa [List.flatten_append, List.flatten_singleton]
  induction smooth with
  | @begins host environment options fresh scanned published =>
      have held := held_publish (held_opened fresh environment document options)
      have indexed : Indexed (opened host environment document options).publish.2 :=
        (consistent_of_owned_nil rfl rfl).toIndexed
      refine ⟨rfl, [], .nil, ⟨indexed, ⟨_, held⟩, by simp⟩, ?_⟩
      exact fun e owned => absurd owned List.not_mem_nil
  | @create spans c c' name id smooth made ih =>
      obtain ⟨same, works, did, settled⟩ := ih
      have goes := goes_create c name
      rw [made] at goes
      exact ⟨goes.extended.document.trans same, andThen did (settled.create made)⟩
  | @createDetached spans c c' name id smooth made ih =>
      obtain ⟨same, works, did, settled⟩ := ih
      have goes := goes_createDetached c name
      rw [made] at goes
      exact ⟨goes.extended.document.trans same, andThen did (settled.createDetached made)⟩
  | @shutdown spans c smooth ih =>
      obtain ⟨same, works, did, settled⟩ := ih
      exact ⟨(document_shutdown c).trans same, andThen did settled.shutdown⟩
  | aside smooth moves handles ih =>
      obtain ⟨same, works, did, settled⟩ := ih
      exact ⟨same, works, did, settled.moves moves handles⟩

/-! ### What is smooth -/

theorem Smooth.held (smooth : Smooth document spans c) : ∃ others, Held c others := by
  obtain ⟨_, _, _, settled⟩ := smooth.settled
  exact settled.held

theorem Smooth.take {α : Type} (smooth : Smooth document spans c) (x : Logging.Logged α) :
    Smooth document spans (c.take x).2 := by
  obtain ⟨others, held⟩ := smooth.held
  exact smooth.aside (.enter c.host _) held.handles

theorem Smooth.log (smooth : Smooth document spans c) (level : Logging.Level) (message : String) :
    Smooth document spans (c.log level message) := by
  obtain ⟨others, held⟩ := smooth.held
  exact smooth.aside (.enter c.host _) held.handles

theorem Smooth.acquire (smooth : Smooth document spans c) (live : c.host.heap.isLive id) :
    Smooth document spans (c.acquire id) := by
  obtain ⟨others, held⟩ := smooth.held
  exact smooth.aside (.acquire c.host id) (tends_acquire held live).held.handles

/-- A handle that is given up is one of others. -/
theorem Smooth.release (smooth : Smooth document spans c) (held : Held c (id :: others)) :
    Smooth document spans (c.release id) :=
  smooth.aside (.release c.host id) (tends_release held).held.handles

/-- The early instances of a build are created in a smooth run, as far as they can be created. -/
theorem Smooth.prepares {names : List String} (smooth : Smooth document spans c)
    (prepared : Prepares c names c') : ∃ later, Smooth document (spans ++ later) c' := by
  induction prepared generalizing spans with
  | nil c => exact ⟨[], by rwa [List.append_nil]⟩
  | @cons c c₁ c' name names id made rest ih =>
      have announced : Smooth document spans (c.announced name) := smooth.log _ _
      obtain ⟨others, held⟩ := announced.held
      have given := (tended_create held made).held
      obtain ⟨later, final⟩ := ih ((announced.create made).release given)
      exact ⟨_, by rwa [List.append_assoc] at final⟩

theorem prepares_of_createEarly {names : List String} (made : c.createEarly names = (.ok (), c')) :
    Prepares c names c' := by
  induction names generalizing c with
  | nil =>
      cases made
      exact .nil _
  | cons name names ih =>
      unfold Context.createEarly at made
      cases created : (c.announced name).create name with
      | mk r c₁ =>
          rw [show (c.log .info _).create name = (r, c₁) from created] at made
          cases r with
          | error e => cases made
          | ok id => exact .cons created (ih made)

theorem publish_of_start {avoidEarly : Bool} (started : c.start avoidEarly = (.ok (), c')) :
    c.publish.1 = .ok () := by
  unfold start at started
  cases published : c.publish with
  | mk r after =>
      rw [published] at started
      cases r with
      | ok u => rfl
      | error e => cases started

/-- **A build that succeeds is smooth.** -/
theorem smooth_build {host : Host σ} {environment : Environment} {options : Options}
    (fresh : host.heap.Fresh) (built : build host environment document options = (.ok (), c)) :
    ∃ spans, Smooth document spans c := by
  obtain ⟨scanned, after, started, rfl⟩ := start_of_build built
  have begins := Smooth.begins fresh scanned (publish_of_start started)
  obtain ⟨later, smooth⟩ :=
    begins.prepares (prepares_of_createEarly (createEarly_of_start started))
  exact ⟨_, smooth.log _ _⟩

/-! ### Calls -/

/-- A call has created what it was to create. -/
def Granted (c : Context σ) : Operation → Prop
  | .create name | .createAs name _ => ∃ id, (c.create name).1 = .ok id
  | .createDetached name => ∃ id, (c.createDetached name).1 = .ok id
  | _ => True

theorem Smooth.castHandle (smooth : Smooth document spans c) (held : Held c (id :: others))
    (target : TypeName) : Smooth document spans (c.castHandle id target).2 := by
  unfold Context.castHandle
  split
  · exact smooth
  · exact smooth.release held

theorem Smooth.find (smooth : Smooth document spans c) (name : String) :
    Smooth document spans (c.find name).2 := by
  obtain ⟨others, held⟩ := smooth.held
  have noted := smooth.take (c.view name).aliasTarget
  unfold Context.find
  cases found : c.lookup name with
  | some id => exact smooth.acquire (held.live_of_lookup found)
  | none =>
      simp only
      cases expanded : c.take (c.view name).aliasTarget with
      | mk result after =>
          rw [expanded] at noted
          obtain ⟨others, held⟩ := noted.held
          cases result with
          | error e => exact noted
          | ok target =>
              simp only
              split
              · exact noted
              · cases live : after.lookup target with
                | none => exact noted
                | some id => exact noted.acquire (held.live_of_lookup live)

/-- **So is every call that creates what it was to create.** -/
theorem Smooth.operate {call : Operation} (smooth : Smooth document spans c) (fair : Fair c call)
    (granted : Granted c call) : ∃ later, Smooth document (spans ++ later) (c.operate call) := by
  obtain ⟨others, held⟩ := smooth.held
  have still {c' : Context σ} (same : Smooth document spans c') :
      ∃ later, Smooth document (spans ++ later) c' := ⟨[], by rwa [List.append_nil]⟩
  cases call with
  | create name =>
      obtain ⟨id, ok⟩ := granted
      exact ⟨_, smooth.create (Prod.ext ok rfl)⟩
  | createDetached name =>
      obtain ⟨id, ok⟩ := granted
      exact ⟨_, smooth.createDetached (Prod.ext ok rfl)⟩
  | createAs name target =>
      obtain ⟨id, ok⟩ := granted
      show ∃ later, Smooth document (spans ++ later) (c.createAs name target).2
      unfold Context.createAs
      cases made : c.create name with
      | mk r after =>
          rw [made] at ok
          cases ok
          exact ⟨_, (smooth.create made).castHandle (tended_create held made).held target⟩
  | find name => exact still (smooth.find name)
  | findAs name target =>
      have looked := smooth.find name
      have given := (tended_find held name).held
      show ∃ later, Smooth document (spans ++ later) (c.findAs name target).2
      unfold Context.findAs
      cases found : c.find name with
      | mk answer after =>
          rw [found] at looked given
          cases answer with
          | none => exact still looked
          | some id =>
              have used := looked.castHandle given target
              simp only
              cases cast : after.castHandle id target with
              | mk r final =>
                  rw [cast] at used
                  cases r <;> exact still used
  | release id =>
      obtain ⟨left, same⟩ := exists_of_fair held fair
      exact still (smooth.release ⟨held.fresh, held.live, held.handles.trans (same.append_right _)⟩)
  | shutdown => exact ⟨_, smooth.shutdown⟩

/-! ## The moment -/

/-- In the course of a job the hook of `x`, an instance of the name `n`, is called in the context
`b`, when these events have been entered and these deeds done since the job began. -/
structure CalledAt (job : Job) (c c' : Context σ) (before : List Event) (x : ObjectId) (n : String)
    (b : Context σ) (ds : List Deed) : Prop where
  inside : Inside job c (.filling n x []) b
  named : ∀ m, c'.lookup m = some x → m = n
  journal : b.host.journal = c.host.journal ++ before
  does : c.host.Does ds b.host

/-- **Dependencies are ready before the hook is called.**  A request is made in a smooth run, and in
its course the hook of an instance is called.  At this moment all that the instance needs is live
and furnished, unless it needs itself, which it does not if there is no cycle in what it needs. -/
theorem ready_before_done (apart : document.Apart) (smooth : Smooth document spans c) {keep : Bool}
    {r : Except Error ObjectId} (answered : c.attempt keep name = some (r, c'))
    {before after : List Event} {x : ObjectId}
    (entered : c'.host.journal = c.host.journal ++ (before ++ .called x doneHook :: after)) :
    ∃ n b works ds, CalledAt (.request keep name) c c' before x n b ds ∧
      List.Forall₂ Did spans works ∧
      (¬ c.Needs n n → ∀ k, c.Needs n k → ∃ i, b.lookup k = some i ∧ b.host.heap.isLive i ∧
        b.Furnished (works.flatten ++ ds) (k, i)) := by
  obtain ⟨same, works, did, settled⟩ := smooth.settled
  obtain ⟨_, es, follows, moments⟩ := (runs_of_construct _ answered).heard
  obtain ⟨n, b, inside, goes, journal⟩ :=
    moments (List.append_cancel_left (follows.journal.symm.trans entered))
  obtain ⟨ds, does, poised⟩ := inside.poised (settled.poised keep name)
  have grown := inside.goes.extended
  refine ⟨n, b, works, ds, ⟨inside, fun m live => poised.named goes live, journal, does⟩, did,
    fun acyclic k needs => ?_⟩
  -- What the declarations say is the same at the moment as when the request was made.
  rw [← grown.needs] at acyclic needs
  exact poised.ready (by rw [grown.document, same]; exact apart) acyclic needs

/-- An instance that needs another over two more, of which one refers to it by an alias. -/
def diamond : Document where
  aliases := [⟨"base", "d"⟩]
  instances := [
    { name := "a", className := some "oracle::Ring",
      properties := [{ name := some "next", reference := some "b" },
        { name := some "next", reference := some "c" }] },
    { name := "b", className := some "oracle::Ring",
      properties := [{ name := some "next", reference := some "base" }] },
    { name := "c", className := some "oracle::Ring",
      properties := [{ name := some "next", reference := some "d" }] },
    { name := "d", className := some "oracle::Ring" }]

theorem ready_before_done_diamond :
    let start := (opened Sample.host .empty diamond {}).publish.2
    let c := (start.create "c").2
    let c' := (c.create "a").2
    hookCalls doneHook c.host.journal = [1, 0] ∧
      hookCalls doneHook c'.host.journal = [1, 0, 3, 2] ∧ c.Needs "a" "d" ∧ ¬ c.Needs "a" "a" ∧
      ∃ (spans : List (Host Sample × Host Sample)) (before after : List Event)
        (b : Context Sample) (works : List (List Deed)) (ds : List Deed),
        Smooth diamond spans c ∧
        c'.host.journal = c.host.journal ++ (before ++ .called 2 doneHook :: after) ∧
        CalledAt (.request true "a") c c' before 2 "a" b ds ∧ List.Forall₂ Did spans works ∧
        ∀ k, c.Needs "a" k → ∃ i, b.lookup k = some i ∧ b.host.heap.isLive i ∧
          b.Furnished (works.flatten ++ ds) (k, i) := by
  intro start c c'
  have first : hookCalls doneHook c.host.journal = [1, 0] := by decide +kernel
  have second : hookCalls doneHook c'.host.journal = [1, 0, 3, 2] := by decide +kernel
  have needs : c.Needs "a" "d" := by
    have edge : "c" ∈ c.successors "a" := by decide +kernel
    exact .tail (.single edge) (by decide +kernel)
  have acyclic : ¬ c.Needs "a" "a" := by
    have closed : ∀ a ∈ "a" :: ["b", "c", "d"], ∀ b ∈ c.successors a, b ∈ ["b", "c", "d"] := by
      decide +kernel
    exact fun cycle => absurd (Needs.within closed cycle) (by decide)
  have begins : Smooth diamond [] start :=
    .begins Heap.fresh_empty (by decide +kernel) (by decide +kernel)
  have made : start.create "c" = (.ok 0, c) := Prod.ext (by decide +kernel) rfl
  have smooth : Smooth diamond _ c := begins.create made
  obtain ⟨_, es, follows, _⟩ := (runs_create c "a").heard
  have journal : c'.host.journal = c.host.journal ++ es := follows.journal
  have rung : hookCalls doneHook es = [3, 2] := by
    rw [journal, hookCalls_append, first] at second
    simpa using second
  obtain ⟨before, after, rfl⟩ : ∃ before after, es = before ++ .called 2 doneHook :: after :=
    split_of_mem_hookCalls (rung ▸ by decide)
  obtain ⟨n, b, works, ds, called, did, ready⟩ :=
    ready_before_done (by decide) smooth (attempt_eq_create c "a") journal
  obtain rfl : "a" = n := called.named "a" (by decide +kernel)
  exact ⟨first, second, needs, acyclic, _, before, after, b, works, ds, smooth, journal, called, did,
    ready acyclic⟩

end Wiring.Context
