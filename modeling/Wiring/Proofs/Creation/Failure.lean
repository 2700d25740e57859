/-
# Wiring.Proofs.Creation.Failure -- what a failed request leaves behind

`Runs.told` goes through the rules of a creation and accounts for every instance that
was added: it is furnished, or it lies on the chain that `Stuck` describes.  A request
that fails has a chain from the instance that was asked for down to the one that was
being filled, or called, when it failed; all others are furnished, and all that was
there before is as it was (`create_failed`).
-/
import Wiring.Proofs.Context.Reached
import Wiring.Proofs.Creation.Additions

namespace Wiring.Context

set_option autoImplicit false

open Wiring.Component
open Wiring.Document (Property)

variable {σ : Type} [Lifecycle σ] {own others left : List ObjectId} {a b c c' c₁ : Context σ}
  {ds es : List Deed} {more rest chain : List (String × ObjectId)} {owner name target : String}
  {id : ObjectId} {p : Property} {ps : List Property} {r : Except Error ObjectId} {e : Error}

/-! ## Accounts of runs -/

/-- What has to hold for a job to be accounted for: a request keeps what it creates, and an instance
to be filled is there. -/
def Job.Ready (c : Context σ) : Job → Prop
  | .request keep _ => keep = true
  | .filling _ id _ => id < c.host.heap.next

/-- What a job has come to when it is answered. -/
def Job.Done (c : Context σ) (ds : List Deed) (answer : ObjectId) : Job → Prop
  | .request _ name => c.Finds name answer
  | .filling owner id ps => ∃ calls, c.Sets owner id ps calls ∧ callsOn id ds = calls

/-- An account of a job: what it added, and which of that is not furnished. -/
structure Told (job : Job) (c : Context σ) (r : Except Error ObjectId) (c' : Context σ)
    (others : List ObjectId) (ds : List Deed) (more chain : List (String × ObjectId)) : Prop where
  adds : Adds job.own c ds c' (job.handed r ++ others) more
  sublist : chain.Sublist more
  furnished : ∀ x ∈ more, x ∈ chain ∨ c'.Furnished ds x
  stuck : ∀ e, r = .error e → Stuck c c' ds e job chain
  done : ∀ answer, r = .ok answer → chain = [] ∧ job.Done c' ds answer

/-- A request that is answered without a new instance. -/
theorem Told.plain {keep : Bool} (only : OnlyHost c c')
    (tends : Tends c [] c' (r.toOption.toList ++ others))
    (stuck : ∀ e, r = .error e → Stuck c c' [] e (.request keep name) [])
    (finds : ∀ answer, r = .ok answer → c'.Finds name answer) :
    Told (.request keep name) c r c' others [] [] [] :=
  ⟨.idle only tends, .slnil, by simp, stuck, fun answer ok => ⟨rfl, finds answer ok⟩⟩

/-- An entry was dealt with, and all that this added is furnished. -/
structure Dealt (owner : String) (id : ObjectId) (p : Property) (c : Context σ) (ds : List Deed)
    (c' : Context σ) (others : List ObjectId) (more : List (String × ObjectId)) : Prop where
  adds : Adds [id] c ds c' others more
  furnished : ∀ x ∈ more, c'.Furnished ds x
  entry : c'.Entry owner id p (callsOn id ds)

/-- The entries of an instance are gone through one by one. -/
theorem Told.cons (indexed : Indexed c) (ready : id < c.host.heap.next)
    (dealt : Dealt owner id p c ds c₁ others more)
    (later : Told (.filling owner id ps) c₁ r c' others es rest chain) :
    Told (.filling owner id (p :: ps)) c r c' others (ds ++ es) (more ++ rest) chain := by
  obtain ⟨first, all, entry⟩ := dealt
  have indexed₁ := first.goes.indexed indexed
  have ready₁ := Nat.lt_of_lt_of_le ready first.goes.extended.next
  have upholds := later.adds.goes.extended.upholds indexed₁ (later.adds.goes.indexed indexed₁)
  have entry' := entry.mono upholds
  have spared : ∀ x ∈ rest, callsOn x.2 ds = [] := fun x member =>
    first.spared (later.adds.other ready₁ member) (.inr (later.adds.newer member))
  have sublist := later.sublist.trans (List.sublist_append_right more rest)
  refine ⟨first.andThen later.adds, sublist, ?_, ?_, ?_⟩
  · intro x member
    rcases List.mem_append.1 member with member | member
    · have owned : x ∈ c₁.owned := first.owned ▸ List.mem_append_right _ member
      exact .inr ((all x member).append indexed₁ owned (first.other ready member) later.adds)
    · exact (later.furnished x member).imp_right fun done => done.prepend (spared x member)
  · intro e failed
    refine (later.stuck e failed).cons entry' first.tends.does ?_
    intro i member
    obtain ⟨x, there, rfl⟩ := List.mem_map.1 member
    exact spared x (later.sublist.subset there)
  · intro answer ok
    obtain ⟨none, calls, sets, called⟩ := later.done answer ok
    exact ⟨none, _, .cons entry' sets, by rw [callsOn_append, called]⟩

/-- An entry is dealt with, and then the others. -/
theorem Dealt.andThen (dealt : Dealt owner id p c ds c₁ others more) (indexed : Indexed c)
    (ready : id < c.host.heap.next)
    (later : Indexed c₁ → Held c₁ others → (Job.filling owner id ps).Ready c₁ →
      ∃ es rest chain, Told (.filling owner id ps) c₁ r c' others es rest chain) :
    ∃ es rest chain, Told (.filling owner id (p :: ps)) c r c' others es rest chain := by
  have goes := dealt.adds.goes
  obtain ⟨es, rest, chain, told⟩ := later (goes.indexed indexed) dealt.adds.tends.held
    (Nat.lt_of_lt_of_le ready goes.extended.next)
  exact ⟨_, _, _, .cons indexed ready dealt told⟩

/-- The next entry cannot be set. -/
theorem Told.fails (adds : Adds [id] c ds c' others more) (sublist : chain.Sublist more)
    (furnished : ∀ x ∈ more, x ∈ chain ∨ c'.Furnished ds x)
    (stuck : Stuck c c' ds e (.filling owner id ([] ++ p :: ps)) chain) :
    Told (.filling owner id (p :: ps)) c (.error e) c' others ds more chain :=
  ⟨adds, sublist, furnished, fun _ failed => Except.error.inj failed ▸ stuck, by simp⟩

/-! ## New instances -/

/-- At the end, the hook is called if there is one. -/
theorem Adds.finale {r : Except Error Unit} (held : Held c others)
    (result : c.callDone owner id = (r, c')) : Adds [id] c (c.finale id r) c' others [] := by
  unfold Context.finale
  rcases callDone_cases result with ⟨bound, called⟩ | ⟨unbound, _, rfl⟩
  · rw [if_pos bound]
    exact .serve rfl called held
  · rw [if_neg unbound]
    exact .refl held

theorem Adds.release (adds : Adds own c ds c' (id :: others) more) :
    Adds own c ds (c'.release id) others more := by
  rw [← List.append_nil ds]
  exact adds.andIdle (.idle (Rests.release c' id).only (tends_release adds.tends.held))

section Begun

variable (wants : Wants c name target)
  (built : (c.noted name).instantiate target = (.ok id, c₁))
  (filling : Told (.filling target id ps) (c₁.begun true target id) r b (id :: others) ds more
    chain)
  (last : Adds [id] b es c' left [])

omit [Lifecycle σ] in
theorem mem_begun (c₁ : Context σ) : (target, id) ∈ (c₁.begun true target id).owned :=
  List.mem_append_right _ (List.mem_singleton_self _)

include wants built

omit [Lifecycle σ] in
theorem ready_begun (indexed : Indexed c) : id < (c₁.begun true target id).host.heap.next :=
  (indexed.begun true wants built).fresh _ (mem_begun c₁)

include filling last

/-- An instance is begun, filled, and then called or given up. -/
theorem adds_around (held : Held c others) :
    Adds [] c ([.made id] ++ (ds ++ es)) c' left ((target, id) :: more) := by
  have inner := filling.adds.andIdle last
  obtain ⟨_, newer, used, _⟩ := silent_of_built built
  refine (Adds.begun held wants built).trans inner ?_
  intro x mine
  have next : c₁.host.heap.next ≤ c'.host.heap.next := by
    obtain ⟨_, _, acquired⟩ := silent_acquire c₁ id
    exact Nat.le_trans acquired.follows.next inner.goes.extended.next
  rw [List.mem_singleton.1 mine]
  exact .inr ⟨newer, Nat.lt_of_lt_of_le used next⟩

/-- What was furnished by filling it is so in the end. -/
theorem furnished_around (indexed : Indexed c) :
    ∀ x ∈ more, x ∈ chain ∨ c'.Furnished ([.made id] ++ (ds ++ es)) x := by
  intro x member
  refine (filling.furnished x member).imp_right fun furnished => ?_
  have owned : x ∈ b.owned := filling.adds.owned ▸ List.mem_append_right _ member
  have other := filling.adds.other (ready_begun wants built indexed) member
  have indexed' := filling.adds.goes.indexed (indexed.begun true wants built)
  exact (furnished.append indexed' owned other last).prepend rfl

end Begun

/-- All entries of an instance were set, and then it was called or given up. -/
theorem sets_around (indexed : Indexed c) (wants : Wants c name target)
    (built : (c.noted name).instantiate target = (.ok id, c₁))
    (filling : Told (.filling target id ((c₁.enrolled true target id).properties target))
      (c₁.begun true target id) (.ok id) b (id :: others) ds more chain)
    (last : Adds [id] b es c' left []) :
    ∃ calls, c'.Sets target id (c'.properties target) calls ∧
      callsOn id ([.made id] ++ (ds ++ es)) = calls ++ callsOn id es := by
  obtain ⟨_, calls, sets, called⟩ := filling.done id rfl
  have indexed' := filling.adds.goes.indexed (indexed.begun true wants built)
  have properties : c'.properties target = (c₁.enrolled true target id).properties target :=
    (filling.adds.goes.trans last.goes).extended.properties target
  refine ⟨calls, ?_, ?_⟩
  · rw [properties]
    exact sets.mono (last.goes.extended.upholds indexed' (last.goes.indexed indexed'))
  · rw [callsOn_append, callsOn_append, called]
    rfl

section Begun

variable (indexed : Indexed c) (held : Held c others) (wants : Wants c name target)
  (built : (c.noted name).instantiate target = (.ok id, c₁))

include indexed held wants built

/-- A new instance is filled and its hook succeeds. -/
theorem told_complete
    (filling : Told (.filling target id ((c₁.enrolled true target id).properties target))
      (c₁.begun true target id) (.ok id) b (id :: others) ds more chain)
    (called : b.callDone target id = (.ok (), c')) :
    Told (.request true name) c (.ok id) c' others ([.made id] ++ (ds ++ b.finale id (.ok ())))
      ((target, id) :: more) [] := by
  have last := Adds.finale filling.adds.tends.held called
  have adds := adds_around wants built filling last held
  have furnished := furnished_around wants built filling last indexed
  obtain ⟨calls, sets, all⟩ := sets_around indexed wants built filling last
  obtain ⟨rfl, _⟩ := filling.done id rfl
  have owned : (target, id) ∈ b.owned :=
    filling.adds.owned ▸ List.mem_append_left _ (mem_begun c₁)
  have head : c'.Furnished ([.made id] ++ (ds ++ b.finale id (.ok ()))) (target, id) := by
    refine ⟨calls, sets, ?_⟩
    rw [all]
    unfold Context.finale
    rw [last.tends.hasHook owned]
    split <;> simp [callsOn, Deed.callee]
  refine ⟨adds, List.nil_sublist _, ?_, by simp, ?_⟩
  · rintro x (_ | ⟨_, member⟩)
    · exact .inr head
    · exact furnished x member
  · rintro answer ⟨⟩
    have live : c'.lookup target = some id := by
      rw [(adds.goes.indexed indexed).lookup_iff, last.owned]
      exact List.mem_append_left _ owned
    exact ⟨rfl, .inr ⟨target, (adds.goes.extended.leadsTo name).trans wants.leads, live⟩⟩

/-- A new instance is filled and its hook fails. -/
theorem told_undone
    (filling : Told (.filling target id ((c₁.enrolled true target id).properties target))
      (c₁.begun true target id) (.ok id) b (id :: others) ds more chain)
    (called : b.callDone target id = (.error e, c')) :
    Told (.request true name) c (.error e) (c'.release id) others
      ([.made id] ++ (ds ++ b.finale id (.error e))) ((target, id) :: more) [(target, id)] := by
  have last := (Adds.finale filling.adds.tends.held called).release
  have adds := adds_around wants built filling last held
  have furnished := furnished_around wants built filling last indexed
  obtain ⟨calls, sets, all⟩ := sets_around indexed wants built filling last
  obtain ⟨rfl, _⟩ := filling.done id rfl
  have ended : b.finale id (.error e) = [.called id doneHook (.error e)] := by
    rcases callDone_cases called with ⟨bound, _⟩ | ⟨_, ok, _⟩
    · exact if_pos bound
    · simp at ok
  refine ⟨adds, List.sublist_append_left _ _, ?_, ?_, by simp⟩
  · rintro x (_ | ⟨_, member⟩)
    · exact .inl (List.mem_singleton_self _)
    · exact .inr ((furnished x member).resolve_left List.not_mem_nil)
  · rintro _ ⟨⟩
    refine .undone ((adds.goes.extended.leadsTo name).trans wants.leads) sets ?_
    rw [all, ended]
    simp [callsOn, Deed.callee]

/-- A new instance cannot be filled. -/
theorem told_broken
    (filling : Told (.filling target id ((c₁.enrolled true target id).properties target))
      (c₁.begun true target id) (.error e) c' (id :: others) ds more chain) :
    Told (.request true name) c (.error e) (c'.release id) others ([.made id] ++ (ds ++ []))
      ((target, id) :: more) ((target, id) :: chain) := by
  have last : Adds [id] c' [] (c'.release id) others [] :=
    (Adds.refl filling.adds.tends.held).release
  have adds := adds_around wants built filling last held
  have furnished := furnished_around wants built filling last indexed
  refine ⟨adds, filling.sublist.cons_cons _, ?_, ?_, by simp⟩
  · rintro x (_ | ⟨_, member⟩)
    · exact .inl List.mem_cons_self
    · exact (furnished x member).imp_left (List.mem_cons_of_mem _)
  · rintro _ ⟨⟩
    refine .unfilled ((adds.goes.extended.leadsTo name).trans wants.leads) ?_
    have properties : (c'.release id).properties target =
        (c₁.enrolled true target id).properties target :=
      (filling.adds.goes.trans last.goes).extended.properties target
    rw [properties, List.append_nil]
    exact ((filling.stuck e rfl).rests (.release c' id)).prepend
      (Adds.begun held wants built).tends.does (by intros; rfl)

end Begun

/-! ## Entries -/

theorem dealt_nameless (held : Held c others) (unnamed : p.name = none) (level : Logging.Level)
    (message : String) : Dealt owner id p c [] (c.log level message) others [] := by
  have logged := proceeds_log c level message
  exact ⟨.idle logged.only (logged.tends held), by simp, .nameless unnamed⟩

theorem dealt_plain (held : Held c others) (named : p.name = some name)
    (direct : p.reference = none) (injected : c.injectPlain owner id p name = (.ok (), c₁)) :
    ∃ ds, Dealt owner id p c ds c₁ others [] := by
  have taken := injectPlain_taken injected
  unfold Taken at taken
  split at taken
  · simp at taken
  · next offered =>
    have adds : Adds [id] c [] c₁ others [] := .idle taken.2.only (taken.2.tends held)
    rw [← adds.goes.extended.environment] at offered
    exact ⟨_, adds, by simp, .malformed named direct offered⟩
  · next value offered =>
    have adds : Adds [id] c _ c₁ others [] := .serve rfl taken held
    rw [← adds.goes.extended.environment] at offered
    refine ⟨_, adds, by simp, ?_⟩
    simpa [callsOn, Deed.callee] using Entry.set named (.plain direct offered)

theorem told_plainFails (held : Held c others) (named : p.name = some name)
    (direct : p.reference = none) (failed : c.injectPlain owner id p name = (.error e, c'))
    (level : Logging.Level) (message : String) :
    ∃ ds, Told (.filling owner id (p :: ps)) c (.error e) (c'.log level message) others ds []
      [] := by
  have logged := proceeds_log c' level message
  have taken := injectPlain_taken failed
  unfold Taken at taken
  split at taken
  · next offered =>
    obtain ⟨same, proceeds⟩ := taken
    cases same
    have proceeds := proceeds.trans logged
    have adds : Adds [id] c [] _ others [] := .idle proceeds.only (proceeds.tends held)
    rw [← adds.goes.extended.environment] at offered
    exact ⟨_, .fails adds .slnil (by simp) (.refused .nil named direct offered rfl)⟩
  · simp at taken
  · next value offered =>
    have adds : Adds [id] c _ _ others [] := .serve rfl (taken.trans logged) held
    rw [← adds.goes.extended.environment] at offered
    refine ⟨_, .fails adds .slnil (by simp) ?_⟩
    refine .rejected .nil named (.plain direct offered) ?_
    simp [callsOn, Deed.callee]

theorem ready_expand (indexed : Indexed c) (held : Held c others) (text : String) :
    Indexed (c.expand text).2 ∧ Held (c.expand text).2 others :=
  ⟨((Goes.refl c).silent (silent_expand c text)).indexed indexed,
    ((proceeds_expand c text).tends held).held⟩

section Reference

variable {text : String} {value : ObjectId} {given : Except Error Unit} (indexed : Indexed c)
  (held : Held c others) (ready : id < c.host.heap.next) (refers : p.reference = some text)

include indexed held ready refers

/-- What a reference finds is handed to a setter and given up. -/
theorem reference_injected
    (made : Told (.request true (c.expand text).1) (c.expand text).2 (.ok value) b others ds more
      chain)
    (injected : b.inject id name (.reference value) = (given, c₁))
    (after : Proceeds (c₁.release value) [] c') :
    let calls := [Deed.injected id name (.reference value) given]
    Adds [id] c (ds ++ calls) c' others more ∧ (∀ x ∈ more, c'.Furnished (ds ++ calls) x) ∧
      c'.Means owner name p (.reference value) ∧ callsOn id (ds ++ calls) = calls := by
  intro calls
  have expanded := proceeds_expand c text
  have before : Adds [id] c [] (c.expand text).2 others [] :=
    .idle expanded.only (expanded.tends held)
  have answered : Adds [id] c ds b (value :: others) more := before.andThen made.adds.widen
  have indexed' := answered.goes.indexed indexed
  have served : Adds [id] b calls c' others [] := by
    have proceeds := proceeds_inject b id name (.reference value)
    rw [injected] at proceeds
    exact (Adds.serve rfl proceeds answered.tends.held).release.proceeds after
  obtain ⟨none, finds⟩ := made.done value rfl
  refine ⟨answered.andIdle served, ?_, ?_, ?_⟩
  · intro x member
    have furnished := (made.furnished x member).resolve_left (by simp [none])
    have owned : x ∈ b.owned := answered.owned ▸ List.mem_append_right _ member
    exact furnished.append indexed' owned (answered.other ready member) served
  · refine .reference refers ?_
    rw [expand_congr (answered.goes.trans served.goes).extended.environment]
    exact (served.goes.extended.upholds indexed' (served.goes.indexed indexed')).finds finds
  · have spared : callsOn id ds = [] := made.adds.spared List.not_mem_nil (.inl ready)
    rw [callsOn_append, spared]
    simp [calls, callsOn, Deed.callee]

/-- What a reference refers to cannot be had. -/
theorem told_targetFails (named : p.name = some name)
    (failed : Told (.request true (c.expand text).1) (c.expand text).2 (.error e) b others ds more
      chain)
    (after : Proceeds b [] c') :
    Told (.filling owner id (p :: ps)) c (.error e) c' others ds more chain := by
  have expanded := proceeds_expand c text
  have before : Adds [id] c [] (c.expand text).2 others [] :=
    .idle expanded.only (expanded.tends held)
  have answered : Adds [id] c ds b others more := before.andThen failed.adds.widen
  have adds := answered.proceeds after
  refine .fails adds failed.sublist ?_ ?_
  · intro x member
    have owned : x ∈ b.owned := answered.owned ▸ List.mem_append_right _ member
    refine (failed.furnished x member).imp_right fun furnished => ?_
    exact furnished.proceeds (answered.goes.indexed indexed) answered.tends.held owned after
  · have stuck := ((failed.stuck e rfl).rests after.rests).prepend expanded.does (by intros; rfl)
    rw [← expand_congr adds.goes.extended.environment] at stuck
    exact .deeper .nil named refers (failed.adds.spared List.not_mem_nil (.inl ready)) stuck

end Reference

/-! ## Every run -/

/-- **An account can be given of every run.** -/
theorem Runs.told {job : Job} (runs : Runs job c r c') (indexed : Indexed c) (held : Held c others)
    (ready : job.Ready c) : ∃ ds more chain, Told job c r c' others ds more chain := by
  -- The handles of others vary: an instance that is being filled is one more of them.
  induction runs generalizing others with
  | live found =>
      have acquired := tends_acquire held (held.live_of_lookup found)
      refine ⟨_, _, _, .plain rfl acquired (by simp) ?_⟩
      rintro answer ⟨⟩
      exact .inl found
  | @astray keep name c e missing leads =>
      have noted := proceeds_take c (c.view name).aliasTarget
      refine ⟨_, _, _, .plain noted.only (noted.tends held) ?_ (by simp)⟩
      rintro _ ⟨⟩
      exact .astray leads
  | @followed keep name target c id missing leads found =>
      have noted := proceeds_take c (c.view name).aliasTarget
      have before := noted.tends held
      have acquired := tends_acquire before.held (before.held.live_of_lookup found)
      refine ⟨_, _, _, .plain (noted.only.trans rfl) (before.trans acquired) (by simp) ?_⟩
      rintro answer ⟨⟩
      exact .inr ⟨target, leads, found⟩
  | @unfit keep name target c c' e wants failed =>
      have noted := proceeds_take c (c.view name).aliasTarget
      have all : Proceeds c [] c' := proceeds_of_unfit failed
      have absent : target ∉ c'.names := by
        rw [all.rests.names]
        exact indexed.lookup_eq_none_iff.1 wants.absent
      refine ⟨_, _, _, .plain all.only (all.tends held) ?_ (by simp)⟩
      rintro _ ⟨⟩
      refine .unfit ((all.rests.extended.leadsTo name).trans wants.leads) absent ?_
      exact (unfit_of_instantiate failed).prepend noted.does
  | @complete keep name target c c₁ c₂ c' id wants built filled called ih =>
      cases ready
      obtain ⟨ds, more, chain, filling⟩ := ih (indexed.begun true wants built)
        (tends_begun true held built).held (ready_begun wants built indexed)
      exact ⟨_, _, _, told_complete indexed held wants built filling called⟩
  | @undone keep name target c c₁ c₂ c' id e wants built filled called ih =>
      cases ready
      obtain ⟨ds, more, chain, filling⟩ := ih (indexed.begun true wants built)
        (tends_begun true held built).held (ready_begun wants built indexed)
      exact ⟨_, _, _, told_undone indexed held wants built filling called⟩
  | @broken keep name target c c₁ c' id e wants built failed ih =>
      cases ready
      obtain ⟨ds, more, chain, filling⟩ := ih (indexed.begun true wants built)
        (tends_begun true held built).held (ready_begun wants built indexed)
      exact ⟨_, _, _, told_broken indexed held wants built filling⟩
  | filled =>
      refine ⟨[], [], [], .refl held, .slnil, by simp, by simp, ?_⟩
      exact fun answer _ => ⟨rfl, [], .nil, rfl⟩
  | nameless unnamed rest ih => exact (dealt_nameless held unnamed _ _).andThen indexed ready ih
  | plain named value injected rest ih =>
      obtain ⟨ds, dealt⟩ := dealt_plain held named value injected
      exact dealt.andThen indexed ready ih
  | plainFails named value failed =>
      obtain ⟨ds, told⟩ := told_plainFails held named value failed .error _
      exact ⟨_, _, _, told⟩
  | @reference owner name text id value p ps c c₁ c₂ c' r named refers made injected rest made_ih
      ih =>
      obtain ⟨indexed', held'⟩ := ready_expand indexed held text
      obtain ⟨ds, more, chain, made⟩ := made_ih indexed' held' rfl
      obtain ⟨adds, furnished, means, calls⟩ :=
        reference_injected indexed held ready refers made injected (.refl _)
      have dealt : Dealt owner id p c _ _ others more :=
        ⟨adds, furnished, by rw [calls]; exact .set named means⟩
      exact dealt.andThen indexed ready ih
  | @targetFails owner name text id p ps c c' e named refers failed ih =>
      obtain ⟨indexed', held'⟩ := ready_expand indexed held text
      obtain ⟨ds, more, chain, failed⟩ := ih indexed' held' rfl
      refine ⟨_, _, _, told_targetFails indexed held ready refers named failed ?_⟩
      exact (proceeds_log _ _ _).trans (proceeds_log _ _ _)
  | @setterFails owner name text id value p ps c c₁ c' e named refers made failed ih =>
      obtain ⟨indexed', held'⟩ := ready_expand indexed held text
      obtain ⟨ds, more, chain, made⟩ := ih indexed' held' rfl
      obtain ⟨adds, furnished, means, calls⟩ :=
        reference_injected indexed held ready refers made failed (proceeds_log _ _ _)
      refine ⟨_, more, [], .fails adds (List.nil_sublist _) ?_ (.rejected .nil named means calls)⟩
      exact fun x member => .inr (furnished x member)

/-! ## Failed requests -/

/-- A request for what is live finds it, and does nothing to it. -/
theorem create_of_live {x : String × ObjectId} (indexed : Indexed c) (owned : x ∈ c.owned)
    (asks : name = x.1 ∨ c.lookup name = none ∧ c.leadsTo name = .ok x.1) :
    (c.create name).1 = .ok x.2 ∧ Rests c (c.create name).2 := by
  have live : c.lookup x.1 = some x.2 := indexed.lookup_iff.2 owned
  have runs := runs_create c name
  generalize c.create name = s at runs ⊢
  obtain ⟨r, c'⟩ := s
  have missing {target : String} (wants : Wants c name target) : False := by
    rcases asks with rfl | ⟨_, leads⟩
    · simp [wants.missing] at live
    · rw [wants.leads] at leads
      cases leads
      simp [wants.absent] at live
  cases runs with
  | live found =>
      rcases asks with rfl | ⟨missing, _⟩
      · rw [live] at found
        cases found
        exact ⟨rfl, .acquire c _⟩
      · simp [missing] at found
  | astray missing leads =>
      rcases asks with rfl | ⟨_, leads'⟩
      · simp [missing] at live
      · simp [leads] at leads'
  | followed missing leads found =>
      rcases asks with rfl | ⟨_, leads'⟩
      · simp [missing] at live
      · rw [leads] at leads'
        cases leads'
        rw [live] at found
        cases found
        exact ⟨rfl, (proceeds_take c _).rests.trans (.acquire _ _)⟩
  | unfit wants _ => exact (missing wants).elim
  | complete wants _ _ _ => exact (missing wants).elim
  | undone wants _ _ _ => exact (missing wants).elim
  | broken wants _ _ => exact (missing wants).elim

/-- What a request that failed leaves behind. -/
structure Failed (c : Context σ) (name : String) (e : Error) (ds : List Deed) (c' : Context σ)
    (more chain : List (String × ObjectId)) : Prop where
  /-- What was done, and what of it can be read in the journal. -/
  does : c.host.Does ds c'.host
  journal : ∃ es, c'.host.journal = c.host.journal ++ es ∧
    es.filter Event.isCall = ds.filterMap Deed.event?
  /-- What was owned is live, the same, and was not called, nor was any other older object. -/
  kept : ∀ x ∈ c.owned, c'.lookup x.1 = some x.2 ∧ c'.host.heap.isLive x.2 ∧
    c'.host.blueprint? x.2 = c.host.blueprint? x.2 ∧ callsOn x.2 ds = []
  older : ∀ id < c.host.heap.next, callsOn id ds = []
  /-- Exactly the instances that were made are owned in addition, in this order. -/
  owned : c'.owned = c.owned ++ more
  made : madeIn ds = more.map (·.2)
  /-- Those on the way to the step that failed are not complete. -/
  stuck : Stuck c c' ds e (.request true name) chain
  within : chain.Sublist more
  unfurnished : ∀ x ∈ chain, ¬ c'.Furnished ds x ∧ Deed.called x.2 doneHook (.ok ()) ∉ ds
  /-- All others are. -/
  furnished : ∀ x ∈ more, x ∉ chain → c'.Furnished ds x
  /-- Until a shutdown, requests find those on the way as they are. -/
  again : ∀ x ∈ chain, ∀ later, Lasts c' later →
    ∀ n, n = x.1 ∨ later.lookup n = none ∧ later.leadsTo n = .ok x.1 →
      (later.create n).1 = .ok x.2 ∧ Rests later (later.create n).2

/-- **What a failed request leaves behind.** -/
theorem create_failed {document : Document} (reached : Reached document c)
    (failed : (c.create name).1 = .error e) :
    ∃ ds more chain, Failed c name e ds (c.create name).2 more chain := by
  obtain ⟨others, held⟩ := reached.held
  have runs := runs_create c name
  rw [failed] at runs
  obtain ⟨ds, more, chain, told⟩ := runs.told reached.indexed held rfl
  have adds := told.adds
  have indexed := adds.goes.indexed reached.indexed
  have stuck := told.stuck e rfl
  have older : ∀ id < c.host.heap.next, callsOn id ds = [] := fun id older =>
    adds.spared List.not_mem_nil (.inl older)
  obtain ⟨es, follows, calls⟩ := adds.tends.does.journal
  refine ⟨ds, more, chain, adds.tends.does, ⟨es, follows.journal, calls⟩, ?_, older, adds.owned,
    adds.made, stuck, told.sublist, ?_, ?_, ?_⟩
  · intro x member
    obtain ⟨there, same⟩ := adds.tends.lasts x member
    exact ⟨indexed.lookup_iff.2 there, adds.tends.held.live x there, same,
      older x.2 (reached.indexed.fresh x member)⟩
  · exact fun x member => ⟨stuck.not_furnished x member, stuck.not_done x member⟩
  · exact fun x member off => (told.furnished x member).resolve_left off
  · intro x member later lasts n asks
    obtain ⟨indexed', kept⟩ := lasts.keeps indexed
    have owned : x ∈ (c.create name).2.owned :=
      adds.owned ▸ List.mem_append_right _ (told.sublist.subset member)
    exact create_of_live indexed' (kept.subset owned) asks

/-- An instance that refers to a sound one, and then to one whose hook fails. -/
def limping : Document where
  instances := [
    { name := "a", className := some "oracle::Link",
      properties := [{ name := some "next", reference := some "b" },
        { name := some "next", reference := some "c" }] },
    { name := "b", className := some "oracle::Link",
      properties := [{ name := some "label", text := some "sound" }] },
    { name := "c", className := some "oracle::Fail",
      properties := [{ name := some "done-mode", text := some "state" }] }]

theorem create_failed_limping :
    let start := (build Sample.host .empty limping {}).2
    let e := Error.illegalState "refusing to start"
    (start.create "a").1 = .error e ∧
      (start.create "a").2.owned = [("a", 0), ("b", 1), ("c", 2)] ∧
      ∃ ds more chain, Failed start "a" e ds (start.create "a").2 more chain := by
  have failed : ((build Sample.host .empty limping {}).2.create "a").1 =
      .error (Error.illegalState "refusing to start") := by decide +kernel
  exact ⟨failed, by decide +kernel, create_failed (.built Heap.fresh_empty .empty {}) failed⟩

end Wiring.Context
