/-
# Wiring.Proofs.Creation.Additions -- what comes to be owned, and what is called on the way

`Adds own c ds c' others more` says that by the deeds `ds` a context came to own the
instances `more`, made in this order, and that no instance was called but these and
those of `own`.  That keeps the calls of one instance apart from all others, when such
additions follow one another or lie inside one another (`Adds.trans`), so that what is
furnished stays so whatever is added later (`Furnished.append`).
-/
import Wiring.Proofs.Creation.Furnished

namespace Wiring.Context

set_option autoImplicit false

open Wiring.Component

variable {σ : Type} [Lifecycle σ]

/-! ## Additions -/

/-- By these deeds a context came to own these instances, and none but they and those of `own` were
called. -/
structure Adds (own : List ObjectId) (c : Context σ) (ds : List Deed) (c' : Context σ)
    (others : List ObjectId) (more : List (String × ObjectId)) : Prop where
  goes : Goes c c'
  tends : Tends c ds c' others
  owned : c'.owned = c.owned ++ more
  made : madeIn ds = more.map (·.2)
  called : ∀ d ∈ ds, ∀ x, d.callee = some x →
    x ∈ own ∨ c.host.heap.next ≤ x ∧ x < c'.host.heap.next

variable {own own' others left : List ObjectId} {a b c c' c₁ : Context σ} {ds es : List Deed}
  {more rest : List (String × ObjectId)} {x : String × ObjectId}

namespace Adds

/-- Steps on the host alone, which call one's own instances at most. -/
theorem of_only (only : OnlyHost c c') (tends : Tends c ds c' others) (made : madeIn ds = [])
    (called : ∀ d ∈ ds, ∀ x, d.callee = some x → x ∈ own) :
    Adds own c ds c' others [] := by
  obtain ⟨es, follows, _⟩ := tends.does.journal
  refine ⟨.passes ⟨only, follows⟩, tends, by rw [only.owned, List.append_nil], made, ?_⟩
  exact fun d member x callee => .inl (called d member x callee)

theorem idle (only : OnlyHost c c') (tends : Tends c [] c' others) : Adds own c [] c' others [] :=
  of_only only tends rfl (by simp)

theorem refl (held : Held c others) : Adds own c [] c others [] := idle (.refl c) held.tends

/-- A step that injects into one's own instance or calls its hook. -/
theorem serve {id : ObjectId} {d : Deed} (callee : d.callee = some id)
    (proceeds : Proceeds c [d] c') (held : Held c others) : Adds [id] c [d] c' others [] := by
  refine of_only proceeds.only (proceeds.tends held) ?_ ?_
  · cases d with
    | made id => simp [Deed.callee] at callee
    | _ => rfl
  · intro d' member x callee'
    rw [List.mem_singleton.1 member, callee] at callee'
    cases callee'
    exact List.mem_singleton_self _

/-- New instances are newer than all objects before. -/
theorem newer (adds : Adds own c ds c' others more) (member : x ∈ more) :
    c.host.heap.next ≤ x.2 := by
  obtain ⟨all, owned, newer⟩ := adds.goes.extended.owned
  rw [adds.owned] at owned
  exact newer x (List.append_cancel_left owned ▸ member)

/-- So they are none that was there before. -/
theorem other (adds : Adds own c ds c' others more) {id : ObjectId}
    (ready : id < c.host.heap.next) (member : x ∈ more) : x.2 ∉ [id] := by
  intro same
  have newer := adds.newer member
  rw [List.mem_singleton.1 same] at newer
  exact Nat.lt_irrefl _ (Nat.lt_of_lt_of_le ready newer)

/-- Neither older nor newer instances are called. -/
theorem spared (adds : Adds own c ds c' others more) {id : ObjectId} (other : id ∉ own)
    (apart : id < c.host.heap.next ∨ c'.host.heap.next ≤ id) : callsOn id ds = [] := by
  apply callsOn_eq_nil
  intro d member callee
  rcases adds.called d member id callee with mine | ⟨low, high⟩
  · exact other mine
  · rcases apart with older | newer
    · exact Nat.lt_irrefl _ (Nat.lt_of_lt_of_le older low)
    · exact Nat.lt_irrefl _ (Nat.lt_of_lt_of_le high newer)

/-- **One addition after another.**  What is one's own in the second is so in both, or is new. -/
theorem trans (first : Adds own a ds b left more) (second : Adds own' b es c others rest)
    (within : ∀ x ∈ own', x ∈ own ∨ a.host.heap.next ≤ x ∧ x < c.host.heap.next) :
    Adds own a (ds ++ es) c others (more ++ rest) := by
  have next := first.goes.extended.next
  have next' := second.goes.extended.next
  refine ⟨first.goes.trans second.goes, first.tends.trans second.tends, ?_, ?_, ?_⟩
  · rw [second.owned, first.owned, List.append_assoc]
  · rw [madeIn_append, first.made, second.made, List.map_append]
  · intro d member x callee
    rcases List.mem_append.1 member with member | member
    · rcases first.called d member x callee with mine | ⟨low, high⟩
      · exact .inl mine
      · exact .inr ⟨low, Nat.lt_of_lt_of_le high next'⟩
    · rcases second.called d member x callee with mine | ⟨low, high⟩
      · exact within x mine
      · exact .inr ⟨Nat.le_trans next low, high⟩

/-- One addition after another, with the same of one's own. -/
theorem andThen (first : Adds own a ds b left more) (second : Adds own b es c others rest) :
    Adds own a (ds ++ es) c others (more ++ rest) :=
  first.trans second fun _ mine => .inl mine

/-- An addition, and then steps that add nothing. -/
theorem andIdle (first : Adds own a ds b left more) (second : Adds own b es c others []) :
    Adds own a (ds ++ es) c others more := by
  rw [← List.append_nil more]
  exact first.andThen second

/-- An addition, and then steps that call nothing. -/
theorem proceeds (first : Adds own a ds b others more) (after : Proceeds b [] c) :
    Adds own a ds c others more := by
  rw [← List.append_nil ds]
  exact first.andIdle (.idle after.only (after.tends first.tends.held))

/-- What is one's own may be more. -/
theorem widen (adds : Adds [] c ds c' others more) : Adds own c ds c' others more :=
  ⟨adds.goes, adds.tends, adds.owned, adds.made, fun d member x callee =>
    .inr ((adds.called d member x callee).resolve_left (List.not_mem_nil))⟩

/-- A kept instance that is about to be filled. -/
theorem begun {name target : String} {id : ObjectId} (held : Held c others)
    (wants : Wants c name target) (built : (c.noted name).instantiate target = (.ok id, c₁)) :
    Adds [] c [.made id] (c₁.begun true target id) (id :: others) [(target, id)] := by
  obtain ⟨⟨_, _, passes⟩, _⟩ := silent_of_built built
  refine ⟨.single (.begins wants built), tends_begun true held built, ?_, rfl, ?_⟩
  · show c₁.owned ++ [(target, id)] = _
    rw [passes.only.owned]
  · intro d member x callee
    rw [List.mem_singleton.1 member] at callee
    simp [Deed.callee] at callee

end Adds

/-! ## Furnished instances stay furnished -/

omit [Lifecycle σ] in
theorem Furnished.prepend (furnished : c.Furnished es x) (spared : callsOn x.2 ds = []) :
    c.Furnished (ds ++ es) x := by
  obtain ⟨calls, sets, all⟩ := furnished
  exact ⟨calls, sets, by rw [callsOn_append, spared, all, List.nil_append]⟩

/-- What is furnished stays so, as long as it is not called. -/
theorem Furnished.lasts (furnished : b.Furnished ds x) (indexed : Indexed b) (owned : x ∈ b.owned)
    (goes : Goes b c) (tends : Tends b es c others) : c.Furnished ds x := by
  obtain ⟨calls, sets, all⟩ := furnished
  have grown := goes.extended
  refine ⟨calls, ?_, ?_⟩
  · rw [grown.properties]
    exact sets.mono (grown.upholds indexed (goes.indexed indexed))
  · rw [all]
    unfold finale
    rw [tends.hasHook owned]

omit [Lifecycle σ] in
theorem Furnished.extend (furnished : c.Furnished ds x) (spared : callsOn x.2 es = []) :
    c.Furnished (ds ++ es) x := by
  obtain ⟨calls, sets, all⟩ := furnished
  exact ⟨calls, sets, by rw [callsOn_append, spared, all, List.append_nil]⟩

theorem Furnished.append (furnished : b.Furnished ds x) (indexed : Indexed b)
    (owned : x ∈ b.owned) (other : x.2 ∉ own) (second : Adds own b es c others more) :
    c.Furnished (ds ++ es) x :=
  (furnished.lasts indexed owned second.goes second.tends).extend
    (second.spared other (.inl (indexed.fresh x owned)))

theorem Furnished.proceeds (furnished : b.Furnished ds x) (indexed : Indexed b)
    (held : Held b others) (owned : x ∈ b.owned) (after : Proceeds b [] c) :
    c.Furnished ds x := by
  have idle : Adds [] b [] c others [] := .idle after.only (after.tends held)
  rw [← List.append_nil ds]
  exact furnished.append indexed owned List.not_mem_nil idle

end Wiring.Context
