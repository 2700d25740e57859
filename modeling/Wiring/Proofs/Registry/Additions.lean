/-
# Wiring.Proofs.Registry.Additions -- registries only ever get more factories

A class that has a factory keeps it: whatever is registered later comes after it, and
look-ups find the first.  `Adds P` says so of two lists of factories, and of which kind
the new ones are: those of component types (`scan`) or those a library staged
(`publish`).  Cast edges are kept too, and several edges are registered as a whole
(`Casts.mem_registerAll`); `Registry.Grows` says both of two registries.
-/
import Wiring.Registry.Staging

namespace Wiring

set_option autoImplicit false

variable {σ : Type} {P : Factory σ → Prop}

namespace Factories

/-- Factories were added at the end, all of them such that `P`. -/
def Adds (P : Factory σ → Prop) (fs fs' : Factories σ) : Prop :=
  ∃ more, fs' = fs ++ more ∧ ∀ e ∈ more, P e.2

namespace Adds

variable {fs fs₁ fs₂ : Factories σ}

theorem refl (fs : Factories σ) : Adds P fs fs := ⟨[], (List.append_nil fs).symm, by simp⟩

theorem trans (first : Adds P fs fs₁) (second : Adds P fs₁ fs₂) : Adds P fs fs₂ := by
  obtain ⟨more, rfl, all⟩ := first
  obtain ⟨rest, rfl, all'⟩ := second
  refine ⟨more ++ rest, List.append_assoc .., ?_⟩
  intro e member
  exact (List.mem_append.1 member).elim (all e) (all' e)

theorem mono {Q : Factory σ → Prop} (adds : Adds P fs fs₁) (weaker : ∀ f, P f → Q f) :
    Adds Q fs fs₁ := by
  obtain ⟨more, same, all⟩ := adds
  exact ⟨more, same, fun e member => weaker e.2 (all e member)⟩

theorem forall_mem (adds : Adds P fs fs₁) (before : ∀ e ∈ fs, P e.2) : ∀ e ∈ fs₁, P e.2 := by
  obtain ⟨more, rfl, all⟩ := adds
  intro e member
  exact (List.mem_append.1 member).elim (before e) (all e)

/-- A class keeps its factory. -/
theorem get? (adds : Adds P fs fs₁) {className : String} {f : Factory σ}
    (found : fs.get? className = some f) : fs₁.get? className = some f := by
  obtain ⟨more, rfl, _⟩ := adds
  unfold Factories.get? at *
  rw [List.lookup_append, found]
  rfl

end Adds

theorem adds_register (fs : Factories σ) (className : String) {f : Factory σ} (good : P f) :
    Adds P fs (fs.register className f).value.2 := by
  unfold register
  split
  · exact ⟨[(className, f)], rfl, by simpa using good⟩
  · split
    · exact .refl fs
    · exact .refl fs

theorem value_registerAll_cons (fs : Factories σ) (className : String) (f : Factory σ)
    (rest : List (String × Factory σ)) :
    (fs.registerAll ((className, f) :: rest)).value =
      match (fs.register className f).value with
      | (.ok (), fs₁) => (fs₁.registerAll rest).value
      | (.error e, fs₁) => (.error e, fs₁) := by
  rw [registerAll]
  simp only [Logging.Logged.value_bind]
  rcases (fs.register className f).value with ⟨_ | _, fs₁⟩ <;> rfl

/-- What each registration keeps, several keep. -/
theorem registerAll_induction {I : Factories σ → Prop} {fs : Factories σ}
    {list : List (String × Factory σ)} (start : I fs)
    (step : ∀ fs, ∀ e ∈ list, I fs → I (fs.register e.1 e.2).value.2) :
    I (fs.registerAll list).value.2 := by
  induction list generalizing fs with
  | nil => exact start
  | cons e rest ih =>
      have first := step fs e List.mem_cons_self start
      rw [value_registerAll_cons]
      rcases registered : (fs.register e.1 e.2).value with ⟨failed | _, fs₁⟩
      · rwa [registered] at first
      · rw [registered] at first
        exact ih first fun fs e member => step fs e (List.mem_cons_of_mem _ member)

theorem adds_registerAll (fs : Factories σ) {list : List (String × Factory σ)}
    (good : ∀ e ∈ list, P e.2) : Adds P fs (fs.registerAll list).value.2 :=
  registerAll_induction (.refl fs) fun fs₁ e member adds =>
    adds.trans (adds_register fs₁ e.1 (good e member))

theorem adds_absorb (fs : Factories σ) {staged : Factories σ} (good : ∀ e ∈ staged, P e.2) :
    Adds P fs (fs.absorb staged).value.2 :=
  adds_registerAll fs fun e member => good e (List.mem_mergeSort.1 member)

end Factories

namespace Casts

theorem allows_iff {cs : Casts} {ancestor concrete : TypeName} :
    cs.allows ancestor concrete = true ↔ (⟨concrete, ancestor⟩ : CastEdge) ∈ cs := by
  unfold allows find?
  rw [List.find?_isSome]
  constructor
  · rintro ⟨e, member, same⟩
    obtain ⟨rfl, rfl⟩ : e.concrete = concrete ∧ e.ancestor = ancestor := by simpa using same
    exact member
  · intro member
    exact ⟨_, member, by simp⟩

theorem mem_register {cs : Casts} {e x : CastEdge} : x ∈ cs.register e ↔ x ∈ cs ∨ x = e := by
  unfold register
  split
  · next present =>
    have member : e ∈ cs := List.contains_iff_mem.1 present
    exact ⟨.inl, fun either => either.elim id fun same => same ▸ member⟩
  · rw [List.mem_append, List.mem_singleton]

theorem mem_registerAll {cs : Casts} {es : List CastEdge} {x : CastEdge} :
    x ∈ cs.registerAll es ↔ x ∈ cs ∨ x ∈ es := by
  induction es generalizing cs with
  | nil => simp [registerAll]
  | cons e rest ih =>
      show x ∈ (cs.register e).registerAll rest ↔ _
      rw [ih, mem_register, List.mem_cons, or_assoc]

/-- Edges that are registered already change nothing. -/
theorem registerAll_of_subset {cs : Casts} {es : List CastEdge} (known : es ⊆ cs) :
    cs.registerAll es = cs := by
  induction es with
  | nil => rfl
  | cons e rest ih =>
      have present : cs.contains e = true := List.contains_iff_mem.2 (known List.mem_cons_self)
      show (cs.register e).registerAll rest = cs
      unfold register
      rw [if_pos present]
      exact ih fun x member => known (List.mem_cons_of_mem _ member)

end Casts

namespace Registry

theorem value_scan_cons (r : Registry σ) (c : Component σ) (rest : List (Component σ)) :
    (r.scan (c :: rest)).value =
      match (r.register c).value with
      | (.ok (), r₁) => (r₁.scan rest).value
      | (.error e, r₁) => (.error e, r₁) := by
  rw [scan]
  simp only [Logging.Logged.value_bind]
  rcases (r.register c).value with ⟨_ | _, r₁⟩ <;> rfl

/-- What the registration of each component type keeps, a scan keeps. -/
theorem scan_induction {I : Registry σ → Prop} {r : Registry σ} {components : List (Component σ)}
    (start : I r) (step : ∀ r, ∀ c ∈ components, I r → I (r.register c).value.2) :
    I (r.scan components).value.2 := by
  induction components generalizing r with
  | nil => exact start
  | cons c rest ih =>
      have first := step r c List.mem_cons_self start
      rw [value_scan_cons]
      rcases registered : (r.register c).value with ⟨failed | _, r₁⟩
      · rwa [registered] at first
      · rw [registered] at first
        exact ih first fun r c member => step r c (List.mem_cons_of_mem _ member)

theorem adds_registerType (r : Registry σ) {c : Component σ} (good : ∀ f, c.factory = .ok f → P f) :
    Factories.Adds P r.factories (r.register c).value.2.factories := by
  unfold register
  cases made : c.factory with
  | error e => exact .refl _
  | ok f => exact Factories.adds_register _ _ (good f made)

theorem adds_scan {components : List (Component σ)} (r : Registry σ)
    (good : ∀ c ∈ components, ∀ f, c.factory = .ok f → P f) :
    Factories.Adds P r.factories (r.scan components).value.2.factories :=
  scan_induction (I := fun r' => Factories.Adds P r.factories r'.factories) (.refl _)
    fun r₁ c member adds => adds.trans (adds_registerType r₁ (good c member))

theorem casts_subset_register (r : Registry σ) (c : Component σ) :
    r.casts ⊆ (r.register c).value.2.casts := by
  unfold register
  cases c.factory with
  | error e => exact List.Subset.refl _
  | ok f => exact fun x member => Casts.mem_registerAll.2 (.inl member)

theorem casts_subset_scan (r : Registry σ) (components : List (Component σ)) :
    r.casts ⊆ (r.scan components).value.2.casts :=
  scan_induction (I := fun r' => r.casts ⊆ r'.casts) (List.Subset.refl _)
    fun r₁ c _ known => List.Subset.trans known (casts_subset_register r₁ c)

theorem adds_publish (r : Registry σ) {staged : Registry σ} (good : ∀ e ∈ staged.factories, P e.2) :
    Factories.Adds P r.factories (r.publish staged).value.2.factories :=
  Factories.adds_absorb r.factories good

/-- Classes and edges were added, none was taken away or bound anew. -/
structure Grows (r r' : Registry σ) : Prop where
  factories : Factories.Adds (fun _ => True) r.factories r'.factories
  casts : r.casts ⊆ r'.casts

namespace Grows

variable {r r₁ r₂ : Registry σ}

theorem refl (r : Registry σ) : Grows r r := ⟨.refl _, List.Subset.refl _⟩

theorem of_eq (same : r₁ = r) : Grows r r₁ := same ▸ refl r

theorem trans (first : Grows r r₁) (second : Grows r₁ r₂) : Grows r r₂ :=
  ⟨first.factories.trans second.factories, List.Subset.trans first.casts second.casts⟩

end Grows

theorem grows_scan (r : Registry σ) (components : List (Component σ)) :
    Grows r (r.scan components).value.2 :=
  ⟨adds_scan r fun _ _ _ _ => trivial, casts_subset_scan r components⟩

theorem grows_publish (r staged : Registry σ) : Grows r (r.publish staged).value.2 :=
  ⟨adds_publish r fun _ _ => trivial, fun _ member => Casts.mem_registerAll.2 (.inl member)⟩

end Registry

end Wiring
