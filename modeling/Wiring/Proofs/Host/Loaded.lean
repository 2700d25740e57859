/-
# Wiring.Proofs.Host.Loaded -- what a library that is reported as loaded has published

A library counts as loaded from the moment that its entry point has run, and from then
on each call to load it succeeds at once.  The entry point may have failed, though, or
its classes may have been refused: the library stays loaded even then, since what it
staged may be in use.  So what a call that succeeds promises was decided when the entry
point ran.

`History` is any course of a program in which the calls to load a library are on
record, `Attempt.Ran` says of such a call that it ran an entry point, and `Shows` what
of the staged registrations is to be found in a registry later, by the answer of the
call that ran it.  The main result is `load_ok_ran_once`: whenever a call succeeds,
exactly one call on record ran an entry point under that name, and the registries show
it; they show everything staged if that call succeeded itself.
-/
import Wiring.Proofs.Host.Registered
import Wiring.Proofs.Registry.WriteOnce
import Wiring.Samples.Platform

namespace Wiring

set_option autoImplicit false

open Wiring.Component

variable {σ : Type}

/-! ## What is published -/

namespace Registry

/-- Everything staged is registered: each class for the type that it was staged for, and each edge. -/
structure Published (staged r : Registry σ) : Prop where
  classes : ∀ e ∈ staged.factories, r.factories.Binds e
  edges : staged.casts ⊆ r.casts

/-- What is to be found in a registry of the run of an entry point, by its status and by the answer
of the call that ran it: everything staged if the call succeeded, and if the entry point did but the
call was refused all edges, and the classes before one that is bound to another type. -/
structure Shows (r : Registry σ) (status : EntryStatus) (staged : Registry σ)
    (outcome : Except Error Unit) : Prop where
  published : outcome = .ok () → status = .ok ∧ Published staged r
  edges : status = .ok → staged.casts ⊆ r.casts
  refused : ∀ e, outcome = .error e → status = .ok → ∃ className f g,
    (className, f) ∈ staged.factories ∧ r.factories.get? className = some g ∧
      g.typeName ≠ f.typeName ∧ e = .duplicateFactory className g.typeName ∧
      ∀ x ∈ staged.factories, x.1 < className → r.factories.Binds x

theorem Shows.mono {r r' staged : Registry σ} {status : EntryStatus} {outcome : Except Error Unit}
    (shows : Shows r status staged outcome) (grows : Grows r r') :
    Shows r' status staged outcome where
  published succeeded := by
    obtain ⟨ok, classes, edges⟩ := shows.published succeeded
    exact ⟨ok, fun e member => (classes e member).mono grows.factories,
      List.Subset.trans edges grows.casts⟩
  edges ok := List.Subset.trans (shows.edges ok) grows.casts
  refused e failed ok := by
    obtain ⟨className, f, g, member, bound, differs, same, lesser⟩ := shows.refused e failed ok
    exact ⟨className, f, g, member, grows.factories.get? bound, differs, same,
      fun x there less => (lesser x there less).mono grows.factories⟩

/-- Publishing shows what is staged. -/
theorem shows_publish (r staged : Registry σ) :
    Shows (r.publish staged).value.2 .ok staged ((r.publish staged).value.1.map fun _ => ()) := by
  have edges : staged.casts ⊆ (r.publish staged).value.2.casts := fun _ member =>
    Casts.mem_registerAll.2 (.inr member)
  have value : (r.publish staged).value.1 =
      (r.factories.registerAll staged.factories.inOrder).value.1.map
        fun _ => staged.factories.length := rfl
  rcases Factories.registerAll_verdict r.factories staged.factories.inOrder with
    ⟨accepted, all⟩ | ⟨before, e, after, g, split, all, bound, differs, refused⟩
  · refine ⟨fun _ => ⟨rfl, fun e member => all e (List.mem_mergeSort.2 member), edges⟩,
      fun _ => edges, ?_⟩
    intro e failed
    rw [value, accepted] at failed
    cases failed
  · have member : e ∈ staged.factories.inOrder := by
      rw [split]
      exact List.mem_append_right _ List.mem_cons_self
    refine ⟨?_, fun _ => edges, ?_⟩
    · intro succeeded
      rw [value, refused] at succeeded
      cases succeeded
    · intro e' failed _
      rw [value, refused] at failed
      cases failed
      exact ⟨e.1, e.2, g, List.mem_mergeSort.1 member, bound, differs, rfl,
        fun x there lesser => all x (Factories.mem_of_lt split there lesser)⟩

end Registry

/-! ## One call -/

/-- A library is the first that can be opened under its name in the directories of a search path. -/
def Program.Finds (p : Program σ) (paths : List String) (name : String) (l : Library σ) : Prop :=
  ∃ failing dir rest, paths = failing ++ dir :: rest ∧
    (∀ d ∈ failing, ∃ text, p.openLibrary (Library.join d (Library.fileName name)) = .error text) ∧
    p.openLibrary (Library.join dir (Library.fileName name)) = .ok l

namespace Program

variable {p : Program σ} {dir name : String} {l l' : Library σ}

theorem not_finds_nil : ¬ p.Finds [] name l := by
  rintro ⟨failing, dir, rest, split, -⟩
  simp at split

theorem finds_cons_of_ok {dirs : List String}
    (opened : p.openLibrary (Library.join dir (Library.fileName name)) = .ok l') :
    p.Finds (dir :: dirs) name l ↔ l = l' := by
  constructor
  · rintro ⟨failing, d, rest, split, all, there⟩
    rcases List.cons_eq_append_iff.1 split with ⟨rfl, same⟩ | ⟨failing', rfl, -⟩
    · cases same
      exact Except.ok.inj (there.symm.trans opened)
    · obtain ⟨text, failed⟩ := all dir List.mem_cons_self
      exact absurd (opened.symm.trans failed) (by simp)
  · rintro rfl
    exact ⟨[], dir, dirs, rfl, fun _ member => absurd member List.not_mem_nil, opened⟩

theorem finds_cons_of_error {dirs : List String} {text : String}
    (failed : p.openLibrary (Library.join dir (Library.fileName name)) = .error text) :
    p.Finds (dir :: dirs) name l ↔ p.Finds dirs name l := by
  constructor
  · rintro ⟨failing, d, rest, split, all, there⟩
    rcases List.cons_eq_append_iff.1 split with ⟨rfl, same⟩ | ⟨failing', rfl, same⟩
    · cases same
      exact absurd (failed.symm.trans there) (by simp)
    · exact ⟨failing', d, rest, same, fun d member => all d (List.mem_cons_of_mem _ member), there⟩
  · rintro ⟨failing, d, rest, rfl, all, there⟩
    refine ⟨dir :: failing, d, rest, rfl, ?_, there⟩
    intro d member
    rcases List.mem_cons.1 member with rfl | later
    · exact ⟨text, failed⟩
    · exact all d later

theorem Finds.unique {paths : List String} (found : p.Finds paths name l)
    (found' : p.Finds paths name l') : l = l' := by
  induction paths with
  | nil => exact absurd found not_finds_nil
  | cons dir dirs ih =>
      cases opened : p.openLibrary (Library.join dir (Library.fileName name)) with
      | ok l₀ => exact ((finds_cons_of_ok opened).1 found).trans ((finds_cons_of_ok opened).1 found').symm
      | error text =>
          exact ih ((finds_cons_of_error opened).1 found) ((finds_cons_of_error opened).1 found')

end Program

namespace Host

/-- A search finds nothing and changes nothing, or runs the entry point of what it found. -/
theorem search_cases (h : Host σ) (name : String) (failures dirs : List String) :
    ((∀ l, ¬ h.program.Finds dirs name l) ∧
        ∃ texts, h.search name failures dirs = (.error (.libraryLoad name texts), h)) ∨
      ∃ l rs, h.program.Finds dirs name l ∧
        h.search name failures dirs = (h.record rs).adopt name l := by
  induction dirs generalizing failures with
  | nil => exact .inl ⟨fun l => Program.not_finds_nil, failures, rfl⟩
  | cons dir dirs ih =>
      rw [search]
      cases opened : h.program.openLibrary (Library.join dir (Library.fileName name)) with
      | ok l => exact .inr ⟨l, _, (Program.finds_cons_of_ok opened).2 rfl, rfl⟩
      | error text =>
          simp only [Program.finds_cons_of_error opened]
          exact ih _

theorem load_again {h : Host σ} {name : String} (loaded : name ∈ h.loaded) (paths : List String) :
    h.load paths name = (.ok (), h) := if_pos (List.contains_iff_mem.2 loaded)

/-- A library that is not loaded yet is searched for, an empty search path being one more reason not
to find it. -/
theorem load_cases {h : Host σ} {name : String} (fresh : name ∉ h.loaded) (paths : List String) :
    ((∀ l, ¬ h.program.Finds paths name l) ∧
        ∃ texts, h.load paths name = (.error (.libraryLoad name texts), h)) ∨
      ∃ l rs, h.program.Finds paths name l ∧
        h.load paths name = (h.record rs).adopt name l := by
  have new : ¬ h.loaded.contains name = true := mt List.contains_iff_mem.1 fresh
  unfold load
  rw [if_neg new]
  cases paths with
  | nil => exact .inl ⟨fun l => Program.not_finds_nil, _, rfl⟩
  | cons dir dirs => exact search_cases h name [] (dir :: dirs)

/-- A library is loaded, and what its entry point staged is published. -/
theorem adopt_of_ok {h : Host σ} {name : String} {l : Library σ} {staged : Registry σ}
    (fresh : name ∉ h.loaded) (entry : l.entry = .ok (.ok, staged)) :
    (h.adopt name l).1 = ((h.registry.publish staged).value.1.map fun _ => ()) ∧
      (h.adopt name l).2.loaded = h.loaded ++ [name] ∧
      (h.adopt name l).2.registry = (h.registry.publish staged).value.2 := by
  unfold adopt
  rw [entry]
  exact ⟨rfl, if_neg (mt List.contains_iff_mem.1 fresh), rfl⟩

/-- A library is loaded, though its entry point did not succeed. -/
theorem adopt_of_not_ok {h : Host σ} {name : String} {l : Library σ} {status : EntryStatus}
    {staged : Registry σ} (fresh : name ∉ h.loaded) (entry : l.entry = .ok (status, staged))
    (bad : status ≠ .ok) :
    (h.adopt name l).1 =
        .error (.libraryLoad name [s!"component entry failed with status {status.word}"]) ∧
      (h.adopt name l).2.loaded = h.loaded ++ [name] ∧
      (h.adopt name l).2.registry = h.registry := by
  unfold adopt
  rw [entry]
  cases status with
  | ok => exact absurd rfl bad
  | failed => exact ⟨rfl, if_neg (mt List.contains_iff_mem.1 fresh), rfl⟩
  | incompatible => exact ⟨rfl, if_neg (mt List.contains_iff_mem.1 fresh), rfl⟩

/-- How a program comes out of running an entry point: the library is loaded, and its run shows in
the registry; unless its status is `ok` nothing was registered and the answer is an error. -/
structure Adopts (h h' : Host σ) (name : String) (status : EntryStatus) (staged : Registry σ)
    (outcome : Except Error Unit) : Prop where
  loaded : h'.loaded = h.loaded ++ [name]
  grows : h.registry.Grows h'.registry
  shows : h'.registry.Shows status staged outcome
  failed : status ≠ .ok →
    outcome = .error (.libraryLoad name [s!"component entry failed with status {status.word}"]) ∧
      h'.registry = h.registry

theorem adopts_adopt {h : Host σ} {name : String} {l : Library σ} {status : EntryStatus}
    {staged : Registry σ} (fresh : name ∉ h.loaded) (entry : l.entry = .ok (status, staged)) :
    Adopts h (h.adopt name l).2 name status staged (h.adopt name l).1 := by
  by_cases ok : status = .ok
  · rw [ok] at entry ⊢
    obtain ⟨outcome, loaded, registry⟩ := adopt_of_ok fresh entry
    refine ⟨loaded, ?_, ?_, fun bad => absurd rfl bad⟩
    · rw [registry]
      exact h.registry.grows_publish staged
    · rw [registry, outcome]
      exact h.registry.shows_publish staged
  · obtain ⟨outcome, loaded, registry⟩ := adopt_of_not_ok fresh entry ok
    refine ⟨loaded, .of_eq registry, ?_, fun _ => ⟨outcome, registry⟩⟩
    refine ⟨fun succeeded => ?_, fun good => absurd good ok, fun _ _ good => absurd good ok⟩
    exact absurd (outcome.symm.trans succeeded) (by simp)

/-! ## Calls -/

/-- A call to load a library: the program before, the search path and the name. -/
structure Attempt (σ : Type) where
  before : Host σ
  paths : List String
  name : String

namespace Attempt

def outcome (a : Attempt σ) : Except Error Unit := (a.before.load a.paths a.name).1

def after (a : Attempt σ) : Host σ := (a.before.load a.paths a.name).2

/-- The call ran the entry point of a library, which had this status and this to register. -/
structure Ran (a : Attempt σ) (status : EntryStatus) (staged : Registry σ) : Prop where
  fresh : a.name ∉ a.before.loaded
  found : ∃ l, a.before.program.Finds a.paths a.name l ∧ l.entry = .ok (status, staged)

/-- The call ran no entry point. -/
def Idle (a : Attempt σ) : Prop := ∀ status staged, ¬ a.Ran status staged

/-- **What a call does**: nothing if the library is loaded already, nothing but to fail if there is
no entry point to be found, and otherwise to run one. -/
theorem cases (a : Attempt σ) :
    (a.name ∈ a.before.loaded ∧ a.outcome = .ok () ∧ a.after = a.before ∧ a.Idle) ∨
    ((∃ e, a.outcome = .error e) ∧ a.after.loaded = a.before.loaded ∧
        a.after.registry = a.before.registry ∧ a.Idle) ∨
    ∃ status staged, a.Ran status staged ∧
      Adopts a.before a.after a.name status staged a.outcome := by
  obtain ⟨h, paths, name⟩ := a
  unfold outcome after
  by_cases known : name ∈ h.loaded
  · have value := load_again known paths
    exact .inl ⟨known, by rw [value], by rw [value], fun _ _ ran => ran.fresh known⟩
  · refine .inr ?_
    rcases load_cases known paths with ⟨nowhere, texts, value⟩ | ⟨l, rs, found, value⟩
    · rw [value]
      refine .inl ⟨⟨_, rfl⟩, rfl, rfl, fun _ _ ran => ?_⟩
      obtain ⟨l, found, -⟩ := ran.found
      exact nowhere l found
    · rw [value]
      cases entry : l.entry with
      | error text =>
          unfold adopt
          rw [entry]
          refine .inl ⟨⟨_, rfl⟩, rfl, rfl, fun _ _ ran => ?_⟩
          obtain ⟨l', found', entry'⟩ := ran.found
          rw [found'.unique found, entry] at entry'
          cases entry'
      | ok run =>
          obtain ⟨status, staged⟩ := run
          have adopts := adopts_adopt (h := h.record rs) known entry
          exact .inr ⟨status, staged, ⟨known, l, found, entry⟩,
            ⟨adopts.loaded, adopts.grows, adopts.shows, adopts.failed⟩⟩

theorem grows (a : Attempt σ) : a.before.registry.Grows a.after.registry := by
  rcases a.cases with ⟨-, -, after, -⟩ | ⟨-, -, registry, -⟩ | ⟨status, staged, -, adopts⟩
  · exact .of_eq (congrArg Host.registry after)
  · exact .of_eq registry
  · exact adopts.grows

end Attempt

/-! ## Calls on record -/

/-- Exactly one of the calls on record ran an entry point under a name, and a registry shows it. -/
def RanOnce (log : List (Attempt σ)) (name : String) (r : Registry σ) : Prop :=
  ∃ before a after status staged, log = before ++ a :: after ∧ a.name = name ∧
    (∀ b ∈ before ++ after, b.name = name → b.Idle) ∧
    a.Ran status staged ∧ r.Shows status staged a.outcome ∧
    (status ≠ .ok →
      a.outcome = .error (.libraryLoad name [s!"component entry failed with status {status.word}"]) ∧
        a.after.registry = a.before.registry)

namespace RanOnce

variable {log : List (Attempt σ)} {name : String} {r r' : Registry σ}

theorem mono (once : RanOnce log name r) (grows : r.Grows r') : RanOnce log name r' := by
  obtain ⟨before, a, after, status, staged, split, named, idle, ran, shows, failed⟩ := once
  exact ⟨before, a, after, status, staged, split, named, idle, ran, shows.mono grows, failed⟩

theorem append (once : RanOnce log name r) {b : Attempt σ} (idle' : b.name = name → b.Idle) :
    RanOnce (log ++ [b]) name r := by
  obtain ⟨before, a, after, status, staged, rfl, named, idle, ran, shows, failed⟩ := once
  refine ⟨before, a, after ++ [b], status, staged, by simp, named, ?_, ran, shows, failed⟩
  intro c member
  rw [← List.append_assoc] at member
  rcases List.mem_append.1 member with old | new
  · exact idle c old
  · rw [List.mem_singleton.1 new]
    exact idle'

theorem last {a : Attempt σ} {status : EntryStatus} {staged : Registry σ}
    (idle : ∀ b ∈ log, b.name = a.name → b.Idle) (ran : a.Ran status staged)
    (adopts : Adopts a.before a.after a.name status staged a.outcome) :
    RanOnce (log ++ [a]) a.name a.after.registry :=
  ⟨log, a, [], status, staged, rfl, rfl, by simpa using idle, ran, adopts.shows, adopts.failed⟩

end RanOnce

/-- A record accounts for the loaded libraries: under the name of each an entry point ran, once, and
under no other name. -/
structure Accounts (log : List (Attempt σ)) (h : Host σ) : Prop where
  loaded : ∀ name ∈ h.loaded, RanOnce log name h.registry
  others : ∀ a ∈ log, a.name ∉ h.loaded → a.Idle

theorem Accounts.mono {log : List (Attempt σ)} {h h' : Host σ} (accounts : Accounts log h)
    (loaded : h'.loaded = h.loaded) (grows : h.registry.Grows h'.registry) : Accounts log h' where
  loaded name member := (accounts.loaded name (loaded ▸ member)).mono grows
  others a member unknown := accounts.others a member (loaded ▸ unknown)

theorem Accounts.idle {log : List (Attempt σ)} {a : Attempt σ} (accounts : Accounts log a.before)
    (idle : a.Idle) (loaded : a.after.loaded = a.before.loaded)
    (registry : a.after.registry = a.before.registry) : Accounts (log ++ [a]) a.after := by
  refine ⟨fun name member => ?_, fun b member unknown => ?_⟩
  · rw [loaded] at member
    rw [registry]
    exact (accounts.loaded name member).append fun _ => idle
  · rw [loaded] at unknown
    rcases List.mem_append.1 member with old | new
    · exact accounts.others b old unknown
    · rw [List.mem_singleton.1 new]
      exact idle

/-- A call to load a library keeps the record in order. -/
theorem Accounts.load {log : List (Attempt σ)} {a : Attempt σ} (accounts : Accounts log a.before) :
    Accounts (log ++ [a]) a.after := by
  rcases a.cases with ⟨-, -, after, idle⟩ | ⟨-, loaded, registry, idle⟩ |
    ⟨status, staged, ran, adopts⟩
  · exact accounts.idle idle (by rw [after]) (by rw [after])
  · exact accounts.idle idle loaded registry
  · have before : ∀ b ∈ log, b.name = a.name → b.Idle := fun b member named =>
      accounts.others b member (named ▸ ran.fresh)
    refine ⟨fun name member => ?_, fun b member unknown => ?_⟩
    · rw [adopts.loaded] at member
      rcases List.mem_append.1 member with old | new
      · have other : a.name ≠ name := fun same => ran.fresh (same ▸ old)
        exact ((accounts.loaded name old).append fun same => absurd same other).mono adopts.grows
      · rw [List.mem_singleton.1 new]
        exact RanOnce.last before ran adopts
    · rw [adopts.loaded, List.mem_append, not_or, List.mem_singleton] at unknown
      rcases List.mem_append.1 member with old | new
      · exact accounts.others b old unknown.1
      · exact absurd (congrArg Attempt.name (List.mem_singleton.1 new)) unknown.2

/-! ## Histories -/

section Steps

variable [Lifecycle σ]

/-- The registries only grow. -/
theorem Moves.grows {h h' : Host σ} {ds : List Deed} (moves : Moves h ds h') :
    h.registry.Grows h'.registry := by
  rcases moves.registry_cases with ⟨paths, name, rfl⟩ | rfl | ⟨-, registry, -⟩
  · exact Attempt.grows ⟨h, paths, name⟩
  · exact h.registry.grows_scan h.program.components
  · exact .of_eq registry

theorem Does.grows {h h' : Host σ} {ds : List Deed} (does : Does h ds h') :
    h.registry.Grows h'.registry := by
  induction does with
  | nothing h => exact .refl _
  | step moves rest ih => exact moves.grows.trans ih

/-- **A program scans its component types to an effect only once**: whatever it did since, scanning
them again has the same answer and leaves the registries as they are. -/
theorem scan_again {h h' : Host σ} {ds : List Deed} (does : Does h.scan.2 ds h') :
    h'.scan.1 = h.scan.1 ∧ h'.scan.2.registry = h'.registry := by
  have program : h'.program = h.program := does.registers.1
  have grows : (h.registry.scan h.program.components).value.2.Grows h'.registry := does.grows
  have again := Registry.scan_again h.program.components grows
  rw [← program] at again
  exact ⟨(congrArg Prod.fst again).trans (by rw [program]; rfl), congrArg Prod.snd again⟩

/-- A course of a program, with all calls to load a library on record.  Between them it takes steps
that load none, and what can be opened under which path may change. -/
inductive History (start : Host σ) : List (Attempt σ) → Host σ → Prop where
  | nothing : History start [] start
  | load {log : List (Attempt σ)} {h : Host σ} (past : History start log h) (paths : List String)
      (name : String) : History start (log ++ [⟨h, paths, name⟩]) (h.load paths name).2
  | step {log : List (Attempt σ)} {h h' : Host σ} {ds : List Deed} (past : History start log h)
      (moves : Moves h ds h') (none : h'.loaded = h.loaded) : History start log h'
  | reopen {log : List (Attempt σ)} {h : Host σ} (past : History start log h)
      (openLibrary : String → Except String (Library σ)) :
      History start log { h with program := { h.program with openLibrary } }

variable {start h : Host σ} {log : List (Attempt σ)}

theorem History.accounts (history : History start log h) (none : start.loaded = []) :
    Accounts log h := by
  induction history with
  | nothing =>
      refine ⟨fun name member => ?_, fun a member => absurd member List.not_mem_nil⟩
      rw [none] at member
      exact absurd member List.not_mem_nil
  | load past paths name ih => exact ih.load
  | step past moves none ih => exact ih.mono none moves.grows
  | reopen past openLibrary ih => exact ih.mono rfl (.refl _)

/-- Whatever a program does is such a history. -/
theorem History.does {h' : Host σ} {ds : List Deed} (past : History start log h)
    (does : Does h ds h') : ∃ log', History start log' h' := by
  induction does generalizing log with
  | nothing h => exact ⟨log, past⟩
  | @step h h₁ h' ds es moves rest ih =>
      rcases moves.registry_cases with ⟨paths, name, rfl⟩ | rfl | ⟨-, -, none⟩
      · exact ih (past.load paths name)
      · exact ih (past.step moves rfl)
      · exact ih (past.step moves none)

/-- **What it means that a library is loaded**: whenever a call to load it succeeds, exactly one call
on record, this one or one before it, ran an entry point under that name, and the registries show it
from then on.  They have everything that was staged if that call succeeded; if the entry point did
but the classes were refused, they have all edges, and a staged class is bound to another type. -/
theorem load_ok_ran_once (history : History start log h) (none : start.loaded = [])
    {paths : List String} {name : String} (succeeded : (h.load paths name).1 = .ok ()) :
    RanOnce (log ++ [⟨h, paths, name⟩]) name (h.load paths name).2.registry := by
  have accounts := (history.load paths name).accounts none
  refine accounts.loaded name ?_
  rcases Attempt.cases ⟨h, paths, name⟩ with ⟨known, -, after, -⟩ | ⟨⟨e, failed⟩, -⟩ |
    ⟨status, staged, -, adopts⟩
  · have same : (h.load paths name).2 = h := after
    rw [same]
    exact known
  · exact absurd (succeeded.symm.trans failed) (by simp)
  · have loaded : (h.load paths name).2.loaded = h.loaded ++ [name] := adopts.loaded
    rw [loaded]
    exact List.mem_append_right _ List.mem_cons_self

end Steps

/-! ## Two libraries -/

theorem load_eq_adopt {h : Host σ} {name : String} {l : Library σ} (fresh : name ∉ h.loaded)
    (dir : String) (dirs : List String)
    (opened : h.program.openLibrary (Library.join dir (Library.fileName name)) = .ok l) :
    ∃ rs, h.load (dir :: dirs) name = (h.record rs).adopt name l := by
  rcases load_cases fresh (dir :: dirs) with ⟨nowhere, -⟩ | ⟨l', rs, found, value⟩
  · exact absurd ((Program.finds_cons_of_ok opened).2 rfl) (nowhere l)
  · rw [(Program.finds_cons_of_ok opened).1 found] at value
    exact ⟨rs, value⟩

open Sample (plainType repeaterType clashTypes exporting opening)

/-- A program with one class that finds the same library under every path. -/
def finding (types : List (Component Sample)) : Host Sample :=
  (scan { program := ⟨[plainType], opening (exporting types)⟩ }).2

def ownFactory : Factory Sample := ⟨⟨plainType.className, plainType.typeName, []⟩, plainType.make⟩

/-- What a library has to register that has one class of its own. -/
def echo : Registry Sample := (({} : Registry Sample).scan [repeaterType]).value.2

theorem exporting_echo : (exporting [repeaterType]).entry = .ok (.ok, echo) := rfl

theorem load_echo : ((finding [repeaterType]).load ["lib"] "echo").1 = .ok () := by
  have fresh : "echo" ∉ (finding [repeaterType]).loaded := List.not_mem_nil
  obtain ⟨rs, value⟩ := load_eq_adopt fresh "lib" [] rfl
  obtain ⟨outcome, -⟩ := adopt_of_ok (h := (finding [repeaterType]).record rs) fresh exporting_echo
  have free : ∀ c, ¬ (finding [repeaterType]).registry.factories.Blocks echo.factories c := by
    rintro c ⟨f, staged, g, bound, -⟩
    have first : c = repeaterType.className := by
      have member := List.mem_map_of_mem (f := (·.1)) (Keyed.mem_of_lookup staged)
      simpa using (show c ∈ [repeaterType.className] from member)
    have second : c = plainType.className := by
      have member := List.mem_map_of_mem (f := (·.1)) (Keyed.mem_of_lookup bound)
      simpa using (show c ∈ [plainType.className] from member)
    exact absurd (first.symm.trans second) (by decide)
  rw [value, outcome]
  exact congrArg (Except.map fun _ => ()) (Factories.absorb_free (by decide +kernel) free).1

/-- What a library has to register that wants this class for a type of its own. -/
def clash : Registry Sample := (({} : Registry Sample).scan clashTypes).value.2

theorem exporting_clashTypes : (exporting clashTypes).entry = .ok (.ok, clash) := rfl

/-- That library is refused, and a class that comes after the program's gets no factory. -/
theorem load_clash :
    ((finding clashTypes).load ["lib"] "clash").1 =
        .error (.duplicateFactory "oracle::Plain" plainType.typeName) ∧
      ((finding clashTypes).load ["lib"] "clash").2.loaded = ["clash"] ∧
      ((finding clashTypes).load ["lib"] "clash").2.registry.factories.get? "zz::Last" = none := by
  have fresh : "clash" ∉ (finding clashTypes).loaded := List.not_mem_nil
  obtain ⟨rs, value⟩ := load_eq_adopt fresh "lib" [] rfl
  obtain ⟨outcome, loaded, registry⟩ :=
    adopt_of_ok (h := (finding clashTypes).record rs) fresh exporting_clashTypes
  have blocks : (finding clashTypes).registry.factories.Blocks clash.factories "oracle::Plain" :=
    ⟨_, rfl, ownFactory, rfl, by decide⟩
  obtain ⟨least, g, -, -, bound, refused, taken⟩ :=
    Factories.absorb_blocked (by decide +kernel) blocks
  obtain ⟨rfl, rfl⟩ : least = "oracle::Plain" ∧ g = ownFactory := by
    have member : (least, g) ∈ [("oracle::Plain", ownFactory)] := Keyed.mem_of_lookup bound
    simpa using member
  rw [value]
  refine ⟨?_, loaded, ?_⟩
  · rw [outcome]
    exact congrArg (Except.map fun _ => ()) refused
  · rw [registry]
    exact taken "zz::Last"

theorem load_ok_unpublished :
    let first := (finding clashTypes).load ["lib"] "clash"
    first.1 = .error (.duplicateFactory "oracle::Plain" plainType.typeName) ∧
      (first.2.load ["lib"] "clash").1 = .ok () ∧
      (exporting clashTypes).entry = .ok (.ok, clash) ∧
      "zz::Last" ∈ clash.factories.map (·.1) ∧
      ¬ clash.Published (first.2.load ["lib"] "clash").2.registry := by
  intro first
  obtain ⟨refused, loaded, unbound⟩ := load_clash
  have again : first.2.load ["lib"] "clash" = (.ok (), first.2) :=
    load_again (loaded ▸ List.mem_cons_self) ["lib"]
  have staged : "zz::Last" ∈ clash.factories.map (·.1) := by decide +kernel
  rw [again]
  refine ⟨refused, rfl, exporting_clashTypes, staged, fun published => ?_⟩
  obtain ⟨e, member, same⟩ := List.mem_map.1 staged
  obtain ⟨g, bound, -⟩ := published.classes e member
  rw [same] at bound
  exact absurd (unbound.symm.trans bound) (by simp)

theorem load_ok_ran_once_samples :
    let own := finding [repeaterType]
    let other := finding clashTypes
    let retried := (other.load ["lib"] "clash").2
    (own.load ["lib"] "echo").1 = .ok () ∧
      RanOnce [⟨own, ["lib"], "echo"⟩] "echo" (own.load ["lib"] "echo").2.registry ∧
      (retried.load [] "clash").1 = .ok () ∧
      RanOnce [⟨other, ["lib"], "clash"⟩, ⟨retried, [], "clash"⟩] "clash"
        (retried.load [] "clash").2.registry := by
  intro own other retried
  have again : (retried.load [] "clash").1 = .ok () := by
    rw [load_again (load_clash.2.1 ▸ List.mem_cons_self)]
  exact ⟨load_echo, load_ok_ran_once (.nothing : History own [] own) rfl load_echo, again,
    load_ok_ran_once ((.nothing : History other [] other).load ["lib"] "clash") rfl again⟩

end Host

end Wiring
