import GenKill.Proofs.FactSet
import GenKill.System

/-!
# Systems whose values lie in their universe

The operations on systems keep every gen, kill and out set inside the universe
of the system.  Such a system is well formed, and its sets can be combined
without a fault.
-/

namespace GenKill

theorem Graph.site_inj {graph : Graph} {left right : Nat} :
    graph.site left = graph.site right ↔ left = right := by
  constructor
  · intro heq
    exact congrArg Site.index heq
  · intro heq
    rw [heq]

/-- Setting a value at a node changes what is read there, and nowhere else. -/
theorem Property.get_set (property : Property) (site other : Site)
    (value : FactSet) :
    (property.set site value).get other =
      if site = other then value else property.get other := by
  rw [get, set, Table.get?_insert]
  by_cases heq : site = other
  · rw [if_pos heq, if_pos heq, Option.getD_some]
  · rw [if_neg heq, if_neg heq, get]

/-- A property whose default and values all belong to a universe. -/
def Property.Within (facts : Universe) (property : Property) : Prop :=
  property.default.facts = some facts ∧
    ∀ site, (property.get site).facts = some facts

namespace Property.Within

variable {facts : Universe} {property : Property}

theorem of_default {name : Text} {default : FactSet}
    (hdefault : default.facts = some facts) : Within facts { name, default } :=
  ⟨hdefault, fun _ => hdefault⟩

theorem set (hwithin : Within facts property) (site : Site) {value : FactSet}
    (hvalue : value.facts = some facts) :
    Within facts (property.set site value) := by
  refine ⟨hwithin.1, fun other => ?_⟩
  rw [get_set]
  split
  · exact hvalue
  · exact hwithin.2 other

theorem clear (hwithin : Within facts property) : Within facts property.clear :=
  ⟨hwithin.1, fun _ => hwithin.1⟩

end Property.Within

/-- A set that passes the check belongs to the universe once it is adopted. -/
theorem Universe.facts_adopt {facts : Universe} {set : FactSet}
    (hcheck : facts.check set = .ok ()) :
    (facts.adopt set).facts = some facts := by
  simp only [Universe.check] at hcheck
  split at hcheck
  · rename_i hfacts
    rw [Universe.adopt]
    split
    · rfl
    · exact hfacts.resolve_left ‹_›
  · simp at hcheck

/-- The set of no universe stays empty when a universe takes it over. -/
theorem Universe.contains_adopt (facts : Universe) (set : FactSet)
    (element : Text) :
    (facts.adopt set).contains element = set.contains element := by
  rw [Universe.adopt]
  split
  · rename_i hnone
    rw [FactSet.contains_empty, FactSet.contains_of_facts_none hnone]
  · rfl

theorem Universe.check_of_facts {facts : Universe} {set : FactSet}
    (hfacts : set.facts = some facts) : facts.check set = .ok () :=
  if_pos (.inr hfacts)

theorem Universe.adopt_of_facts {facts : Universe} {set : FactSet}
    (hfacts : set.facts = some facts) : facts.adopt set = set :=
  if_neg (by simp [hfacts])

namespace System

/-- Every gen, kill and out set belongs to the universe of the system. -/
structure WellFormed (system : System) : Prop where
  gen : system.gen.Within system.facts
  kill : system.kill.Within system.facts
  out : system.out.Within system.facts

/-- No out value was set at a node of the graph. -/
def Untouched (system : System) (graph : Graph) : Prop :=
  ∀ index < graph.size, system.out.values.get? (graph.site index) = none

theorem Untouched.get_out {system : System} {graph : Graph}
    (huntouched : system.Untouched graph) {index : Nat}
    (hindex : index < graph.size) :
    system.out.get (graph.site index) = system.out.default := by
  rw [Property.get, huntouched index hindex, Option.getD_none]

/-! ### Operations keep systems well formed -/

section Operations

variable {system next : System}

/-- A new system has no definitions, and its initial value was checked. -/
theorem system_eq {facts : Universe} {initial : FactSet}
    (hsystem : facts.system initial = .ok system) :
    facts.check initial = .ok () ∧
      system =
        { facts
          gen := { name := "gen", default := facts.empty }
          kill := { name := "kill", default := facts.empty }
          out := { name := "out", default := facts.adopt initial } } := by
  simp only [Universe.system] at hsystem
  split at hsystem
  · simp at hsystem
  · rename_i hcheck
    simp only [Except.ok.injEq] at hsystem
    exact ⟨hcheck, hsystem.symm⟩

/-- A definition records a set of the universe, at its node and in its role. -/
theorem define_eq {role : Role} {site : Site} {elements : List Text}
    (hdefine : system.define role site elements = .ok next) :
    ∃ value,
      value.facts = some system.facts ∧
        next = system.withSet site value role := by
  simp only [define] at hdefine
  split at hdefine
  · simp at hdefine
  · rename_i value hvalue
    simp only [Except.ok.injEq] at hdefine
    exact ⟨value, Universe.facts_of_set hvalue, hdefine.symm⟩

/-- An out set that is accepted is adopted by the universe and recorded. -/
theorem setOut_eq {site : Site} {value : FactSet}
    (hset : system.setOut site value = .ok next) :
    (system.facts.adopt value).facts = some system.facts ∧
      next = { system with
        out := system.out.set site (system.facts.adopt value) } := by
  simp only [setOut] at hset
  split at hset
  · simp at hset
  · rename_i hcheck
    simp only [Except.ok.injEq] at hset
    exact ⟨Universe.facts_adopt hcheck, hset.symm⟩

theorem setOut_of_facts (system : System) (site : Site) {value : FactSet}
    (hvalue : value.facts = some system.facts) :
    system.setOut site value =
      .ok { system with out := system.out.set site value } := by
  rw [setOut, Universe.check_of_facts hvalue, Universe.adopt_of_facts hvalue]

namespace WellFormed

theorem new {facts : Universe} {initial : FactSet}
    (hsystem : facts.system initial = .ok system) : system.WellFormed := by
  obtain ⟨hcheck, rfl⟩ := system_eq hsystem
  exact ⟨.of_default rfl, .of_default rfl,
    .of_default (Universe.facts_adopt hcheck)⟩

/-- Definitions that are accepted leave a well-formed system. -/
theorem define (hwell : system.WellFormed) {role : Role} {site : Site}
    {elements : List Text}
    (hdefine : system.define role site elements = .ok next) :
    next.WellFormed := by
  obtain ⟨value, hvalue, rfl⟩ := define_eq hdefine
  cases role with
  | gen => exact ⟨hwell.gen.set site hvalue, hwell.kill, hwell.out⟩
  | kill => exact ⟨hwell.gen, hwell.kill.set site hvalue, hwell.out⟩

theorem setOut (hwell : system.WellFormed) {site : Site} {value : FactSet}
    (hset : system.setOut site value = .ok next) : next.WellFormed := by
  obtain ⟨hvalue, rfl⟩ := setOut_eq hset
  exact ⟨hwell.gen, hwell.kill, hwell.out.set site hvalue⟩

theorem reset (hwell : system.WellFormed) : system.reset.WellFormed :=
  ⟨hwell.gen, hwell.kill, hwell.out.clear⟩

end WellFormed

end Operations

end System

end GenKill
