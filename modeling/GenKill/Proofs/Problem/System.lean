import GenKill.Problem
import GenKill.Proofs.System

/-!
# The system of a problem

A problem has a system exactly if its elements can be listed and its nodes list
only elements of its universe.  The gen and kill sets of that system then have
the listed elements as members, and its out sets are the initial value.
-/

namespace GenKill

/-- The set of a universe that has the elements of a list as members. -/
structure FactSet.Lists (facts : Universe) (elements : List Text)
    (set : FactSet) : Prop where
  facts : set.facts = some facts
  contains : ∀ element, set.contains element = decide (element ∈ elements)

theorem Universe.lists_of_set {facts : Universe} {elements : List Text}
    {set : FactSet} (hset : facts.set elements = .ok set) :
    set.Lists facts elements :=
  ⟨facts_of_set hset, contains_of_set hset⟩

theorem Universe.lists_empty (facts : Universe) : facts.empty.Lists facts [] :=
  ⟨rfl, fun element => by rw [FactSet.contains_empty]; rfl⟩

theorem FactSet.Lists.elements_eq {facts : Universe} {elements : List Text}
    {set : FactSet} (hlists : set.Lists facts elements) :
    set.elements = facts.elements.filter fun element => element ∈ elements := by
  rw [elements_eq_filter hlists.facts]
  exact List.filter_congr fun element _ => hlists.contains element

theorem FactSet.Lists.mem_elements {facts : Universe} {elements : List Text}
    {set : FactSet} (hlists : set.Lists facts elements) (element : Text) :
    element ∈ set.elements ↔ element ∈ elements := by
  rw [mem_elements_iff hlists.facts, hlists.contains, decide_eq_true_iff]

namespace Problem

/-- The elements pass the check exactly if all of them can be listed. -/
theorem checkElements_eq_ok_iff (elements : List Text) :
    checkElements elements = .ok () ↔
      ∀ element ∈ elements, Elements.isListable element = true := by
  induction elements with
  | nil => simp [checkElements]
  | cons first rest ih =>
      rw [checkElements, List.forall_mem_cons]
      by_cases hfirst : Elements.isListable first = true
      · rw [if_pos hfirst, ih, and_iff_right hfirst]
      · rw [if_neg hfirst]
        simp [hfirst]

/-- The elements that a problem lists for a node; none if it says nothing about
the node. -/
def listAt (lists : Table Site (List Text)) (site : Site) : List Text :=
  (lists.get? site).getD []

/-- A property with the listed set at a node; nothing if the list leaves the
universe. -/
def assign? (facts : Universe) (lists : Table Site (List Text)) (site : Site)
    (property : Property) : Option Property :=
  match lists.get? site with
  | none => some property
  | some elements =>
      match facts.set elements with
      | .ok value => some (property.set site value)
      | .error _ => none

/-- A property that has the listed sets at some nodes, and the empty set
elsewhere. -/
def Defined (facts : Universe) (lists : Table Site (List Text))
    (sites : List Site) (property : Property) : Prop :=
  ∀ site,
    (property.get site).Lists facts
      (if site ∈ sites then listAt lists site else [])

theorem Defined.mem_elements {facts : Universe} {lists : Table Site (List Text)}
    {sites : List Site} {property : Property}
    (hdefined : Defined facts lists sites property) {site : Site}
    (hsite : site ∈ sites) (element : Text) :
    element ∈ (property.get site).elements ↔ element ∈ listAt lists site := by
  rw [(hdefined site).mem_elements, if_pos hsite]

section Assign

variable {facts : Universe} {lists : Table Site (List Text)} {sites : List Site}
  {property next : Property} {site : Site}

theorem assign?_eq_some_iff : assign? facts lists site property = some next ↔
    lists.get? site = none ∧ next = property ∨
      ∃ elements value,
        lists.get? site = some elements ∧ facts.set elements = .ok value ∧
          next = property.set site value := by
  rw [assign?]
  cases lists.get? site with
  | none => simp [eq_comm]
  | some elements => cases hset : facts.set elements <;> simp [hset, eq_comm]

/-- A node can be assigned its set exactly if its list lies inside the universe.
-/
theorem exists_assign?_iff (facts : Universe) (lists : Table Site (List Text))
    (site : Site) (property : Property) :
    (∃ next, assign? facts lists site property = some next) ↔
      ∀ element ∈ listAt lists site, element ∈ facts.elements := by
  rw [listAt]
  cases hlist : lists.get? site with
  | none => simp [assign?_eq_some_iff, hlist]
  | some elements => simp [assign?_eq_some_iff, hlist,
    ← Universe.exists_set_iff]

theorem within_assign? (hwithin : property.Within facts)
    (hassign : assign? facts lists site property = some next) :
    next.Within facts := by
  rcases assign?_eq_some_iff.mp hassign with
    ⟨-, rfl⟩ | ⟨elements, value, -, hvalue, rfl⟩
  · exact hwithin
  · exact hwithin.set site (Universe.facts_of_set hvalue)

theorem Defined.assign? (hdefined : Defined facts lists sites property)
    (hassign : assign? facts lists site property = some next) :
    Defined facts lists (site :: sites) next := by
  intro other
  have hother := hdefined other
  have hmem : other ≠ site → (other ∈ site :: sites ↔ other ∈ sites) := by
    intro hne
    rw [List.mem_cons, or_iff_right hne]
  rcases assign?_eq_some_iff.mp hassign with
    ⟨hnone, rfl⟩ | ⟨elements, value, hsome, hvalue, rfl⟩
  · by_cases heq : other = site
    · -- nothing is listed, and nothing was set
      have hlist : listAt lists other = [] := by
        rw [listAt, heq, hnone, Option.getD_none]
      rw [hlist, ite_self] at hother ⊢
      exact hother
    · simpa only [hmem heq] using hother
  · rw [Property.get_set]
    by_cases heq : site = other
    · subst heq
      rw [if_pos rfl, if_pos List.mem_cons_self, listAt, hsome]
      exact Universe.lists_of_set hvalue
    · rw [if_neg heq]
      simpa only [hmem (Ne.symm heq)] using hother

end Assign

def Inside (problem : Problem) (site : Site) : Prop :=
  (∀ element ∈ listAt problem.gen site, element ∈ problem.facts.elements) ∧
    ∀ element ∈ listAt problem.kill site, element ∈ problem.facts.elements

/-- The system has the listed sets at some nodes, and no out set that was
computed. -/
structure Defines (problem : Problem) (sites : List Site) (system : System) :
    Prop where
  facts : system.facts = problem.facts
  wellFormed : system.WellFormed
  gen : Defined problem.facts problem.gen sites system.gen
  kill : Defined problem.facts problem.kill sites system.kill
  out : system.out =
    { name := "out", default := problem.initial.value problem.facts }

section Define

variable {problem : Problem} {sites : List Site} {system next : System}
  {site : Site}

/-- A step gives a node both of its sets, or fails. -/
theorem defineAt_eq_ok_iff : problem.defineAt system site = .ok next ↔
    ∃ gen kill, assign? system.facts problem.gen site system.gen = some gen ∧
      assign? system.facts problem.kill site system.kill = some kill ∧
      next = { system with gen, kill } := by
  rw [defineAt, assign?, assign?]
  cases problem.gen.get? site with
  | none =>
      cases problem.kill.get? site with
      | none => simpa using eq_comm
      | some kills =>
          cases hkill : system.facts.set kills <;>
            simp [System.defineKill, System.define, System.withSet, hkill,
              eq_comm]
  | some gens =>
      cases hgen : system.facts.set gens with
      | error error => simp [System.defineGen, System.define, hgen]
      | ok gen =>
          cases problem.kill.get? site with
          | none => simp [System.defineGen, System.define, System.withSet, hgen,
            eq_comm]
          | some kills =>
              cases hkill : system.facts.set kills <;>
                simp [System.defineGen, System.defineKill, System.define,
                  System.withSet, hgen, hkill, eq_comm]

/-- The sets of a node can be defined exactly if its lists lie inside the
universe. -/
theorem Defines.exists_defineAt_iff (hdefines : Defines problem sites system)
    (site : Site) :
    (∃ next, problem.defineAt system site = .ok next) ↔
      problem.Inside site := by
  simp only [defineAt_eq_ok_iff, hdefines.facts]
  rw [Inside, ← exists_assign?_iff _ _ _ system.gen,
    ← exists_assign?_iff _ _ _ system.kill]
  constructor
  · rintro ⟨next, gen, kill, hgen, hkill, -⟩
    exact ⟨⟨gen, hgen⟩, ⟨kill, hkill⟩⟩
  · rintro ⟨⟨gen, hgen⟩, ⟨kill, hkill⟩⟩
    exact ⟨_, gen, kill, hgen, hkill, rfl⟩

/-- A step adds its node to those whose sets are defined. -/
theorem Defines.defineAt (hdefines : Defines problem sites system)
    (hdefine : problem.defineAt system site = .ok next) :
    Defines problem (site :: sites) next := by
  obtain ⟨gen, kill, hgen, hkill, rfl⟩ := defineAt_eq_ok_iff.mp hdefine
  have hwell : System.WellFormed { system with gen, kill } :=
    ⟨within_assign? hdefines.wellFormed.gen hgen,
      within_assign? hdefines.wellFormed.kill hkill,
      hdefines.wellFormed.out⟩
  rw [hdefines.facts] at hgen hkill
  exact ⟨hdefines.facts, hwell, hdefines.gen.assign? hgen,
    hdefines.kill.assign? hkill, hdefines.out⟩

/-- The whole loop, node after node. -/
theorem Defines.defineAll (hdefines : Defines problem sites system)
    {more : List Site} (hdefine : problem.defineAll system more = .ok next) :
    (∀ site ∈ more, problem.Inside site) ∧
      Defines problem (more.reverse ++ sites) next := by
  induction more generalizing system sites with
  | nil =>
      cases hdefine
      exact ⟨fun _ h => absurd h List.not_mem_nil, hdefines⟩
  | cons first more ih =>
      rw [Problem.defineAll] at hdefine
      split at hdefine
      · cases hdefine
      · rename_i middle hmiddle
        obtain ⟨hinside, hdefined⟩ := ih (hdefines.defineAt hmiddle) hdefine
        have hfirst := (hdefines.exists_defineAt_iff first).mp ⟨middle, hmiddle⟩
        refine ⟨List.forall_mem_cons.mpr ⟨hfirst, hinside⟩, ?_⟩
        rwa [List.reverse_cons, List.append_assoc]

theorem Defines.exists_defineAll (hdefines : Defines problem sites system)
    {more : List Site} (hinside : ∀ site ∈ more, problem.Inside site) :
    ∃ next, problem.defineAll system more = .ok next := by
  induction more generalizing system sites with
  | nil => exact ⟨system, rfl⟩
  | cons first more ih =>
      obtain ⟨hfirst, hmore⟩ := List.forall_mem_cons.mp hinside
      obtain ⟨middle, hmiddle⟩ :=
        (hdefines.exists_defineAt_iff first).mpr hfirst
      obtain ⟨next, hnext⟩ := ih (hdefines.defineAt hmiddle) hmore
      exact ⟨next, by rw [Problem.defineAll, hmiddle]; exact hnext⟩

end Define

/-! ### The system -/

theorem facts_value (initial : Initial) (facts : Universe) :
    (initial.value facts).facts = some facts := by
  cases initial <;> rfl

/-- A problem starts from a system in which no node has a set. -/
theorem exists_start (problem : Problem) :
    ∃ start,
      problem.facts.system (problem.initial.value problem.facts) = .ok start ∧
        Defines problem [] start := by
  have hfacts := facts_value problem.initial problem.facts
  have hadopt := Universe.adopt_of_facts hfacts
  refine ⟨_, by rw [Universe.system, Universe.check_of_facts hfacts, hadopt],
    rfl, ?_, ?_, ?_, rfl⟩
  · exact ⟨.of_default rfl, .of_default rfl, .of_default hfacts⟩
  · exact fun _ => problem.facts.lists_empty
  · exact fun _ => problem.facts.lists_empty

/-- A problem has a system exactly if its elements can be listed and its nodes
list elements of its universe only. -/
theorem exists_system_iff (problem : Problem) :
    (∃ system, problem.system = .ok system) ↔
      (∀ element ∈ problem.facts.elements, Elements.isListable element = true) ∧
        ∀ site ∈ problem.graph.sites, problem.Inside site := by
  obtain ⟨start, hstart, hdefines⟩ := problem.exists_start
  rw [← checkElements_eq_ok_iff]
  cases hcheck : checkElements problem.facts.elements with
  | error error => simp [system, hcheck]
  | ok valid =>
      simp only [system, hcheck, hstart, true_and]
      constructor
      · rintro ⟨system, hsystem⟩
        exact (hdefines.defineAll hsystem).1
      · exact hdefines.exists_defineAll

/-- In the system of a problem the sets of each node are those that it lists. -/
theorem defines_of_system {problem : Problem} {system : System}
    (hsystem : problem.system = .ok system) :
    Defines problem problem.graph.sites.reverse system := by
  obtain ⟨start, hstart, hdefines⟩ := problem.exists_start
  rw [Problem.system, hstart] at hsystem
  split at hsystem
  · cases hsystem
  · have hdefined := (hdefines.defineAll hsystem).2
    rwa [List.append_nil] at hdefined

/-- In the system of a problem the sets of each node list what the problem does.
-/
theorem lists_of_system {problem : Problem} {system : System}
    (hsystem : problem.system = .ok system) {site : Site}
    (hsite : site ∈ problem.graph.sites) :
    (system.gen.get site).Lists problem.facts (listAt problem.gen site) ∧
      (system.kill.get site).Lists problem.facts
        (listAt problem.kill site) := by
  have hdefines := defines_of_system hsystem
  have hgen := hdefines.gen site
  have hkill := hdefines.kill site
  rw [if_pos (List.mem_reverse.mpr hsite)] at hgen hkill
  exact ⟨hgen, hkill⟩

end Problem

end GenKill
