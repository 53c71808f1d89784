import GenKill.Proofs.Pass
import Mathlib.Data.Set.Lattice

/-!
# Solutions of the flow equations

A run over a graph whose nodes have no out value yet starts every fact at the
same value at all nodes.  So each fact moves one way only, a run settles after
at most one pass for each node and one more, and it ends in the solution of the
flow equations that lies farthest toward the initial set.
-/

namespace GenKill

def FactSet.members (set : FactSet) : Set Text :=
  { fact | set.contains fact = true }

namespace System

theorem contains_eq_of_members {left right : FactSet}
    (hmembers : left.members = right.members) (fact : Text) :
    left.contains fact = right.contains fact := by
  rw [Bool.eq_iff_iff]
  exact Set.ext_iff.mp hmembers fact

/-- The systems that the operations on systems, and passes, make of a new
one. -/
inductive Reached (facts : Universe) (initial : FactSet) : System → Prop
  | new {system : System} (hsystem : facts.system initial = .ok system) :
      Reached facts initial system
  | defineGen {system next : System} {site : Site} {elements : List Text}
      (hreached : Reached facts initial system)
      (hdefine : system.defineGen site elements = .ok next) :
      Reached facts initial next
  | defineKill {system next : System} {site : Site} {elements : List Text}
      (hreached : Reached facts initial system)
      (hdefine : system.defineKill site elements = .ok next) :
      Reached facts initial next
  | setOut {system next : System} {site : Site} {value : FactSet}
      (hreached : Reached facts initial system)
      (hset : system.setOut site value = .ok next) : Reached facts initial next
  | reset {system : System} (hreached : Reached facts initial system) :
      Reached facts initial system.reset
  | pass {system : System} (hreached : Reached facts initial system)
      (graph : Graph)
      (direction : Direction) :
      Reached facts initial (system.pass graph direction).system

def outs (system : System) (graph : Graph) (index : Nat) : Set Text :=
  (system.out.get (graph.site index)).members

/-- What flows into a node under an assignment of sets to the nodes: the facts
of all its neighbors, and nothing into a node without neighbors. -/
def inflow (graph : Graph) (direction : Direction) (assignment : Nat → Set Text)
    (index : Nat) : Set Text :=
  if direction.neighbors graph index = [] then ∅
  else ⋂ neighbor ∈ direction.neighbors graph index, assignment neighbor

/-- The assignment satisfies the flow equation of every node. -/
def Solves (system : System) (graph : Graph) (direction : Direction)
    (assignment : Nat → Set Text) : Prop :=
  ∀ index < graph.size,
    assignment index =
      (inflow graph direction assignment index \
          (system.kill.get (graph.site index)).members) ∪
        (system.gen.get (graph.site index)).members

/-- The node makes and loses the same facts in both analyses. -/
structure SameRule (graph : Graph) (left right : System) (index : Nat) :
    Prop where
  gen : (left.gen.get (graph.site index)).members =
    (right.gen.get (graph.site index)).members
  kill : (left.kill.get (graph.site index)).members =
    (right.kill.get (graph.site index)).members

/-- Which assignments solve the equations depends only on the gen and kill sets.
-/
theorem Solves.of_sameRule {left right : System} {graph : Graph}
    {direction : Direction} {assignment : Nat → Set Text}
    (hsolves : left.Solves graph direction assignment)
    (hsame : ∀ index < graph.size, SameRule graph left right index) :
    right.Solves graph direction assignment := by
  intro index hindex
  rw [← (hsame index hindex).gen, ← (hsame index hindex).kill]
  exact hsolves index hindex

section

variable {facts : Universe} {initial : FactSet} {system : System}

/-- A system that operations and passes lead to is well formed, and keeps its
universe and its initial value. -/
theorem Reached.spec (hreached : Reached facts initial system) :
    system.WellFormed ∧ system.facts = facts ∧
      system.out.default = facts.adopt initial := by
  induction hreached with
  | new hsystem =>
      have hwell := WellFormed.new hsystem
      obtain ⟨-, rfl⟩ := system_eq hsystem
      exact ⟨hwell, rfl, rfl⟩
  | defineGen _ hdefine ih =>
      have hwell := ih.1.define hdefine
      obtain ⟨value, -, rfl⟩ := define_eq hdefine
      exact ⟨hwell, ih.2⟩
  | defineKill _ hdefine ih =>
      have hwell := ih.1.define hdefine
      obtain ⟨value, -, rfl⟩ := define_eq hdefine
      exact ⟨hwell, ih.2⟩
  | setOut _ hset ih =>
      have hwell := ih.1.setOut hset
      obtain ⟨-, rfl⟩ := setOut_eq hset
      exact ⟨hwell, ih.2⟩
  | reset _ ih => exact ⟨ih.1.reset, ih.2⟩
  | pass _ graph direction ih =>
      have hpass := pass_spec ih.1 graph direction
      obtain ⟨values, hvalues⟩ := hpass.records
      refine ⟨hpass.wellFormed, ?_⟩
      rw [hvalues]
      exact ih.2

theorem Reached.wellFormed (hreached : Reached facts initial system) :
    system.WellFormed :=
  hreached.spec.1

variable {graph : Graph}

/-- Before a run each fact is at all nodes, or at none. -/
theorem Untouched.state_eq (huntouched : system.Untouched graph) (fact : Text)
    {index : Nat} (hindex : index < graph.size) :
    system.state graph fact index = system.out.default.contains fact := by
  rw [state, huntouched.get_out hindex]

theorem Untouched.advancing (huntouched : system.Untouched graph)
    (direction : Direction) (fact : Text) :
    (system.strand graph direction fact).Advancing
      (!system.out.default.contains fact) (system.state graph fact) := by
  apply Strand.advancing_of_uniform
  intro index hindex
  rw [Bool.not_not]
  exact huntouched.state_eq fact hindex

theorem Reached.contains_default (hreached : Reached facts initial system)
    (fact : Text) :
    system.out.default.contains fact = initial.contains fact := by
  rw [hreached.spec.2.2, Universe.contains_adopt]

theorem Reached.advancing (hreached : Reached facts initial system)
    (huntouched : system.Untouched graph) (direction : Direction)
    (fact : Text) :
    (system.strand graph direction fact).Advancing (!initial.contains fact)
      (system.state graph fact) :=
  hreached.contains_default fact ▸ huntouched.advancing direction fact

/-! ### Settling -/

/-- Facts outside of the universe are nowhere, and stay so. -/
theorem stable_of_not_mem (hwell : system.WellFormed) (graph : Graph)
    (direction : Direction) {fact : Text}
    (hfact : fact ∉ system.facts.elements) :
    (system.strand graph direction fact).Stable (system.state graph fact) := by
  have hnone : ∀ {set : FactSet}, set.facts = some system.facts →
      set.contains fact = false := by
    intro set hset
    by_contra hcontains
    exact hfact
      (FactSet.mem_elements_of_contains hset
        (Bool.eq_true_of_not_eq_false hcontains))
  have hstate : ∀ index, system.state graph fact index = false :=
    fun index => hnone (hwell.out.2 _)
  intro index _
  rw [hstate]
  apply Bool.eq_false_of_not_eq_true
  rw [Strand.next_eq_true_iff]
  rintro (hmade | ⟨-, hsources, hall⟩)
  · exact Bool.noConfusion (hmade.symm.trans (hnone (hwell.gen.2 _)))
  · obtain ⟨source, rest, hcons⟩ := List.exists_cons_of_ne_nil hsources
    have hsource := hall source (by rw [hcons]; exact List.mem_cons_self)
    exact Bool.noConfusion (hsource.symm.trans (hstate source))

private theorem size_lt_passLimit (system : System) (graph : Graph)
    (hfacts : system.facts.size ≠ 0) : graph.size < system.passLimit graph := by
  have hle : graph.size ≤ graph.size * system.facts.size :=
    Nat.le_mul_of_pos_right _ (Nat.pos_of_ne_zero hfacts)
  calc
    graph.size < 2 ^ graph.size := Nat.lt_two_pow_self
    _ ≤ 2 ^ (graph.size * system.facts.size) :=
        Nat.pow_le_pow_right (by omega) hle
    _ ≤ system.passLimit graph := by
      rw [passLimit, Nat.one_shiftLeft]
      exact Nat.le_succ _

/-- The strands are stable after one pass for each node, so a run from untouched
nodes settles by then. -/
theorem Untouched.solve_spec (huntouched : system.Untouched graph)
    (hwell : system.WellFormed) (direction : Direction) :
    RunSpec system graph direction (system.solve graph direction) ∧
      (system.solve graph direction).passes ≤ graph.size + 1 ∧
      (system.facts.size = 0 → (system.solve graph direction).passes = 1) := by
  by_cases hfacts : system.facts.size = 0
  · have hquiet :
        ((after graph direction 0 system).pass graph direction).changed =
          false := by
      rw [after_quiet_iff hwell]
      intro fact
      apply stable_of_not_mem hwell
      rw [List.eq_nil_of_length_eq_zero hfacts]
      exact List.not_mem_nil
    have hbudget : 0 < system.passLimit graph := Nat.succ_pos _
    obtain ⟨hspec, hpasses⟩ := run_spec hwell hbudget hquiet
    have hpos := hspec.passes_pos
    rw [solve]
    exact ⟨hspec, by omega, fun _ => by omega⟩
  · have hquiet :
        ((after graph direction graph.size system).pass graph
          direction).changed = false := by
      rw [after_quiet_iff hwell]
      exact fun fact => (huntouched.advancing direction fact).stable_iterate
    obtain ⟨hspec, hpasses⟩ :=
      run_spec hwell (size_lt_passLimit system graph hfacts) hquiet
    exact ⟨hspec, hpasses, fun hzero => absurd hzero hfacts⟩

/-- The run of a fresh system settles after one pass for each node and one more
at most. -/
theorem Reached.solve_spec (hreached : Reached facts initial system)
    (huntouched : system.Untouched graph) (direction : Direction) :
    RunSpec system graph direction (system.solve graph direction) ∧
      (system.solve graph direction).passes ≤ graph.size + 1 ∧
      (facts.size = 0 → (system.solve graph direction).passes = 1) := by
  have hspec := huntouched.solve_spec hreached.wellFormed direction
  rwa [hreached.spec.2.1] at hspec

/-- A settled run leaves every strand stable. -/
theorem RunSpec.stable {direction : Direction} {run : Run}
    (hwell : system.WellFormed) (hspec : RunSpec system graph direction run)
    (fact : Text) :
    (system.strand graph direction fact).Stable
      (run.system.state graph fact) := by
  obtain ⟨earlier, hearlier⟩ :=
    Nat.exists_eq_succ_of_ne_zero hspec.passes_pos.ne'
  have hquiet := hspec.quiet
  rw [hearlier, Nat.succ_sub_one, after_quiet_iff hwell] at hquiet
  rw [hspec.final, hearlier, after_state hwell, Function.iterate_succ_apply',
    (hquiet fact).sweep_eq]
  exact hquiet fact

/-! ### Equations fact by fact -/

open Classical in
/-- An assignment solves the flow equations if each fact does so by itself. -/
theorem solves_iff (system : System) (graph : Graph) (direction : Direction)
    (assignment : Nat → Set Text) :
    system.Solves graph direction assignment ↔
      ∀ fact, (system.strand graph direction fact).Stable fun index =>
        decide (fact ∈ assignment index) := by
  have hflow : ∀ index fact,
      fact ∈ (inflow graph direction assignment index \
          (system.kill.get (graph.site index)).members) ∪
            (system.gen.get (graph.site index)).members ↔
        (system.strand graph direction fact).next
          (fun index => decide (fact ∈ assignment index)) index = true := by
    intro index fact
    have hinflow : fact ∈ inflow graph direction assignment index ↔
        direction.neighbors graph index ≠ [] ∧
          ∀ neighbor ∈ direction.neighbors graph index,
            fact ∈ assignment neighbor := by
      rw [inflow]
      split <;> simp_all
    rw [Strand.next_eq_true_iff, Set.mem_union, Set.mem_sdiff, hinflow]
    simp only [strand, FactSet.members, Set.mem_ofPred_eq, decide_eq_true_eq]
    rw [Bool.not_eq_true, or_comm]
    tauto
  constructor
  · intro hsolves fact index hindex
    rw [Bool.eq_iff_iff, ← hflow, ← hsolves index hindex, decide_eq_true_iff]
  · intro hstable index hindex
    ext fact
    rw [hflow, hstable fact index hindex, decide_eq_true_iff]

open Classical in
theorem decide_mem_outs (system : System) (graph : Graph) (fact : Text) :
    (fun index => decide (fact ∈ system.outs graph index)) =
      system.state graph fact := by
  funext index
  rw [Bool.eq_iff_iff, decide_eq_true_iff]
  rfl

/-- A run that has settled leaves a solution of the flow equations. -/
theorem RunSpec.solves {direction : Direction} {run : Run}
    (hwell : system.WellFormed) (hspec : RunSpec system graph direction run) :
    system.Solves graph direction (run.system.outs graph) := by
  rw [solves_iff]
  intro fact
  rw [decide_mem_outs]
  exact hspec.stable hwell fact

/-- A run stops at or before every other solution, seen from the initial set. -/
theorem Reached.toward_solution (hreached : Reached facts initial system)
    (huntouched : system.Untouched graph) {direction : Direction} {run : Run}
    (hspec : RunSpec system graph direction run) {fact : Text}
    {solution : Nat → Bool}
    (hstable : (system.strand graph direction fact).Stable solution) :
    (system.strand graph direction fact).Toward (!initial.contains fact)
      (run.system.state graph fact) solution := by
  rw [hspec.final, after_state hreached.wellFormed]
  apply Strand.Toward.iterate_stable hstable
  apply Strand.toward_of_uniform
  intro index hindex
  rw [huntouched.state_eq fact hindex, hreached.contains_default, Bool.not_not]

/-- A fact that is everywhere at first stays wherever some solution has it. -/
theorem Reached.mem_outs_of_solves (hreached : Reached facts initial system)
    (huntouched : system.Untouched graph) {direction : Direction} {run : Run}
    (hspec : RunSpec system graph direction run) {assignment : Nat → Set Text}
    (hsolves : system.Solves graph direction assignment) {index : Nat}
    (hindex : index < graph.size) {fact : Text}
    (hinitial : initial.contains fact = true) (hmem : fact ∈ assignment index) :
    fact ∈ run.system.outs graph index := by
  classical
  have htoward :=
    hreached.toward_solution huntouched hspec ((solves_iff ..).mp hsolves fact)
  rw [hinitial] at htoward
  by_contra hout
  have hassignment := htoward index hindex (Bool.eq_false_of_not_eq_true hout)
  exact of_decide_eq_false hassignment hmem

/-- A fact that is nowhere at first comes only to where all solutions have it.
-/
theorem Reached.mem_of_mem_outs (hreached : Reached facts initial system)
    (huntouched : system.Untouched graph) {direction : Direction} {run : Run}
    (hspec : RunSpec system graph direction run) {assignment : Nat → Set Text}
    (hsolves : system.Solves graph direction assignment) {index : Nat}
    (hindex : index < graph.size) {fact : Text}
    (hinitial : initial.contains fact = false)
    (hmem : fact ∈ run.system.outs graph index) : fact ∈ assignment index := by
  classical
  have htoward :=
    hreached.toward_solution huntouched hspec ((solves_iff ..).mp hsolves fact)
  rw [hinitial] at htoward
  exact of_decide_eq_true (htoward index hindex hmem)

/-- A run over untouched nodes settles in a solution of the flow equations.
Among all solutions it has the most of the facts in the initial set and the
fewest of the others, so it is the greatest solution if the initial set is the
universe, and the least if it is empty. -/
theorem solve_extremal (hreached : Reached facts initial system) (graph : Graph)
    (direction : Direction) (huntouched : system.Untouched graph) :
    (system.solve graph direction).settled = true ∧
      (system.solve graph direction).fault = none ∧
      (∀ index < graph.size,
        ((system.solve graph direction).system.out.get
          (graph.site index)).facts = some facts) ∧
      system.Solves graph direction
        ((system.solve graph direction).system.outs graph) ∧
      (∀ assignment, system.Solves graph direction assignment →
        ∀ index < graph.size, ∀ fact,
          (initial.contains fact = true → fact ∈ assignment index →
            fact ∈ (system.solve graph direction).system.outs graph index) ∧
          (initial.contains fact = false →
            fact ∈ (system.solve graph direction).system.outs graph index →
              fact ∈ assignment index)) ∧
      (initial = facts.full →
        ∀ assignment, system.Solves graph direction assignment →
        (∀ index < graph.size, assignment index ⊆ facts.full.members) →
          ∀ index < graph.size,
            assignment index ⊆
              (system.solve graph direction).system.outs graph index) ∧
      (initial = facts.empty →
        ∀ assignment, system.Solves graph direction assignment →
        ∀ index < graph.size,
          (system.solve graph direction).system.outs graph index ⊆
            assignment index) := by
  have hwell := hreached.wellFormed
  obtain ⟨hspec, -, -⟩ := hreached.solve_spec huntouched direction
  refine ⟨hspec.settled, hspec.fault, ?_, hspec.solves hwell, ?_, ?_, ?_⟩
  · intro index _
    obtain ⟨hafter, ⟨values, hvalues⟩, -⟩ :=
      after_spec hwell graph direction (system.solve graph direction).passes
    have hout := hafter.out.2 (graph.site index)
    rw [hspec.final, hout, hvalues]
    exact congrArg some hreached.spec.2.1
  · intro assignment hsolves index hindex fact
    exact ⟨hreached.mem_outs_of_solves huntouched hspec hsolves hindex,
      hreached.mem_of_mem_outs huntouched hspec hsolves hindex⟩
  · rintro rfl assignment hsolves hwithin index hindex fact hmem
    exact hreached.mem_outs_of_solves huntouched hspec hsolves hindex
      (hwithin index hindex hmem) hmem
  · rintro rfl assignment hsolves index hindex fact hmem
    exact hreached.mem_of_mem_outs huntouched hspec hsolves hindex
      (FactSet.contains_empty facts fact) hmem

def ring : Graph where
  ident := 0
  nodes := [{ name := "a", label := "a" }, { name := "b", label := "b" },
    { name := "c", label := "c" }]
  edges := [{ source := 0, target := 1 }, { source := 1, target := 2 },
    { source := 2, target := 0 }]
  ends_lt := by simp
  labels_distinct := by decide

def ringFacts : Universe := ⟨0, ["x"], by simp⟩

def ringStart : System where
  facts := ringFacts
  gen := { name := "gen", default := ringFacts.empty }
  kill := { name := "kill", default := ringFacts.empty }
  out := { name := "out", default := ringFacts.full }

theorem system_ringFacts : ringFacts.system ringFacts.full = .ok ringStart := by
  rw [Universe.system, Universe.check_of_facts rfl, Universe.adopt_of_facts rfl]
  rfl

/-- The fact is everywhere at first and is lost at the second node of the
ring. -/
def ringSystem : System :=
  { ringStart with kill := ringStart.kill.set (ring.site 1) ringFacts.full }

theorem reached_ringSystem : Reached ringFacts ringFacts.full ringSystem := by
  have hdefine : ringStart.defineKill (ring.site 1) ["x"] = .ok ringSystem :=
    rfl
  exact (Reached.new system_ringFacts).defineKill hdefine

theorem untouched_ringSystem : ringSystem.Untouched ring := fun _ _ => rfl

theorem solve_extremal_ring :
    Reached ringFacts ringFacts.full ringSystem ∧ ringSystem.Untouched ring ∧
      (ringSystem.solve ring .forward).settled = true ∧
      ringSystem.Solves ring .forward
        ((ringSystem.solve ring .forward).system.outs ring) := by
  have hextremal :=
    solve_extremal reached_ringSystem ring .forward untouched_ringSystem
  exact ⟨reached_ringSystem, untouched_ringSystem, hextremal.1,
    hextremal.2.2.2.1⟩

/-! ### The passes of a run -/

/-- The fact enters or leaves the out set of a node in the pass that follows
`count` passes. -/
def Switches (system : System) (graph : Graph) (direction : Direction)
    (fact : Text) (index count : Nat) : Prop :=
  ¬ (fact ∈ (after graph direction count system).outs graph index ↔
    fact ∈ (after graph direction (count + 1) system).outs graph index)

/-- A fact that enters or leaves an out set gives up its initial value for
good. -/
theorem Reached.state_of_switches (hreached : Reached facts initial system)
    (huntouched : system.Untouched graph) {direction : Direction} {fact : Text}
    {index count : Nat} (hindex : index < graph.size)
    (hswitches : system.Switches graph direction fact index count) :
    (after graph direction count system).state graph fact index =
        initial.contains fact ∧
      ∀ later, count < later →
        (after graph direction later system).state graph fact index =
          !initial.contains fact := by
  have hadvancing := hreached.advancing huntouched direction fact
  have hkeeps : ∀ {earlier later : Nat}, earlier ≤ later →
      (after graph direction earlier system).state graph fact index =
          !initial.contains fact →
        (after graph direction later system).state graph fact index =
          !initial.contains fact := by
    intro earlier later hle hgoal
    rw [after_state hreached.wellFormed] at hgoal ⊢
    exact hadvancing.toward_iterate hle index hindex hgoal
  have hchange : (after graph direction count system).state graph fact index ≠
      (after graph direction (count + 1) system).state graph fact index := by
    intro heq
    exact hswitches (Bool.eq_iff_iff.mp heq)
  have hbefore : (after graph direction count system).state graph fact index =
      initial.contains fact := by
    by_contra hne
    have hgoal := Bool.eq_not.mpr hne
    exact hchange (hgoal.trans (hkeeps (Nat.le_succ count) hgoal).symm)
  refine ⟨hbefore, fun later hlater => ?_⟩
  apply hkeeps (Nat.succ_le_of_lt hlater)
  rw [← hbefore]
  exact Bool.eq_not.mpr (Ne.symm hchange)

/-- In a run over untouched nodes a fact enters or leaves an out set at most
once: it only leaves if it is in the initial set, and only enters if it is not.
The run takes at most one pass for each node and a last one that changes
nothing, however many facts there are. -/
theorem solve_passes_le (hreached : Reached facts initial system)
    (graph : Graph) (direction : Direction)
    (huntouched : system.Untouched graph) :
    (∀ fact, ∀ index < graph.size, ∀ count,
      system.Switches graph direction fact index count →
        (initial.contains fact = true →
          fact ∈ (after graph direction count system).outs graph index ∧
            fact ∉ (after graph direction (count + 1) system).outs graph
              index) ∧
        (initial.contains fact = false →
          fact ∉ (after graph direction count system).outs graph index ∧
            fact ∈ (after graph direction (count + 1) system).outs graph
              index) ∧
        ∀ other, system.Switches graph direction fact index other →
          other = count) ∧
      RunSpec system graph direction (system.solve graph direction) ∧
      (system.solve graph direction).passes ≤ graph.size + 1 ∧
      (system.solve graph direction).passes ≤ facts.size * graph.size + 1 ∧
      (facts.size = 0 → (system.solve graph direction).passes = 1) := by
  obtain ⟨hspec, hpasses, hempty⟩ := hreached.solve_spec huntouched direction
  refine ⟨?_, hspec, hpasses, ?_, hempty⟩
  · intro fact index hindex count hswitches
    obtain ⟨hbefore, hafter⟩ :=
      hreached.state_of_switches huntouched hindex hswitches
    have hnext := hafter (count + 1) (Nat.lt_succ_self count)
    refine ⟨fun hinitial => ?_, fun hinitial => ?_, fun other hother => ?_⟩
    · rw [hinitial] at hbefore hnext
      exact ⟨hbefore, fun hmem => Bool.noConfusion (hnext.symm.trans hmem)⟩
    · rw [hinitial] at hbefore hnext
      exact ⟨fun hmem => Bool.noConfusion (hbefore.symm.trans hmem), hnext⟩
    · -- of two switches the later one would start from the value given up in
      -- the earlier one
      obtain ⟨hbefore', hafter'⟩ :=
        hreached.state_of_switches huntouched hindex hother
      rcases Nat.lt_trichotomy other count with hlt | heq | hlt
      · exact ((Bool.eq_not_self _).mp
          (hbefore.symm.trans (hafter' count hlt))).elim
      · exact heq
      · exact ((Bool.eq_not_self _).mp
          (hbefore'.symm.trans (hafter other hlt))).elim
  · by_cases hfacts : facts.size = 0
    · rw [hempty hfacts]
      exact Nat.le_add_left 1 _
    · have hle : graph.size ≤ facts.size * graph.size :=
        Nat.le_mul_of_pos_left _ (Nat.pos_of_ne_zero hfacts)
      omega

theorem solve_passes_le_ring :
    Reached ringFacts ringFacts.full ringSystem ∧ ringSystem.Untouched ring ∧
      (ringSystem.solve ring .forward).passes ≤ 4 := by
  have hpasses :=
    solve_passes_le reached_ringSystem ring .forward untouched_ringSystem
  exact ⟨reached_ringSystem, untouched_ringSystem, hpasses.2.2.1⟩

end

end System

end GenKill
