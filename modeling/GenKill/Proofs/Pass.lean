import GenKill.Pass
import GenKill.Proofs.Strand
import GenKill.Proofs.System

/-!
# Passes, one fact at a time

A pass over a well-formed system does not fail, and it acts on each fact as a
sweep of the strand of that fact.  A pass reports a change exactly if some flow
equation did not hold before it.  A run is then a number of sweeps.
-/

namespace GenKill

theorem Direction.neighbors_lt {direction : Direction} {graph : Graph}
    {index other : Nat} (hother : other ∈ direction.neighbors graph index) :
    other < graph.size := by
  rw [neighbors] at hother
  split at hother
  · rw [Graph.successors, List.mem_filterMap] at hother
    obtain ⟨edge, hedge, hend⟩ := hother
    split at hend
    · cases hend
      exact (graph.ends_lt edge hedge).2
    · simp at hend
  · rw [Graph.predecessors, List.mem_filterMap] at hother
    obtain ⟨edge, hedge, hend⟩ := hother
    split at hend
    · cases hend
      exact (graph.ends_lt edge hedge).1
    · simp at hend

/-- Neighbors are at the sources of edges into a node or, backward, at the
targets of edges out of it. -/
theorem Direction.mem_neighbors_iff (direction : Direction) (graph : Graph)
    (index other : Nat) :
    other ∈ direction.neighbors graph index ↔
      (if direction = backward then graph.hasEdge index other
        else graph.hasEdge other index) = true := by
  rw [neighbors]
  split
  · simp [Graph.successors, Graph.hasEdge]
  · simp [Graph.predecessors, Graph.hasEdge, and_comm]

namespace System

/-- What a system says about one fact on the nodes of a graph. -/
def strand (system : System) (graph : Graph) (direction : Direction)
    (fact : Text) : Strand where
  size := graph.size
  sources := direction.neighbors graph
  made index := (system.gen.get (graph.site index)).contains fact
  lost index := (system.kill.get (graph.site index)).contains fact
  sources_lt := Direction.neighbors_lt

/-- The nodes of a graph that have a fact in their out set. -/
def state (system : System) (graph : Graph) (fact : Text) (index : Nat) :
    Bool :=
  (system.out.get (graph.site index)).contains fact

section

variable {system : System} {graph : Graph} {direction : Direction}

/-! ### One node -/

/-- Without a fault, a fact is in the meet if it is at all of the nodes; at none
of them there is no fact. -/
theorem meet_spec (hwell : system.WellFormed) (sites : List Site) :
    ∃ set, system.meet sites = .ok set ∧ set.facts = some system.facts ∧
      ∀ fact, set.contains fact =
        (!sites.isEmpty && sites.all fun site =>
          (system.out.get site).contains fact) := by
  cases sites with
  | nil => exact ⟨system.facts.empty, rfl, rfl, by simp⟩
  | cons first rest =>
      have hfold : ∀ (rest : List Site) (start : FactSet),
          start.facts = some system.facts →
            ∃ set,
              rest.foldlM (fun meet site => meet.inter (system.out.get site))
                  start = .ok set ∧
              set.facts = some system.facts ∧
              ∀ fact, set.contains fact = (start.contains fact &&
                rest.all fun site => (system.out.get site).contains fact) := by
        intro rest
        induction rest with
        | nil => exact fun start hstart => ⟨start, rfl, hstart, by simp⟩
        | cons site rest ih =>
            intro start hstart
            obtain ⟨both, hboth, hfacts, hcontains⟩ :=
              FactSet.inter_spec hstart (hwell.out.2 site)
            obtain ⟨set, hset, hfacts', hcontains'⟩ := ih both hfacts
            refine ⟨set, ?_, hfacts', fun fact => ?_⟩
            · rw [List.foldlM_cons, hboth]
              exact hset
            · rw [hcontains', hcontains, List.all_cons, Bool.and_assoc]
      obtain ⟨set, hset, hfacts, hcontains⟩ := hfold rest _ (hwell.out.2 first)
      exact ⟨set, hset, hfacts, fun fact => by rw [hcontains]; rfl⟩

/-- Without a fault, a node passes on what it does not lose, and adds what it
makes. -/
theorem transfer_spec (hwell : system.WellFormed) (site : Site) {meet : FactSet}
    (hmeet : meet.facts = some system.facts) :
    ∃ set, system.transfer site meet = .ok set ∧ set.facts = some system.facts ∧
      ∀ fact, set.contains fact =
        ((meet.contains fact && !(system.kill.get site).contains fact) ||
          (system.gen.get site).contains fact) := by
  obtain ⟨kept, hkept, hkeptFacts, hkeptContains⟩ :=
    FactSet.diff_spec hmeet (hwell.kill.2 site)
  obtain ⟨set, hset, hfacts, hcontains⟩ :=
    FactSet.union_spec hkeptFacts (hwell.gen.2 site)
  refine ⟨set, ?_, hfacts, fun fact => by rw [hcontains, hkeptContains]⟩
  rw [transfer, hkept]
  exact hset

/-- A visit computes the set that the flow equation asks for, and records it if
it is new. -/
theorem visit_spec (hwell : system.WellFormed) (graph : Graph)
    (direction : Direction) (index : Nat) :
    ∃ new : FactSet, new.facts = some system.facts ∧
      (∀ fact, new.contains fact =
        (system.strand graph direction fact).next (system.state graph fact)
          index) ∧
      (system.visit graph direction index).result =
        .ok (if new = system.out.get (graph.site index) then none
          else some { system with
            out := system.out.set (graph.site index) new }) := by
  obtain ⟨meet, hmeet, hmeetFacts, hmeetContains⟩ :=
    meet_spec hwell ((direction.neighbors graph index).map graph.site)
  obtain ⟨new, hnew, hfacts, hcontains⟩ :=
    transfer_spec hwell (graph.site index) hmeetFacts
  refine ⟨new, hfacts, fun fact => ?_, ?_⟩
  · rw [hcontains, hmeetContains, List.isEmpty_map, List.all_map]
    rfl
  · have hsame :=
      FactSet.sameElements_eq hfacts (hwell.out.2 (graph.site index))
    simp only [visit, hmeet, hnew, update, hsame]
    by_cases heq : new = system.out.get (graph.site index)
    · simp [heq]
    · simp [heq, setOut_of_facts system (graph.site index) hfacts]

theorem WellFormed.set_out (hwell : system.WellFormed) (site : Site)
    {value : FactSet} (hvalue : value.facts = some system.facts) :
    WellFormed { system with out := system.out.set site value } :=
  ⟨hwell.gen, hwell.kill, hwell.out.set site hvalue⟩

/-- Recording the set of a visit is a visit of every strand. -/
theorem state_set_out (system : System) (graph : Graph) {index : Nat}
    {value : FactSet} {fact : Text} {strand : Strand}
    (hvalue : value.contains fact =
      strand.next (system.state graph fact) index) :
    state { system with out := system.out.set (graph.site index) value } graph
        fact =
      strand.visit (system.state graph fact) index := by
  funext other
  simp only [state, Property.get_set, Graph.site_inj]
  by_cases heq : other = index
  · subst heq
    rw [if_pos rfl, Strand.visit_self, hvalue]
  · rw [if_neg (Ne.symm heq), Strand.visit_of_ne heq]
    rfl

/-! ### One pass -/

/-- What a pass over some nodes of a well-formed system does: it records out
values and nothing else, without a fault; each fact sees a sweep; and it reports
whether an equation of one of the nodes was broken. -/
structure PassSpec (system : System) (graph : Graph) (direction : Direction)
    (indices : List Nat) (pass : Pass) : Prop where
  fault : pass.fault = none
  records : ∃ values,
    pass.system = { system with out := { system.out with values } }
  wellFormed : pass.system.WellFormed
  state : ∀ fact, pass.system.state graph fact =
    (system.strand graph direction fact).sweepOver indices
      (system.state graph fact)
  changed : pass.changed = false ↔ ∀ fact, ∀ index ∈ indices,
    (system.strand graph direction fact).next (system.state graph fact) index =
      system.state graph fact index
  unchanged : pass.changed = false → pass.system = system

theorem passOver_of_none {index : Nat} {rest : List Nat}
    (hresult : (system.visit graph direction index).result = .ok none) :
    passOver graph direction (index :: rest) system =
      { passOver graph direction rest system with
        events := (system.visit graph direction index).events ++
          (passOver graph direction rest system).events } := by
  cases hvisit : system.visit graph direction index with
  | mk events result =>
      rw [hvisit] at hresult
      subst hresult
      simp only [passOver, hvisit]

theorem passOver_of_some {index : Nat} {rest : List Nat} {next : System}
    (hresult : (system.visit graph direction index).result = .ok (some next)) :
    passOver graph direction (index :: rest) system =
      { passOver graph direction rest next with
        changed := true
        events := (system.visit graph direction index).events ++
          (passOver graph direction rest next).events } := by
  cases hvisit : system.visit graph direction index with
  | mk events result =>
      rw [hvisit] at hresult
      subst hresult
      simp only [passOver, hvisit]

/-- A visit that finds its equation in order does nothing for the pass. -/
theorem PassSpec.of_none {index : Nat} {rest : List Nat} {pass : Pass}
    (events : List Event) (hrest : PassSpec system graph direction rest pass)
    (hnext : ∀ fact,
      (system.strand graph direction fact).next (system.state graph fact)
          index =
        system.state graph fact index) :
    PassSpec system graph direction (index :: rest) { pass with events } := by
  refine ⟨hrest.fault, hrest.records, hrest.wellFormed, fun fact => ?_, ?_,
    hrest.unchanged⟩
  · rw [Strand.sweepOver, List.foldl_cons, Strand.visit_eq_self (hnext fact)]
    exact hrest.state fact
  · rw [hrest.changed]
    constructor
    · intro hall fact other hother
      rcases List.mem_cons.mp hother with rfl | hother
      · exact hnext fact
      · exact hall fact other hother
    · exact fun hall fact other hother =>
        hall fact other (List.mem_cons_of_mem _ hother)

/-- A visit that finds a new set records it for the rest of the pass. -/
theorem PassSpec.of_some {index : Nat} {rest : List Nat} {pass : Pass}
    {new : FactSet} (events : List Event)
    (hrest :
      PassSpec { system with out := system.out.set (graph.site index) new }
        graph direction rest pass)
    (hcontains : ∀ fact, new.contains fact =
      (system.strand graph direction fact).next (system.state graph fact) index)
    (hnew : ∃ fact, new.contains fact ≠ system.state graph fact index) :
    PassSpec system graph direction (index :: rest)
      { pass with changed := true, events } := by
  refine ⟨hrest.fault, ?_, hrest.wellFormed, fun fact => ?_, ?_, by simp⟩
  · obtain ⟨values, hvalues⟩ := hrest.records
    exact ⟨values, hvalues⟩
  · rw [Strand.sweepOver, List.foldl_cons,
      ← state_set_out system graph (hcontains fact)]
    exact hrest.state fact
  · obtain ⟨fact, hne⟩ := hnew
    simp only [Bool.true_eq_false, false_iff]
    intro hall
    exact hne ((hcontains fact).trans (hall fact index List.mem_cons_self))

/-- A pass over some nodes of a well-formed system has no fault, and treats each
fact on its own. -/
theorem passOver_spec (hwell : system.WellFormed) (graph : Graph)
    (direction : Direction) (indices : List Nat) :
    PassSpec system graph direction indices
      (passOver graph direction indices system) := by
  induction indices generalizing system with
  | nil =>
      exact ⟨rfl, ⟨system.out.values, rfl⟩, hwell, fun _ => rfl,
        by simp [passOver], fun _ => rfl⟩
  | cons index rest ih =>
      obtain ⟨new, hfacts, hcontains, hresult⟩ :=
        visit_spec hwell graph direction index
      by_cases heq : new = system.out.get (graph.site index)
      · have hnext : ∀ fact, (system.strand graph direction fact).next
            (system.state graph fact) index =
              system.state graph fact index := by
          intro fact
          rw [← hcontains, heq]
          rfl
        rw [if_pos heq] at hresult
        rw [passOver_of_none hresult]
        exact (ih hwell).of_none _ hnext
      · -- a new set differs from the old one in some fact
        have hnew : ∃ fact,
            new.contains fact ≠ system.state graph fact index := by
          by_contra hsame
          push Not at hsame
          exact heq (FactSet.eq_of_contains hfacts (hwell.out.2 _) hsame)
        rw [if_neg heq] at hresult
        rw [passOver_of_some hresult]
        exact (ih (hwell.set_out (graph.site index) hfacts)).of_some _ hcontains
          hnew

theorem pass_spec (hwell : system.WellFormed) (graph : Graph)
    (direction : Direction) :
    PassSpec system graph direction (List.range graph.size)
      (system.pass graph direction) :=
  passOver_spec hwell graph direction _

/-- A pass changes nothing exactly if it changes the states of no fact. -/
theorem pass_changed_eq_false_iff (hwell : system.WellFormed) (graph : Graph)
    (direction : Direction) :
    (system.pass graph direction).changed = false ↔
      ∀ fact,
        (system.strand graph direction fact).Stable
          (system.state graph fact) := by
  rw [(pass_spec hwell graph direction).changed]
  simp only [List.mem_range]
  rfl

/-- A pass reports a change if and only if it leaves a node with another out
set. -/
theorem pass_changed_iff (hwell : system.WellFormed) (graph : Graph)
    (direction : Direction) :
    (system.pass graph direction).changed = true ↔
      ∃ index < graph.size,
        (system.pass graph direction).system.out.get (graph.site index) ≠
          system.out.get (graph.site index) := by
  have hpass := pass_spec hwell graph direction
  constructor
  · intro hchanged
    by_contra hsame
    push Not at hsame
    have hquiet : (system.pass graph direction).changed = false := by
      rw [pass_changed_eq_false_iff hwell]
      refine fun fact => Strand.stable_of_sweep_eq fun index hindex => ?_
      exact (congrFun (hpass.state fact) index).symm.trans
        (congrArg (FactSet.contains · fact) (hsame index hindex))
    rw [hquiet] at hchanged
    cases hchanged
  · rintro ⟨index, -, hne⟩
    by_contra hquiet
    exact hne (by rw [hpass.unchanged (Bool.eq_false_of_not_eq_true hquiet)])

/-! ### Nodes that are not visited -/

theorem passOver_of_error {index : Nat} {rest : List Nat} {fault : Fault}
    (hresult : (system.visit graph direction index).result = .error fault) :
    passOver graph direction (index :: rest) system =
      { system, events := (system.visit graph direction index).events
        fault := some fault } := by
  cases hvisit : system.visit graph direction index with
  | mk events result =>
      rw [hvisit] at hresult
      subst hresult
      simp only [passOver, hvisit]

/-- A visit that does not fail finds the old out set again, or it records
another one at its own node and tells of it. -/
theorem visit_cases {index : Nat} {next : Option System}
    (hresult : (system.visit graph direction index).result = .ok next) :
    ∃ meet new,
      (next = none ∧
        (system.visit graph direction index).events =
          [.met (graph.site index).name
            (direction.neighbors graph index).length meet]) ∨
      (new.sameElements (system.out.get (graph.site index)) = .ok false ∧
        (system.facts.adopt new).facts = some system.facts ∧
        next = some { system with
          out := system.out.set (graph.site index) (system.facts.adopt new) } ∧
        (system.visit graph direction index).events =
          [.met (graph.site index).name
            (direction.neighbors graph index).length meet,
           .updated (graph.site index).name
            (system.out.get (graph.site index)) new]) := by
  simp only [visit] at hresult ⊢
  split at hresult
  · cases hresult
  · rename_i meet _
    split at hresult
    · cases hresult
    · rename_i new _
      refine ⟨meet, new, ?_⟩
      simp only [update] at hresult ⊢
      split at hresult
      · cases hresult
      · cases hresult
        exact .inl ⟨rfl, rfl⟩
      · rename_i hdiffer
        split at hresult
        · cases hresult
        · rename_i hset
          obtain ⟨hfacts, rfl⟩ := setOut_eq hset
          cases hresult
          exact .inr ⟨hdiffer, hfacts, rfl, rfl⟩

/-- A pass records out values at the nodes that it visits, and does nothing
else. -/
theorem passOver_records (graph : Graph) (direction : Direction)
    (indices : List Nat) (system : System) :
    ∃ values, (passOver graph direction indices system).system =
        { system with out := { system.out with values } } ∧
      ∀ site, (∀ index ∈ indices, graph.site index ≠ site) →
        values.get? site = system.out.values.get? site := by
  induction indices generalizing system with
  | nil => exact ⟨system.out.values, rfl, fun _ _ => rfl⟩
  | cons index rest ih =>
      cases hresult : (system.visit graph direction index).result with
      | error fault =>
          rw [passOver_of_error hresult]
          exact ⟨system.out.values, rfl, fun _ _ => rfl⟩
      | ok next =>
          obtain ⟨-, new, ⟨rfl, -⟩ | ⟨-, -, rfl, -⟩⟩ := visit_cases hresult
          · obtain ⟨values, hvalues, hothers⟩ := ih system
            rw [passOver_of_none hresult]
            exact ⟨values, hvalues, fun site hsite =>
              hothers site fun other hother =>
                hsite other (List.mem_cons_of_mem _ hother)⟩
          · obtain ⟨values, hvalues, hothers⟩ := ih _
            rw [passOver_of_some hresult]
            refine ⟨values, hvalues, fun site hsite => ?_⟩
            rw [hothers site fun other hother =>
              hsite other (List.mem_cons_of_mem _ hother),
                Property.set, Table.get?_insert,
                if_neg (hsite index List.mem_cons_self)]

/-! ### Repeated passes -/

def after (graph : Graph) (direction : Direction) (count : Nat)
    (system : System) : System :=
  (fun system => (system.pass graph direction).system)^[count] system

theorem after_succ (graph : Graph) (direction : Direction) (count : Nat)
    (system : System) :
    after graph direction (count + 1) system =
      ((after graph direction count system).pass graph direction).system :=
  Function.iterate_succ_apply' ..

theorem after_after (graph : Graph) (direction : Direction) (more count : Nat)
    (system : System) :
    after graph direction more (after graph direction count system) =
      after graph direction (more + count) system :=
  (Function.iterate_add_apply _ more count system).symm

/-- Passes over a graph leave the out sets of other nodes alone. -/
theorem get_out_after (graph : Graph) (direction : Direction) (count : Nat)
    (system : System) {site : Site}
    (hsite : ∀ index < graph.size, graph.site index ≠ site) :
    (after graph direction count system).out.get site =
      system.out.get site := by
  induction count with
  | zero => rfl
  | succ count ih =>
      obtain ⟨values, hvalues, hothers⟩ := passOver_records graph direction
        (List.range graph.size) (after graph direction count system)
      have hvalue :=
        hothers site fun index hindex => hsite index (List.mem_range.mp hindex)
      rw [after_succ, pass, hvalues, ← ih, Property.get, Property.get, hvalue]

/-- Passes record out values; each fact sees as many sweeps as there are
passes. -/
theorem after_spec (hwell : system.WellFormed) (graph : Graph)
    (direction : Direction) (count : Nat) :
    (after graph direction count system).WellFormed ∧
      (∃ values, after graph direction count system =
        { system with out := { system.out with values } }) ∧
      ∀ fact, (after graph direction count system).state graph fact =
        (system.strand graph direction fact).sweep^[count]
          (system.state graph fact) := by
  induction count with
  | zero => exact ⟨hwell, ⟨system.out.values, rfl⟩, fun _ => rfl⟩
  | succ count ih =>
      obtain ⟨hwellFormed, ⟨values, hvalues⟩, hstate⟩ := ih
      have hpass := pass_spec hwellFormed graph direction
      rw [after_succ]
      refine ⟨hpass.wellFormed, ?_, fun fact => ?_⟩
      · obtain ⟨later, hlater⟩ := hpass.records
        rw [hvalues] at hlater
        exact ⟨later, by rw [hvalues]; exact hlater⟩
      · have hstrand :
            (after graph direction count system).strand graph direction fact =
              system.strand graph direction fact := by
          rw [hvalues]
          rfl
        rw [hpass.state, hstrand, hstate, Function.iterate_succ_apply']
        rfl

theorem after_wellFormed (hwell : system.WellFormed) (count : Nat) :
    (after graph direction count system).WellFormed :=
  (after_spec hwell graph direction count).1

theorem facts_after (hwell : system.WellFormed) (count : Nat) :
    (after graph direction count system).facts = system.facts := by
  obtain ⟨values, hvalues⟩ := (after_spec hwell graph direction count).2.1
  rw [hvalues]

/-- After some passes a fact is where as many sweeps of its strand bring it. -/
theorem after_state (hwell : system.WellFormed) (count : Nat) (fact : Text) :
    (after graph direction count system).state graph fact =
      (system.strand graph direction fact).sweep^[count]
        (system.state graph fact) :=
  (after_spec hwell graph direction count).2.2 fact

theorem after_strand (hwell : system.WellFormed) (count : Nat) (fact : Text) :
    (after graph direction count system).strand graph direction fact =
      system.strand graph direction fact := by
  obtain ⟨values, hvalues⟩ := (after_spec hwell graph direction count).2.1
  rw [hvalues]
  rfl

/-- The next pass changes nothing if and only if every strand has become
stable. -/
theorem after_quiet_iff (hwell : system.WellFormed) (count : Nat) :
    ((after graph direction count system).pass graph direction).changed =
        false ↔
      ∀ fact, (system.strand graph direction fact).Stable
        ((system.strand graph direction fact).sweep^[count]
          (system.state graph fact)) := by
  rw [pass_changed_eq_false_iff (after_wellFormed hwell count)]
  simp only [after_strand hwell, after_state hwell]

/-- What a run is that ends by itself: some passes that change something, and
one that does not. -/
structure RunSpec (system : System) (graph : Graph) (direction : Direction)
    (run : Run) : Prop where
  fault : run.fault = none
  settled : run.settled = true
  final : run.system = after graph direction run.passes system
  passes_pos : 0 < run.passes
  quiet :
    ((after graph direction (run.passes - 1) system).pass graph
      direction).changed = false
  busy : ∀ count, count + 1 < run.passes →
    ((after graph direction count system).pass graph direction).changed = true

/-- A run ends with a pass that changes nothing. -/
theorem run_of_quiet (hwell : system.WellFormed) (budget : Nat)
    (hquiet : (system.pass graph direction).changed = false) :
    run graph direction (budget + 1) system =
      { system := (system.pass graph direction).system
        passes := 1, settled := true
        events := (system.pass graph direction).events } := by
  simp only [run, (pass_spec hwell graph direction).fault, hquiet]
  rfl

/-- A run goes on after a pass that changes something. -/
theorem run_of_busy (hwell : system.WellFormed) (budget : Nat)
    (hbusy : (system.pass graph direction).changed = true) :
    run graph direction (budget + 1) system =
      { run graph direction budget (system.pass graph direction).system with
        passes :=
          (run graph direction budget
            (system.pass graph direction).system).passes + 1
        events := (system.pass graph direction).events ++
          (run graph direction budget
            (system.pass graph direction).system).events } := by
  simp only [run, (pass_spec hwell graph direction).fault, hbusy]
  rfl

theorem runSpec_of_quiet (hwell : system.WellFormed) (budget : Nat)
    (hquiet : (system.pass graph direction).changed = false) :
    RunSpec system graph direction
      (run graph direction (budget + 1) system) := by
  rw [run_of_quiet hwell budget hquiet]
  exact ⟨rfl, rfl, rfl, Nat.one_pos, hquiet,
    fun count hcount => by simp at hcount⟩

/-- One more pass in front of a run. -/
theorem RunSpec.of_busy (hwell : system.WellFormed) {budget : Nat}
    (hbusy : (system.pass graph direction).changed = true)
    (hrest : RunSpec (system.pass graph direction).system graph direction
      (run graph direction budget (system.pass graph direction).system)) :
    RunSpec system graph direction
      (run graph direction (budget + 1) system) := by
  rw [run_of_busy hwell budget hbusy]
  refine ⟨hrest.fault, hrest.settled, hrest.final, Nat.succ_pos _, ?_, ?_⟩
  · obtain ⟨passes, hcount⟩ :=
      Nat.exists_eq_succ_of_ne_zero hrest.passes_pos.ne'
    have hlast := hrest.quiet
    rw [hcount] at hlast
    simp only [hcount, Nat.add_sub_cancel]
    exact hlast
  · intro count hcount
    cases count with
    | zero => exact hbusy
    | succ count => exact hrest.busy count (by simpa using hcount)

/-- A run whose budget reaches up to a quiet pass ends by itself, with that pass
at the latest. -/
theorem run_spec (hwell : system.WellFormed) {budget quiet : Nat}
    (hbudget : quiet < budget)
    (hquiet :
      ((after graph direction quiet system).pass graph direction).changed =
        false) :
    RunSpec system graph direction (run graph direction budget system) ∧
      (run graph direction budget system).passes ≤ quiet + 1 := by
  induction budget generalizing system quiet with
  | zero => omega
  | succ budget ih =>
      cases hchanged : (system.pass graph direction).changed with
      | false =>
          refine ⟨runSpec_of_quiet hwell budget hchanged, ?_⟩
          rw [run_of_quiet hwell budget hchanged]
          exact Nat.succ_le_succ (Nat.zero_le quiet)
      | true =>
          -- the first pass changes something, so the quiet one comes later
          obtain ⟨earlier, rfl⟩ : ∃ earlier, quiet = earlier + 1 := by
            refine Nat.exists_eq_succ_of_ne_zero fun hzero => ?_
            subst hzero
            exact Bool.noConfusion (hchanged.symm.trans hquiet)
          have hearlier : earlier < budget := by omega
          have hnext := (pass_spec hwell graph direction).wellFormed
          obtain ⟨hrest, hpasses⟩ := ih hnext hearlier hquiet
          refine ⟨hrest.of_busy hwell hchanged, ?_⟩
          rw [run_of_busy hwell budget hchanged]
          exact Nat.succ_le_succ hpasses

end

end System

end GenKill
