import GenKill.Proofs.Agreement
import GenKill.Proofs.Route
import GenKill.Proofs.Session
import Mathlib.Data.Fintype.BigOperators

/-!
# Runs from an arbitrary state

A run that settles at all does so before its out sets can have been in every
state, so the limit on the passes of a run cuts off none that would settle.
From an arbitrary state some runs never do: whether all runs with given gen and
kill sets settle is a matter of the circles of the graph and of the order of its
nodes.
-/

namespace GenKill

namespace System

variable {facts : Universe} {initial : FactSet} {system : System}
  {graph : Graph} {direction : Direction}

/-! ### The limit of a run -/

theorem Agrees.after {left right : System} {leftGraph rightGraph : Graph}
    (hagrees : Agrees direction left leftGraph right rightGraph) (count : Nat) :
    Agrees direction (System.after leftGraph direction count left) leftGraph
      (System.after rightGraph direction count right) rightGraph := by
  induction count with
  | zero => exact hagrees
  | succ count ih =>
      rw [after_succ, after_succ]
      exact ih.pass

/-- What is no element of the universe is at no node. -/
theorem state_of_not_mem (hwell : system.WellFormed) (graph : Graph)
    {fact : Text} (hfact : fact ∉ system.facts.elements) (index : Nat) :
    system.state graph fact index = false := by
  by_contra htrue
  have hcontains := Bool.eq_true_of_not_eq_false htrue
  exact hfact (FactSet.mem_elements_of_contains (hwell.out.2 _) hcontains)

/-- Two systems of one run are in agreement if their out sets are the same. -/
theorem agrees_of_states (hwell : system.WellFormed) {first later : Nat}
    (hstates : ∀ fact ∈ system.facts.elements, ∀ index < graph.size,
      (after graph direction first system).state graph fact index =
        (after graph direction later system).state graph fact index) :
    Agrees direction (after graph direction first system) graph
      (after graph direction later system) graph := by
  refine ⟨after_wellFormed hwell first, after_wellFormed hwell later, ?_,
    fun fact => ?_, fun fact index hindex => ?_⟩
  · rw [facts_after hwell, facts_after hwell]
  · rw [after_strand hwell, after_strand hwell]
    exact .refl _
  · by_cases hfact : fact ∈ system.facts.elements
    · exact hstates fact hfact index hindex
    · rw [state_of_not_mem (after_wellFormed hwell first) graph
        (by rwa [facts_after hwell]),
        state_of_not_mem (after_wellFormed hwell later) graph
          (by rwa [facts_after hwell])]

/-- The same out sets go on in the same way, so a run that repeats them has had
its quiet pass before. -/
theorem exists_earlier_quiet (hwell : system.WellFormed)
    {first later count : Nat} (hlt : first < later) (hle : later ≤ count)
    (hstates : ∀ fact ∈ system.facts.elements, ∀ index < graph.size,
      (after graph direction first system).state graph fact index =
        (after graph direction later system).state graph fact index)
    (hquiet :
      ((after graph direction count system).pass graph direction).changed =
        false) :
    ∃ earlier < count,
      ((after graph direction earlier system).pass graph direction).changed =
        false := by
  have hsame :=
    ((agrees_of_states hwell hstates).after (count - later)).changed_eq
  rw [after_after, after_after, Nat.sub_add_cancel hle, hquiet] at hsame
  exact ⟨count - later + first, by omega, hsame⟩

/-- A run comes to its first quiet pass before its out sets have been in every
state. -/
theorem exists_quiet_lt_passLimit (hwell : system.WellFormed)
    (hquiet : ∃ count,
      ((after graph direction count system).pass graph direction).changed =
        false) :
    ∃ count < system.passLimit graph,
      ((after graph direction count system).pass graph direction).changed =
        false := by
  refine ⟨Nat.find hquiet, ?_, Nat.find_spec hquiet⟩
  by_contra hlimit
  rw [Nat.not_lt] at hlimit
  let places := Fin graph.size × Fin system.facts.size
  let table : Fin (Nat.find hquiet) → places → Bool := fun count place =>
    (after graph direction count system).state graph
      (system.facts.elements.get place.2) place.1
  have hcard : Fintype.card (places → Bool) <
      Fintype.card (Fin (Nat.find hquiet)) := by
    rw [Fintype.card_fun, Fintype.card_bool, Fintype.card_prod,
      Fintype.card_fin, Fintype.card_fin, Fintype.card_fin]
    rwa [passLimit, Nat.one_shiftLeft] at hlimit
  have hnew : ∀ first later, first < later → table first ≠ table later := by
    intro first later hlt hsame
    have hstates : ∀ fact ∈ system.facts.elements, ∀ index < graph.size,
        (after graph direction first system).state graph fact index =
          (after graph direction later system).state graph fact index := by
      intro fact hfact index hindex
      obtain ⟨number, rfl⟩ := List.get_of_mem hfact
      exact congrFun hsame (⟨index, hindex⟩, number)
    obtain ⟨earlier, hearlier, hquiet'⟩ :=
      exists_earlier_quiet hwell hlt later.isLt.le hstates
        (Nat.find_spec hquiet)
    exact Nat.find_min hquiet hearlier hquiet'
  obtain ⟨left, right, hne, hsame⟩ :=
    Fintype.exists_ne_map_eq_of_card_lt table hcard
  rcases lt_or_gt_of_ne hne with hlt | hlt
  · exact hnew left right hlt hsame
  · exact hnew right left hlt hsame.symm

/-- Some pass changes nothing, and a run and a session with the system stop by
themselves. -/
structure Settles (system : System) (graph : Graph) (direction : Direction) :
    Prop where
  quiet : ∃ count,
    ((after graph direction count system).pass graph direction).changed = false
  solve : (system.solve graph direction).settled = true
  session : ∀ session : Session, session.graph = graph →
    session.direction = direction →
    session.system = system →
    (Session.trail session.passLimit session).settled = true

/-- A system settles exactly if some pass changes nothing. -/
theorem settles_iff_quiet (hwell : system.WellFormed) :
    system.Settles graph direction ↔
      ∃ count,
        ((after graph direction count system).pass graph direction).changed =
          false := by
  refine ⟨Settles.quiet, fun hquiet => ?_⟩
  obtain ⟨count, hcount, hpass⟩ := exists_quiet_lt_passLimit hwell hquiet
  have hsolve : (system.solve graph direction).settled = true :=
    (run_spec hwell hcount hpass).1.settled
  refine ⟨hquiet, hsolve, ?_⟩
  rintro session rfl rfl rfl
  rw [Session.trail_eq]
  exact hsolve

/-! ### All states -/

/-- Passes come to an end if the sweeps of every fact do. -/
theorem exists_quiet_iff (hwell : system.WellFormed) :
    (∃ count,
        ((after graph direction count system).pass graph direction).changed =
          false) ↔
      ∀ fact ∈ system.facts.elements, ∃ count,
        (system.strand graph direction fact).Stable
          ((system.strand graph direction fact).sweep^[count]
            (system.state graph fact)) := by
  simp only [after_quiet_iff hwell]
  constructor
  · rintro ⟨count, hstable⟩ fact _
    exact ⟨count, hstable fact⟩
  · intro hfacts
    have hcommon : ∀ᶠ count in Filter.atTop,
        ∀ fact ∈ system.facts.elements.toFinset,
          (system.strand graph direction fact).Stable
            ((system.strand graph direction fact).sweep^[count]
              (system.state graph fact)) := by
      rw [Filter.eventually_all_finset]
      intro fact hfact
      obtain ⟨bound, hstable⟩ := hfacts fact (List.mem_toFinset.mp hfact)
      filter_upwards [Filter.eventually_ge_atTop bound] with count hcount
      rw [hstable.iterate_of_le hcount]
      exact hstable
    obtain ⟨count, hcount⟩ := hcommon.exists
    refine ⟨count, fun fact => ?_⟩
    by_cases hfact : fact ∈ system.facts.elements
    · exact hcount fact (List.mem_toFinset.mpr hfact)
    · have hstable := stable_of_not_mem hwell graph direction hfact
      rw [hstable.iterate_eq]
      exact hstable

theorem strand_congr {left right : System} (hgen : left.gen = right.gen)
    (hkill : left.kill = right.kill) :
    left.strand graph direction = right.strand graph direction := by
  funext fact
  rw [strand, strand, hgen, hkill]

/-- Out sets can be set to any values, with the gen and kill sets as they
are. -/
theorem Reached.exists_setOuts (hreached : Reached facts initial system)
    (graph : Graph) {values : Nat → FactSet}
    (hvalues : ∀ index, (values index).facts = some facts) (count : Nat) :
    ∃ state,
      Reached facts initial state ∧ state.gen = system.gen ∧
        state.kill = system.kill ∧
        ∀ index < count, state.out.get (graph.site index) = values index := by
  induction count with
  | zero => exact ⟨system, hreached, rfl, rfl, by simp⟩
  | succ count ih =>
      obtain ⟨state, hstate, hgen, hkill, hout⟩ := ih
      have hvalue : (values count).facts = some state.facts := by
        rw [hvalues, hstate.spec.2.1]
      refine ⟨_,
        hstate.setOut (setOut_of_facts state (graph.site count) hvalue), hgen,
        hkill, ?_⟩
      intro index hindex
      rw [Property.get_set]
      by_cases heq : count = index
      · rw [heq, if_pos rfl]
      · rw [if_neg fun hsite => heq (Graph.site_inj.mp hsite),
          hout index (by omega)]

/-- Some state of the out sets keeps the passes going if the circles of some
fact have a common divisor. -/
theorem Reached.exists_restless (hreached : Reached facts initial system)
    {fact : Text} (hfact : fact ∈ facts.elements)
    (hperiodic : ¬ (system.strand graph direction fact).Aperiodic) :
    ∃ state,
      Reached facts initial state ∧ state.gen = system.gen ∧
        state.kill = system.kill ∧
        ¬ state.Settles graph direction := by
  obtain ⟨present, hrestless⟩ := Strand.exists_restless hperiodic
  let values : Nat → FactSet :=
    fun index => if present index then facts.full else facts.empty
  have hvalues : ∀ index, (values index).facts = some facts := by
    intro index
    exact (apply_ite FactSet.facts _ _ _).trans (ite_self _)
  have hcontains : ∀ index, (values index).contains fact = present index := by
    intro index
    cases hpresent : present index with
    | true => simp [values, hpresent, FactSet.contains_full, hfact]
    | false => simp [values, hpresent, FactSet.contains_empty]
  obtain ⟨state, hstate, hgen, hkill, hout⟩ :=
    hreached.exists_setOuts graph hvalues graph.size
  refine ⟨state, hstate, hgen, hkill, fun hsettles => ?_⟩
  obtain ⟨count, hquiet⟩ := hsettles.quiet
  have hstable := (after_quiet_iff hstate.wellFormed count).mp hquiet fact
  rw [strand_congr hgen hkill] at hstable
  apply hrestless count
  refine ((Strand.Alike.refl _).stable_iff
    ((Strand.Alike.refl _).iterate_eq ?_ count)).mp hstable
  intro index hindex
  rw [System.state, hout index hindex, hcontains]

/-- Passes come to an end exactly if the absence of each fact, as the first pass
leaves it, becomes steady.  With given gen and kill sets they do so from every
state of the out sets exactly if, for every fact, the delays of the circles
through each node that is not blocked have no common divisor.  A step of a
circle counts as a delay if it does not go up in the order of the nodes. -/
theorem settles_iff (hreached : Reached facts initial system) (graph : Graph)
    (direction : Direction) :
    (system.Settles graph direction ↔
      ∀ fact ∈ facts.elements, (system.strand graph direction fact).Steady
        ((system.pass graph direction).system.state graph fact)) ∧
    ((∀ state, Reached facts initial state → state.gen = system.gen →
      state.kill = system.kill →
        state.Settles graph direction) ↔
      ∀ fact ∈ facts.elements,
        (system.strand graph direction fact).Aperiodic) := by
  constructor
  · have hwell := hreached.wellFormed
    have hpass : ∀ fact, (system.pass graph direction).system.state graph fact =
        (system.strand graph direction fact).sweep (system.state graph fact) :=
      (pass_spec hwell graph direction).state
    simp only [hpass, ← Strand.exists_stable_iff_steady]
    rw [settles_iff_quiet hwell, exists_quiet_iff hwell, hreached.spec.2.1]
  · constructor
    · intro hsettles fact hfact
      by_contra hperiodic
      obtain ⟨state, hstate, hgen, hkill, hrestless⟩ :=
        hreached.exists_restless hfact hperiodic
      exact hrestless (hsettles state hstate hgen hkill)
    · intro haperiodic state hstate hgen hkill
      rw [settles_iff_quiet hstate.wellFormed,
        exists_quiet_iff hstate.wellFormed, hstate.spec.2.1]
      intro fact hfact
      rw [strand_congr hgen hkill]
      exact (haperiodic fact hfact).exists_stable _

/-! ### A ring -/

theorem reached_ringStart : Reached ringFacts ringFacts.full ringStart := by
  apply Reached.new
  rw [Universe.system, Universe.check_of_facts rfl, Universe.adopt_of_facts rfl]
  rfl

/-- Along the flow, the ring has one step that goes down. -/
theorem aperiodic_ringStart :
    (ringStart.strand ring .forward "x").Aperiodic := by
  let strand := ringStart.strand ring .forward "x"
  have hedge : ∀ node source, strand.made node = false →
      source ∈ strand.sources node →
      strand.Route node source (0 + Strand.lag source node) :=
    fun node source hmade hsource => .step hmade hsource (.here source)
  have hfirst : strand.Route 0 2 1 := hedge 0 2 rfl (by decide)
  have hsecond : strand.Route 1 0 0 := hedge 1 0 rfl (by decide)
  have hthird : strand.Route 2 1 0 := hedge 2 1 rfl (by decide)
  have hround : ∀ node < 3, strand.Route node node 1 := by
    intro node hnode
    match node, hnode with
    | 0, _ => exact (hfirst.trans hthird).trans hsecond
    | 1, _ => exact (hsecond.trans hfirst).trans hthird
    | 2, _ => exact (hthird.trans hsecond).trans hfirst
  intro node hnode _ _ _ _ period hperiod
  exact Nat.dvd_one.mp (hperiod 1 (hround node hnode))

/-- Whatever the out sets are, passes over the ring along the flow come to an
end. -/
theorem settles_ringStart :
    Reached ringFacts ringFacts.full ringStart ∧
      ∀ state, Reached ringFacts ringFacts.full state →
        state.gen = ringStart.gen →
        state.kill = ringStart.kill → state.Settles ring .forward := by
  refine ⟨reached_ringStart,
    (settles_iff reached_ringStart ring .forward).2.mpr ?_⟩
  intro fact hfact
  obtain rfl := List.mem_singleton.mp hfact
  exact aperiodic_ringStart

def emptyRing : System :=
  { ringStart with out := { name := "out", default := ringFacts.empty } }

/-- The fact is at the second node of the ring only. -/
def turningRing : System :=
  { emptyRing with out := emptyRing.out.set (ring.site 1) ringFacts.full }

theorem reached_turningRing :
    Reached ringFacts ringFacts.empty turningRing := by
  have hnew : ringFacts.system ringFacts.empty = .ok emptyRing := by
    rw [Universe.system, Universe.check_of_facts rfl,
      Universe.adopt_of_facts rfl]
    rfl
  exact (Reached.new hnew).setOut (setOut_of_facts emptyRing (ring.site 1) rfl)

/-- Against the flow, the ring has two steps that go down, and absence goes
round for ever. -/
theorem not_settles_turningRing :
    Reached ringFacts ringFacts.empty turningRing ∧
      (∀ count,
        ((after ring .backward count turningRing).pass ring .backward).changed =
          true) ∧
      (turningRing.solve ring .backward).settled = false ∧
      (Session.trail (turningRing.passLimit ring)
        { graph := ring, direction := .backward
          system := turningRing }).settled = false := by
  let strand := turningRing.strand ring .backward "x"
  let state := turningRing.state ring "x"
  have hchange : strand.sweep state 0 ≠ state 0 := by decide
  have hback : ∀ index < strand.size,
      strand.sweep^[2] state index = state index := by decide
  have hrounds : ∀ rounds, ∀ index < strand.size,
      strand.sweep^[2 * rounds] state index = state index := by
    intro rounds
    induction rounds with
    | zero => exact fun _ _ => rfl
    | succ rounds ih =>
        intro index hindex
        rw [Nat.mul_succ, Nat.add_comm, Function.iterate_add_apply,
          (Strand.Alike.refl strand).iterate_eq ih 2 index hindex,
          hback index hindex]
  refine ⟨reached_turningRing, fun count => ?_, by decide +kernel,
    by decide +kernel⟩
  apply Bool.eq_true_of_not_eq_false
  intro hquiet
  have hstable :=
    (after_quiet_iff reached_turningRing.wellFormed count).mp hquiet "x"
  have hdouble : count ≤ 2 * count := by omega
  apply hchange
  calc strand.sweep state 0
      = strand.sweep^[1 + 2 * count] state 0 := by
        rw [Function.iterate_add_apply]
        exact ((Strand.Alike.refl strand).iterate_eq (hrounds count) 1 0
          (by decide)).symm
    _ = strand.sweep^[2 * count] state 0 := by
        rw [hstable.iterate_of_le (by omega), ← hstable.iterate_of_le hdouble]
    _ = state 0 := hrounds count 0 (by decide)

end System

end GenKill
