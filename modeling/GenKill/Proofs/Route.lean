import GenKill.Proofs.Walks
import Mathlib.NumberTheory.FrobeniusNumber
import Mathlib.Order.Filter.AtTopBot.Basic
import Mathlib.Order.Filter.Finite

/-!
# Sweeps from an arbitrary state

A sweep takes the absence of a fact along a step of the flow at once if the step
goes up in the order of the nodes, and one sweep later if it does not.  So
absence that starts at one node arrives at another with the delay of a route
between them.  Sweeps come to rest exactly if, at each node that nothing blocks,
absence arrives from some delay on with every delay, or with none.  They do so
from every state exactly if the delays of the circles through each such node
have no common divisor but one: otherwise absence can go round in step.
-/

namespace GenKill.Strand

variable (strand : Strand)

/-- How many sweeps later a node sees what a source of it has. -/
def lag (source node : Nat) : Nat := if source < node then 0 else 1

/-- A walk against the flow on which the fact is not made, up to its last node,
and the number of sweeps that absence takes from the last node to the first. -/
inductive Route : Nat → Nat → Nat → Prop
  | here (node : Nat) : Route node node 0
  | step {node source stop delay : Nat} (hmade : strand.made node = false)
      (hsource : source ∈ strand.sources node)
      (hroute : Route source stop delay) :
      Route node stop (delay + lag source node)

/-- No node that could have the fact is on circles whose delays are all
multiples of some number other than one. -/
def Aperiodic : Prop :=
  ∀ node < strand.size, ¬ strand.Blocked node →
    ∀ delay, 0 < delay → strand.Route node node delay →
      ∀ period, (∀ delay, strand.Route node node delay → period ∣ delay) →
      period = 1

/-- Absence in a state arrives at a node with a delay. -/
def Arrives (state : Nat → Bool) (node delay : Nat) : Prop :=
  ∃ origin, strand.Route node origin delay ∧ state origin = false

/-- At each node that could have the fact, absence arrives with every delay from
some delay on, or with none. -/
def Steady (state : Nat → Bool) : Prop :=
  ∀ node < strand.size, ¬ strand.Blocked node → ∃ bound,
    (∀ delay ≥ bound, strand.Arrives state node delay) ∨
      ∀ delay ≥ bound, ¬ strand.Arrives state node delay

variable {strand} {state : Nat → Bool} {start middle stop delay more : Nat}

/-! ### One sweep -/

/-- In a sweep a node sees the new values of the nodes before it, and the old
ones of the others. -/
theorem sweepOver_range (strand : Strand) (state : Nat → Bool)
    {count index : Nat} (hindex : index < count) :
    strand.sweepOver (List.range count) state index =
      strand.next (fun other => if other < index then
        strand.sweepOver (List.range count) state other else state other)
        index := by
  induction count with
  | zero => omega
  | succ count ih =>
      have hlast : strand.sweepOver (List.range (count + 1)) state =
          strand.visit (strand.sweepOver (List.range count) state) count := by
        rw [sweepOver, List.range_succ, List.foldl_append]
        rfl
      have hbefore : ∀ other < count,
          strand.sweepOver (List.range (count + 1)) state other =
            strand.sweepOver (List.range count) state other := by
        intro other hother
        rw [hlast, visit_of_ne (Nat.ne_of_lt hother)]
      rcases Nat.lt_succ_iff_lt_or_eq.mp hindex with hlt | rfl
      · rw [hbefore index hlt, ih hlt]
        congr 1
        funext other
        by_cases hother : other < index
        · rw [if_pos hother, if_pos hother, hbefore other (by omega)]
        · rw [if_neg hother, if_neg hother]
      · rw [hlast, visit_self]
        congr 1
        funext other
        by_cases hother : other < index
        · rw [if_pos hother, visit_of_ne (Nat.ne_of_lt hother)]
        · rw [if_neg hother, sweepOver_of_not_mem (by simpa using hother)]

/-- A node sees its sources as they are after the same sweep, or after the one
before. -/
theorem iterate_succ_eq_false_iff (state : Nat → Bool) (count : Nat)
    {index : Nat} (hindex : index < strand.size) :
    strand.sweep^[count + 1] state index = false ↔
      strand.made index = false ∧
        (strand.lost index = true ∨ strand.sources index = [] ∨
          ∃ source ∈ strand.sources index,
            strand.sweep^[count + 1 - lag source index] state source =
              false) := by
  have hsweep := strand.sweepOver_range (strand.sweep^[count] state) hindex
  have hseen : ∀ source,
      strand.sweep^[count + 1 - lag source index] state source =
        if source < index then strand.sweep^[count + 1] state source
        else strand.sweep^[count] state source := by
    intro source
    rw [lag]
    split <;> rfl
  simp only [hseen]
  rw [← next_eq_false_iff, Function.iterate_succ_apply']
  exact iff_of_eq (congrArg (· = false) hsweep)

/-! ### Routes -/

/-- Delays add up along a route. -/
theorem Route.trans (hleft : strand.Route start middle delay)
    (hright : strand.Route middle stop more) :
    strand.Route start stop (delay + more) := by
  induction hleft with
  | here node => rwa [Nat.zero_add]
  | step hmade hsource _ ih =>
      rw [Nat.add_right_comm]
      exact .step hmade hsource (ih hright)

theorem Route.stop_lt (hroute : strand.Route start stop delay)
    (hstart : start < strand.size) : stop < strand.size := by
  induction hroute with
  | here node => exact hstart
  | step _ hsource _ ih => exact ih (strand.sources_lt hsource)

theorem Route.blocked (hroute : strand.Route start stop delay)
    (hstop : strand.Blocked stop) : strand.Blocked start := by
  induction hroute with
  | here node => exact hstop
  | step hmade hsource _ ih =>
      exact (blocked_iff _).mpr ⟨hmade, .inr (.inr ⟨_, hsource, ih hstop⟩)⟩

/-- A node is blocked if a route leads from it to one where the fact is lost or
nothing flows in. -/
theorem Blocked.exists_route (hblocked : strand.Blocked start) :
    ∃ stop delay, strand.Route start stop delay ∧ strand.made stop = false ∧
      (strand.lost stop = true ∨ strand.sources stop = []) := by
  obtain ⟨walk, hwalk, hblocking⟩ := hblocked
  induction walk generalizing start with
  | nil => exact absurd rfl hwalk.ne_nil
  | cons head tail ih =>
      rcases hwalk.cases_on with hsingle | ⟨next, rest, hcons, hnext, hrest⟩
      · rw [hsingle] at hblocking
        obtain ⟨hfree, last, hlast, hend⟩ := hblocking
        cases hlast
        exact ⟨start, 0, .here start, hfree start (by simp), hend⟩
      · obtain ⟨rfl, rfl⟩ := List.cons.inj hcons
        obtain ⟨hmade, hblocking⟩ :=
          (blocking_cons head hrest.ne_nil).mp hblocking
        obtain ⟨stop, delay, hroute, hstop⟩ := ih hrest hblocking
        exact ⟨stop, _, .step hmade hnext hroute, hstop⟩

/-- Absence travels along a route with its delay. -/
theorem Route.eq_false (hroute : strand.Route start stop delay)
    (hstart : start < strand.size) {count : Nat} (hcount : 0 < count)
    (hstop : strand.sweep^[count] state stop = false) :
    strand.sweep^[count + delay] state start = false := by
  induction hroute with
  | here node => exact hstop
  | @step node source stop delay hmade hsource _ ih =>
      have hsource' := ih (strand.sources_lt hsource) hstop
      obtain ⟨earlier, hearlier⟩ : ∃ earlier,
          count + (delay + lag source node) = earlier + 1 :=
        ⟨count + (delay + lag source node) - 1, by omega⟩
      rw [hearlier, iterate_succ_eq_false_iff state earlier hstart, ← hearlier]
      refine ⟨hmade, .inr (.inr ⟨source, hsource, ?_⟩)⟩
      rwa [← Nat.add_assoc, Nat.add_sub_cancel]

/-- A blocked node loses the fact for good. -/
theorem Blocked.eventually_false (hblocked : strand.Blocked start)
    (hstart : start < strand.size) (state : Nat → Bool) :
    ∃ bound, ∀ count ≥ bound, strand.sweep^[count] state start = false := by
  obtain ⟨stop, delay, hroute, hmade, hend⟩ := hblocked.exists_route
  refine ⟨delay + 1, fun count hcount => ?_⟩
  obtain ⟨earlier, rfl⟩ : ∃ earlier, count = earlier + 1 + delay :=
    ⟨count - 1 - delay, by omega⟩
  apply hroute.eq_false hstart (Nat.succ_pos earlier)
  rw [iterate_succ_eq_false_iff state earlier (hroute.stop_lt hstart)]
  exact ⟨hmade, hend.imp_right .inl⟩

/-- Absence comes from a node at the other end of a route of one sweep. -/
theorem exists_route_of_eq_false {index count : Nat}
    (hindex : index < strand.size) (hblocked : ¬ strand.Blocked index)
    (hfalse : strand.sweep^[count + 1] state index = false) :
    ∃ origin,
      strand.Route index origin 1 ∧
        strand.sweep^[count] state origin = false := by
  induction index using Nat.strong_induction_on with
  | _ index ih =>
      obtain ⟨hmade, hlost | hsources | ⟨source, hsource, hfalse⟩⟩ :=
        (iterate_succ_eq_false_iff state count hindex).mp hfalse
      · exact absurd ((blocked_iff index).mpr ⟨hmade, .inl hlost⟩) hblocked
      · exact absurd ((blocked_iff index).mpr ⟨hmade, .inr (.inl hsources)⟩)
          hblocked
      · by_cases hlt : source < index
        · have hopen : ¬ strand.Blocked source := fun hsource' =>
            hblocked ((blocked_iff index).mpr
              ⟨hmade, .inr (.inr ⟨source, hsource, hsource'⟩)⟩)
          rw [lag, if_pos hlt] at hfalse
          obtain ⟨origin, hroute, horigin⟩ :=
            ih source hlt (strand.sources_lt hsource) hopen hfalse
          have hstep := Route.step hmade hsource hroute
          rw [lag, if_pos hlt] at hstep
          exact ⟨origin, hstep, horigin⟩
        · have hstep := Route.step hmade hsource (.here source)
          rw [lag, if_neg hlt] at hstep hfalse
          exact ⟨source, hstep, hfalse⟩

/-! ### Coming to rest -/

theorem Stable.iterate_eq (hstable : strand.Stable state) (count : Nat) :
    strand.sweep^[count] state = state :=
  Function.iterate_fixed hstable.sweep_eq count

/-- Sweeps that have come to rest stay there. -/
theorem Stable.iterate_of_le {count later : Nat}
    (hstable : strand.Stable (strand.sweep^[count] state))
    (hle : count ≤ later) :
    strand.sweep^[later] state = strand.sweep^[count] state := by
  rw [← Nat.sub_add_cancel hle, Function.iterate_add_apply, hstable.iterate_eq]

open Filter in
/-- Sweeps come to rest if the nodes do, one by one. -/
theorem eventually_stable (hnodes : ∀ index < strand.size, ∃ bound value,
    ∀ count ≥ bound, strand.sweep^[count] state index = value) :
    ∀ᶠ count in atTop, strand.Stable (strand.sweep^[count] state) := by
  have hsame : ∀ᶠ count in atTop, ∀ index ∈ Finset.range strand.size,
      strand.sweep^[count + 1] state index =
        strand.sweep^[count] state index := by
    rw [eventually_all_finset]
    intro index hindex
    obtain ⟨bound, value, hvalue⟩ := hnodes index (Finset.mem_range.mp hindex)
    filter_upwards [eventually_ge_atTop bound] with count hcount
    rw [hvalue count hcount, hvalue (count + 1) (by omega)]
  filter_upwards [hsame] with count hcount
  apply stable_of_sweep_eq
  intro index hindex
  rw [← hcount index (Finset.mem_range.mpr hindex),
    Function.iterate_succ_apply']

/-- What is absent at a node that is not blocked has arrived from the state
after the first sweep. -/
theorem iterate_succ_eq_false_iff_arrives {index : Nat}
    (hindex : index < strand.size) (hblocked : ¬ strand.Blocked index)
    (count : Nat) :
    strand.sweep^[count + 1] state index = false ↔
      strand.Arrives (strand.sweep state) index count := by
  constructor
  · intro hfalse
    induction count generalizing index with
    | zero => exact ⟨index, .here index, hfalse⟩
    | succ count ih =>
        obtain ⟨middle, hroute, hmiddle⟩ :=
          exists_route_of_eq_false hindex hblocked hfalse
        obtain ⟨origin, hmore, horigin⟩ := ih (hroute.stop_lt hindex)
          (fun hmiddle => hblocked (hroute.blocked hmiddle)) hmiddle
        refine ⟨origin, ?_, horigin⟩
        rw [Nat.add_comm]
        exact hroute.trans hmore
  · rintro ⟨origin, hroute, horigin⟩
    rw [Nat.add_comm]
    exact hroute.eq_false hindex Nat.one_pos horigin

/-- Sweeps come to rest exactly if absence becomes steady. -/
theorem exists_stable_iff_steady (state : Nat → Bool) :
    (∃ count, strand.Stable (strand.sweep^[count] state)) ↔
      strand.Steady (strand.sweep state) := by
  constructor
  · rintro ⟨count, hstable⟩ node hnode hblocked
    have hrest : ∀ delay ≥ count,
        (strand.Arrives (strand.sweep state) node delay ↔
          strand.sweep^[count] state node = false) := by
      intro delay hdelay
      rw [← iterate_succ_eq_false_iff_arrives hnode hblocked,
        hstable.iterate_of_le (by omega)]
    refine ⟨count, ?_⟩
    by_cases hfalse : strand.sweep^[count] state node = false
    · exact .inl fun delay hdelay => (hrest delay hdelay).mpr hfalse
    · exact .inr fun delay hdelay harrives =>
        hfalse ((hrest delay hdelay).mp harrives)
  · intro hsteady
    apply (eventually_stable fun index hindex => ?_).exists
    by_cases hblocked : strand.Blocked index
    · obtain ⟨bound, hbound⟩ := hblocked.eventually_false hindex state
      exact ⟨bound, false, hbound⟩
    · obtain ⟨bound, hall | hnone⟩ := hsteady index hindex hblocked
      · refine ⟨bound + 1, false, fun count hcount => ?_⟩
        obtain ⟨delay, rfl⟩ :=
          Nat.exists_eq_add_of_le' (Nat.le_of_add_left_le hcount)
        exact (iterate_succ_eq_false_iff_arrives hindex hblocked delay).mpr
          (hall delay (by omega))
      · refine ⟨bound + 1, true, fun count hcount => ?_⟩
        obtain ⟨delay, rfl⟩ :=
          Nat.exists_eq_add_of_le' (Nat.le_of_add_left_le hcount)
        apply Bool.eq_true_of_not_eq_false
        rw [iterate_succ_eq_false_iff_arrives hindex hblocked delay]
        exact hnone delay (by omega)

/-! ### Circles -/

/-- The nodes that absence came through, back to some sweep. -/
theorem exists_trace {index : Nat} (hindex : index < strand.size)
    (hblocked : ¬ strand.Blocked index) (length : Nat) {count : Nat}
    (hfalse : strand.sweep^[count + length] state index = false) :
    ∃ trace : Nat → Nat, trace 0 = index ∧ ∀ number < length,
      strand.Route (trace number) (trace (number + 1)) 1 ∧
        strand.sweep^[count + (length - (number + 1))] state
          (trace (number + 1)) = false := by
  induction length generalizing index with
  | zero => exact ⟨fun _ => index, rfl, by simp⟩
  | succ length ih =>
      obtain ⟨origin, hroute, horigin⟩ :=
        exists_route_of_eq_false hindex hblocked hfalse
      obtain ⟨trace, hstart, htrace⟩ := ih (hroute.stop_lt hindex)
        (fun horigin => hblocked (hroute.blocked horigin)) horigin
      refine ⟨fun number => number.casesOn index trace, rfl,
        fun number hnumber => ?_⟩
      cases number with
      | zero =>
          change strand.Route index (trace 0) 1 ∧
            strand.sweep^[_] state (trace 0) = false
          rw [hstart]
          exact ⟨hroute, horigin⟩
      | succ number =>
          rw [Nat.add_sub_add_right]
          exact htrace number (by omega)

/-- More numbers than there are nodes lead to some node twice. -/
theorem exists_repeat {size : Nat} {trace : Nat → Nat}
    (htrace : ∀ number ≤ size, trace number < size) :
    ∃ first later,
      first < later ∧ later ≤ size ∧ trace first = trace later := by
  have hmaps : ∀ number ∈ Finset.range (size + 1),
      trace number ∈ Finset.range size := by
    intro number hnumber
    rw [Finset.mem_range, Nat.lt_succ_iff] at hnumber
    exact Finset.mem_range.mpr (htrace number hnumber)
  have hcard : (Finset.range size).card < (Finset.range (size + 1)).card := by
    rw [Finset.card_range, Finset.card_range]
    exact Nat.lt_succ_self size
  obtain ⟨left, hleft, right, hright, hne, hsame⟩ :=
    Finset.exists_ne_map_eq_of_card_lt_of_maps_to hcard hmaps
  rw [Finset.mem_range, Nat.lt_succ_iff] at hleft hright
  rcases Nat.lt_or_gt_of_ne hne with hlt | hlt
  · exact ⟨left, right, hlt, hright, hsame⟩
  · exact ⟨right, left, hlt, hleft, hsame.symm⟩

/-- Absence that has lasted for more sweeps than there are nodes came through a
circle. -/
theorem exists_circle {index count : Nat} (hindex : index < strand.size)
    (hblocked : ¬ strand.Blocked index) (hcount : strand.size < count)
    (hfalse : strand.sweep^[count] state index = false) :
    ∃ node delay round earlier, strand.Route index node delay ∧
      0 < round ∧ strand.Route node node round ∧
      0 < earlier ∧ strand.sweep^[earlier] state node = false := by
  obtain ⟨rest, rfl⟩ : ∃ rest, count = rest + 1 + strand.size :=
    ⟨count - 1 - strand.size, by omega⟩
  obtain ⟨trace, hstart, htrace⟩ :=
    exists_trace hindex hblocked strand.size hfalse
  have hroute : ∀ first later, first ≤ later → later ≤ strand.size →
      strand.Route (trace first) (trace later) (later - first) := by
    intro first later hle
    induction later, hle using Nat.le_induction with
    | base => exact fun _ => by rw [Nat.sub_self]; exact .here _
    | succ later hle ih =>
        intro hlater
        rw [Nat.succ_sub hle]
        exact (ih (by omega)).trans (htrace later (by omega)).1
  have hto : ∀ number ≤ strand.size,
      strand.Route index (trace number) number := by
    intro number hnumber
    have hto := hroute 0 number (Nat.zero_le number) hnumber
    rwa [hstart] at hto
  obtain ⟨first, later, hlt, hlater, hsame⟩ :=
    exists_repeat fun number hnumber => (hto number hnumber).stop_lt hindex
  have hback := hroute first later hlt.le hlater
  rw [← hsame] at hback
  -- absence was seen at the later of the two places, some sweeps ago
  have habsent := (htrace (later - 1) (by omega)).2
  rw [Nat.sub_add_cancel (by omega), ← hsame] at habsent
  exact ⟨trace first, first, later - first, _, hto first (by omega), by omega,
    hback, by omega, habsent⟩

/-- Circles whose delays have no common divisor make up every long enough
delay. -/
theorem Aperiodic.exists_routes (haperiodic : strand.Aperiodic)
    {node round : Nat} (hnode : node < strand.size)
    (hblocked : ¬ strand.Blocked node) (hround : 0 < round)
    (hroute : strand.Route node node round) :
    ∃ bound, ∀ delay ≥ bound, strand.Route node node delay := by
  let delays : Set Nat := { delay | strand.Route node node delay }
  have hgcd : Nat.setGcd delays = 1 :=
    haperiodic node hnode hblocked round hround hroute _
      fun _ hdelay => Nat.setGcd_dvd_of_mem hdelay
  have hclosed : ∀ delay ∈ AddSubmonoid.closure delays,
      strand.Route node node delay := by
    intro delay hmem
    induction hmem using AddSubmonoid.closure_induction with
    | mem delay hdelay => exact hdelay
    | zero => exact .here node
    | add left right _ _ hleft hright => exact hleft.trans hright
  obtain ⟨bound, hbound⟩ := Nat.exists_mem_closure_of_ge delays
  refine ⟨bound, fun delay hdelay => hclosed delay ?_⟩
  apply hbound delay hdelay
  rw [hgcd]
  exact Nat.one_dvd delay

/-- Absence that has gone round once stays. -/
theorem Aperiodic.eventually_false (haperiodic : strand.Aperiodic)
    {index count : Nat} (hindex : index < strand.size)
    (hcount : strand.size < count)
    (hfalse : strand.sweep^[count] state index = false) :
    ∃ bound, ∀ count ≥ bound, strand.sweep^[count] state index = false := by
  by_cases hblocked : strand.Blocked index
  · exact hblocked.eventually_false hindex state
  · obtain ⟨node, delay, round, earlier, hroute, hround, hcircle, hearlier,
        habsent⟩ :=
      exists_circle hindex hblocked hcount hfalse
    have hnode := hroute.stop_lt hindex
    obtain ⟨bound, hbound⟩ := haperiodic.exists_routes hnode
      (fun hnode => hblocked (hroute.blocked hnode)) hround hcircle
    refine ⟨earlier + bound + delay, fun count hcount => ?_⟩
    obtain ⟨rounds, rfl⟩ : ∃ rounds, count = earlier + rounds + delay :=
      ⟨count - earlier - delay, by omega⟩
    apply hroute.eq_false hindex (by omega)
    exact (hbound rounds (by omega)).eq_false hnode hearlier habsent

/-- From every state, sweeps of an aperiodic strand come to rest. -/
theorem Aperiodic.exists_stable (haperiodic : strand.Aperiodic)
    (state : Nat → Bool) :
    ∃ count, strand.Stable (strand.sweep^[count] state) := by
  apply (eventually_stable fun index hindex => ?_).exists
  by_cases hfalse : ∃ count > strand.size,
      strand.sweep^[count] state index = false
  · obtain ⟨count, hcount, hfalse⟩ := hfalse
    obtain ⟨bound, hbound⟩ := haperiodic.eventually_false hindex hcount hfalse
    exact ⟨bound, false, hbound⟩
  · refine ⟨strand.size + 1, true, fun count hcount => ?_⟩
    by_contra hne
    exact hfalse ⟨count, hcount, Bool.eq_false_of_not_eq_true hne⟩

/-! ### Going round for ever -/

section Round

variable {home period round : Nat}

/-- The fact is absent where a route leads home with a delay that is in step. -/
def InStep (strand : Strand) (home period count node : Nat) : Prop :=
  ∃ delay, strand.Route node home delay ∧ delay ≡ count [MOD period]

/-- A node is in step exactly if it does not make the fact and one of its
sources was in step, its lag earlier. -/
theorem inStep_iff (hround : 0 < round) (hcircle : strand.Route home home round)
    (hperiod : period ∣ round) (count node : Nat) :
    strand.InStep home period count node ↔
      strand.made node = false ∧ ∃ source ∈ strand.sources node,
        ∃ delay,
          strand.Route source home delay ∧
            delay + lag source node ≡ count [MOD period] := by
  constructor
  · rintro ⟨delay, hroute, hstep⟩
    cases hroute with
    | here =>
        -- the circle leads home as well
        cases hcircle with
        | here => exact absurd hround (Nat.lt_irrefl 0)
        | @step node source stop delay hmade hsource hroute =>
            exact ⟨hmade, source, hsource, delay, hroute,
              ((Nat.modEq_zero_iff_dvd).mpr hperiod).trans hstep⟩
    | @step node source stop delay hmade hsource hroute =>
        exact ⟨hmade, source, hsource, delay, hroute, hstep⟩
  · rintro ⟨hmade, source, hsource, delay, hroute, hstep⟩
    exact ⟨_, .step hmade hsource hroute, hstep⟩

open Classical in
/-- Absence in step stays in step, at all nodes that home depends on. -/
theorem iterate_inStep (hhome : home < strand.size)
    (hblocked : ¬ strand.Blocked home) (hround : 0 < round)
    (hcircle : strand.Route home home round) (hperiod : period ∣ round)
    (count : Nat) {node delay : Nat} (hnode : strand.Route home node delay) :
    strand.sweep^[count]
        (fun node => decide (¬ strand.InStep home period 0 node)) node = false ↔
      strand.InStep home period count node := by
  induction count generalizing node delay with
  | zero => simp
  | succ count ihCount =>
      induction node using Nat.strong_induction_on generalizing delay with
      | _ node ihNode =>
          have hopen : ¬ strand.Blocked node :=
            fun hnode' => hblocked (hnode.blocked hnode')
          rw [iterate_succ_eq_false_iff _ _ (hnode.stop_lt hhome),
            inStep_iff hround hcircle hperiod]
          refine and_congr_right fun hmade => ?_
          have hlost : ¬ strand.lost node = true := fun hlost =>
            hopen ((blocked_iff node).mpr ⟨hmade, .inl hlost⟩)
          have hsources : strand.sources node ≠ [] := fun hsources =>
            hopen ((blocked_iff node).mpr ⟨hmade, .inr (.inl hsources)⟩)
          rw [or_iff_right hlost, or_iff_right hsources]
          refine exists_congr fun source => and_congr_right fun hsource => ?_
          have hto := hnode.trans (.step hmade hsource (.here source))
          by_cases hlt : source < node
          · rw [lag, if_pos hlt]
            exact ihNode source hlt hto
          · rw [lag, if_neg hlt]
            refine (ihCount hto).trans
              (exists_congr fun delay => and_congr_right fun _ => ?_)
            exact ⟨fun hstep => hstep.add_right 1,
              fun hstep => hstep.add_right_cancel' 1⟩

end Round

/-- Circles with a common divisor keep some state from coming to rest. -/
theorem exists_restless (hperiodic : ¬ strand.Aperiodic) :
    ∃ state, ∀ count, ¬ strand.Stable (strand.sweep^[count] state) := by
  classical
  simp only [Aperiodic, not_forall] at hperiodic
  obtain ⟨home, hhome, hblocked, round, hround, hcircle, period, hperiod,
    hne⟩ := hperiodic
  let state : Nat → Bool :=
    fun node => decide (¬ strand.InStep home period 0 node)
  have hstep : ∀ count, strand.sweep^[count] state home = false ↔
      period ∣ count := by
    intro count
    rw [iterate_inStep hhome hblocked hround hcircle (hperiod round hcircle)
      count (.here home)]
    constructor
    · rintro ⟨delay, hroute, hstep⟩
      exact (hstep.dvd_iff dvd_rfl).mp (hperiod delay hroute)
    · intro hdvd
      exact ⟨0, .here home, ((Nat.modEq_zero_iff_dvd).mpr hdvd).symm⟩
  refine ⟨state, fun count hstable => hne ?_⟩
  -- at rest, absence would be seen after the next multiple of the period and
  -- once more
  have hpos : 0 < period := Nat.pos_of_dvd_of_pos (hperiod round hcircle) hround
  have hlater : count ≤ period * count := Nat.le_mul_of_pos_left count hpos
  have habsent : strand.sweep^[period * count + 1] state home = false := by
    rw [hstable.iterate_of_le (by omega), ← hstable.iterate_of_le hlater, hstep]
    exact Nat.dvd_mul_right period count
  rw [hstep, Nat.dvd_add_right (Nat.dvd_mul_right period count)] at habsent
  exact Nat.dvd_one.mp habsent

end GenKill.Strand
