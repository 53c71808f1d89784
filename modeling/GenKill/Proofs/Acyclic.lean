import GenKill.Proofs.Settling
import GenKill.Proofs.Validity

/-!
# Analyses of acyclic graphs

A run that starts from arbitrary out sets does not move one way, so nothing but
the graph can bring it to an end.  If two runs still differ at a node after some
passes, then the difference has come along a route that is as long as these
passes are many.  A graph without circles has no routes of such length: after
one pass for each node nothing is left of the out sets at the start.  So all
runs end alike, in the one solution that there is.
-/

namespace GenKill

/-- No node can be reached from itself by going from a node to what flows into
it. -/
def Direction.Acyclic (direction : Direction) (graph : Graph) : Prop :=
  ∀ index < graph.size,
    ¬ Relation.TransGen
      (fun node source => source ∈ direction.neighbors graph node) index index

/-- What flows into a node was added before it. -/
def Direction.Ordered (direction : Direction) (graph : Graph) : Prop :=
  ∀ index < graph.size, ∀ source ∈ direction.neighbors graph index,
    source < index

instance (direction : Direction) (graph : Graph) :
    Decidable (direction.Ordered graph) :=
  inferInstanceAs (Decidable (∀ index < graph.size, _))

namespace Strand

variable {strand : Strand} {left right state solution : Nat → Bool}
  {start stop delay count index : Nat}

theorem lag_le_one (source node : Nat) : lag source node ≤ 1 := by
  rw [lag]
  split <;> omega

/-! ### Differences travel along routes -/

/-- What is absent in one run and present in the other, at the same node after
the same number of sweeps, has come along a route with that delay. -/
theorem exists_route_of_differ (hindex : index < strand.size)
    (habsent : strand.sweep^[count] left index = false)
    (hpresent : strand.sweep^[count] right index ≠ false) :
    ∃ stop, strand.Route index stop count := by
  induction count generalizing index with
  | zero => exact ⟨index, .here index⟩
  | succ count ihCount =>
      -- sources that come before the node are seen as they are after the same
      -- sweep
      induction index using Nat.strong_induction_on with
      | _ index ihIndex =>
          rw [iterate_succ_eq_false_iff _ _ hindex] at habsent
          rw [Ne, iterate_succ_eq_false_iff _ _ hindex] at hpresent
          obtain ⟨hmade, hlost | hsources | ⟨source, hsource, hfalse⟩⟩ :=
            habsent
          · exact absurd ⟨hmade, .inl hlost⟩ hpresent
          · exact absurd ⟨hmade, .inr (.inl hsources)⟩ hpresent
          · have htrue :
                strand.sweep^[count + 1 - lag source index] right source ≠
                  false :=
              fun hfalse =>
                hpresent ⟨hmade, .inr (.inr ⟨source, hsource, hfalse⟩)⟩
            have hlt := strand.sources_lt hsource
            obtain ⟨stop, hroute⟩ :
                ∃ stop,
                  strand.Route source stop (count + 1 - lag source index) := by
              by_cases hbefore : source < index
              · have hlag : lag source index = 0 := if_pos hbefore
                rw [hlag] at hfalse htrue ⊢
                exact ihIndex source hbefore hlt hfalse htrue
              · have hlag : lag source index = 1 := if_neg hbefore
                rw [hlag] at hfalse htrue ⊢
                exact ihCount hlt hfalse htrue
            have hlag : lag source index ≤ count + 1 :=
              (lag_le_one source index).trans (Nat.le_add_left 1 count)
            have hstep := Route.step hmade hsource hroute
            rw [Nat.sub_add_cancel hlag] at hstep
            exact ⟨stop, hstep⟩

/-- After a number of sweeps nothing is left of the state at the start. -/
def Forgets (strand : Strand) (count : Nat) : Prop :=
  ∀ left right : Nat → Bool, ∀ index < strand.size,
    strand.sweep^[count] left index = strand.sweep^[count] right index

/-- If no route is as long as that, the first state is forgotten by then. -/
theorem forgets_of_routes
    (hroutes : ∀ index < strand.size, ∀ stop, ¬ strand.Route index stop count) :
    strand.Forgets count := by
  intro left right index hindex
  by_contra hdiffer
  cases hleft : strand.sweep^[count] left index with
  | false =>
      rw [hleft] at hdiffer
      obtain ⟨stop, hroute⟩ :=
        exists_route_of_differ hindex hleft (Ne.symm hdiffer)
      exact hroutes index hindex stop hroute
  | true =>
      rw [hleft] at hdiffer
      have hright := Bool.eq_false_of_not_eq_true (Ne.symm hdiffer)
      have hpresent : strand.sweep^[count] left index ≠ false := by simp [hleft]
      obtain ⟨stop, hroute⟩ := exists_route_of_differ hindex hright hpresent
      exact hroutes index hindex stop hroute

namespace Forgets

/-- Once nothing is left of the start, one sweep more makes no difference. -/
theorem stable (hforgets : strand.Forgets count) (state : Nat → Bool) :
    strand.Stable (strand.sweep^[count] state) := by
  apply stable_of_sweep_eq
  intro index hindex
  rw [← Function.iterate_succ_apply' strand.sweep, Function.iterate_succ_apply]
  exact hforgets (strand.sweep state) state index hindex

/-- A solution stays as it is, so all sweeps end there. -/
theorem eq_of_stable (hforgets : strand.Forgets count) (state : Nat → Bool)
    (hstable : strand.Stable solution) (hindex : index < strand.size) :
    strand.sweep^[count] state index = solution index := by
  rw [hforgets state solution index hindex, hstable.iterate_eq]

end Forgets

/-! ### Routes without circles -/

theorem Route.exists_walk (hroute : strand.Route start stop delay) :
    ∃ walk, strand.IsWalk start walk ∧ delay < walk.length := by
  induction hroute with
  | here node => exact ⟨[node], isWalk_singleton node, Nat.one_pos⟩
  | @step node source stop delay _ hsource _ ih =>
      obtain ⟨walk, hwalk, hlength⟩ := ih
      have hlag := lag_le_one source node
      refine ⟨node :: walk, hwalk.cons hsource, ?_⟩
      rw [List.length_cons]
      omega

/-- Without circles no walk visits a node twice. -/
theorem IsWalk.nodup {walk : List Nat} (hwalk : strand.IsWalk start walk)
    (hacyclic : ∀ index,
      ¬ Relation.TransGen (fun node source => source ∈ strand.sources node)
        index index) :
    walk.Nodup := by
  have hpairwise : walk.Pairwise
      (Relation.TransGen fun node source => source ∈ strand.sources node) :=
    List.isChain_iff_pairwise.mp (hwalk.2.imp fun _ _ => .single)
  refine hpairwise.imp fun {node other} hreaches heq => ?_
  subst heq
  exact hacyclic node hreaches

/-- Without circles, a route is shorter than there are nodes. -/
theorem forgets_size (hacyclic : ∀ index,
    ¬ Relation.TransGen (fun node source => source ∈ strand.sources node) index
    index) : strand.Forgets strand.size := by
  apply forgets_of_routes
  intro index hindex stop hroute
  obtain ⟨walk, hwalk, hlength⟩ := hroute.exists_walk
  exact hwalk.not_nodup hindex hlength (hwalk.nodup hacyclic)

/-- A route that only goes up has no delay. -/
theorem Route.delay_eq_zero (hroute : strand.Route start stop delay)
    (hstart : start < strand.size)
    (hordered : ∀ index < strand.size, ∀ source ∈ strand.sources index,
      source < index) :
    delay = 0 := by
  induction hroute with
  | here node => rfl
  | step _ hsource _ ih =>
      rw [ih (strand.sources_lt hsource), lag,
        if_pos (hordered _ hstart _ hsource)]

/-- If every node comes behind its sources, one sweep forgets the first state.
-/
theorem forgets_one
    (hordered : ∀ index < strand.size, ∀ source ∈ strand.sources index,
      source < index) :
    strand.Forgets 1 := by
  apply forgets_of_routes
  intro index hindex stop hroute
  exact Nat.one_ne_zero (hroute.delay_eq_zero hindex hordered)

end Strand

/-- A graph is acyclic if some number of each node goes down toward what flows
into it. -/
theorem Direction.acyclic_of_rank {direction : Direction} {graph : Graph}
    (rank : Nat → Nat)
    (hrank : ∀ index < graph.size, ∀ source ∈ direction.neighbors graph index,
      rank source < rank index) : direction.Acyclic graph := by
  intro index hindex hcircle
  have hdown : ∀ {other : Nat},
      Relation.TransGen
          (fun node source => source ∈ direction.neighbors graph node)
          index other →
        other < graph.size ∧ rank other < rank index := by
    intro other hreaches
    induction hreaches with
    | single hsource =>
        exact ⟨neighbors_lt hsource, hrank index hindex _ hsource⟩
    | tail _ hsource ih =>
        exact ⟨neighbors_lt hsource, (hrank _ ih.1 _ hsource).trans ih.2⟩
  exact (hdown hcircle).2.false

theorem Direction.Acyclic.not_transGen {direction : Direction} {graph : Graph}
    (hacyclic : direction.Acyclic graph) (index : Nat) :
    ¬ Relation.TransGen
      (fun node source => source ∈ direction.neighbors graph node)
      index index := by
  intro hcircle
  obtain ⟨node, -, hlast⟩ := Relation.TransGen.tail'_iff.mp hcircle
  exact hacyclic index (neighbors_lt hlast) hcircle

namespace System

variable {system : System} {graph : Graph} {direction : Direction} {count : Nat}

/-- A run over a valid system ends by itself once some pass changes nothing. -/
theorem Valid.solve_of_quiet (hvalid : system.Valid)
    (hquiet :
      ((after graph direction count system).pass graph direction).changed =
        false) :
    (system.solve graph direction).settled = true ∧
      (system.solve graph direction).fault = none ∧
      (system.solve graph direction).passes ≤ count + 1 := by
  have hwell := hvalid.wellFormed_adopted
  obtain ⟨hafter, hadopted⟩ := hvalid.after_adopted graph direction count
  have hquiet' :
      ((after graph direction count system.adopted).pass graph
          direction).changed =
        false := by
    rw [hadopted, (hafter.pass_adopted graph direction).changed, hquiet]
  obtain ⟨first, hlimit, hfirst⟩ :=
    exists_quiet_lt_passLimit hwell ⟨count, hquiet'⟩
  obtain ⟨hfault, -, hsettled⟩ :=
    hvalid.run_adopted graph direction (system.passLimit graph)
  have hends : (system.solve graph direction).settled = true :=
    hsettled.symm.trans (run_spec hwell hlimit hfirst).1.settled
  exact ⟨hends, hfault, (passes_le_iff hends count).mpr hquiet⟩

/-- A system that forgets its out sets settles one pass later at most. -/
theorem Valid.solve_of_forgets (hvalid : system.Valid)
    (hforgets : ∀ fact, (system.strand graph direction fact).Forgets count) :
    (system.solve graph direction).settled = true ∧
      (system.solve graph direction).fault = none ∧
      (system.solve graph direction).passes ≤ count + 1 := by
  apply hvalid.solve_of_quiet
  rw [hvalid.after_quiet_iff]
  intro fact _
  exact (hforgets fact).stable _

theorem Valid.solve_state_of_forgets (hvalid : system.Valid)
    (hforgets : ∀ fact, (system.strand graph direction fact).Forgets count)
    (fact : Text) :
    (system.solve graph direction).system.state graph fact =
      (system.strand graph direction fact).sweep^[count]
        (system.state graph fact) := by
  obtain ⟨hsettled, -, hpasses⟩ := hvalid.solve_of_forgets hforgets
  rw [solve_eq_after hsettled hpasses, hvalid.after_state,
    Function.iterate_succ_apply']
  exact ((hforgets fact).stable _).sweep_eq

theorem Valid.solves_of_forgets (hvalid : system.Valid)
    (hforgets : ∀ fact, (system.strand graph direction fact).Forgets count) :
    system.Solves graph direction
      ((system.solve graph direction).system.outs graph) := by
  rw [solves_iff]
  intro fact
  rw [decide_mem_outs, hvalid.solve_state_of_forgets hforgets]
  exact (hforgets fact).stable _

/-- There is no solution but the one that the run ends in. -/
theorem Valid.eq_outs_of_solves (hvalid : system.Valid)
    (hforgets : ∀ fact, (system.strand graph direction fact).Forgets count)
    {assignment : Nat → Set Text}
    (hsolves : system.Solves graph direction assignment) {index : Nat}
    (hindex : index < graph.size) :
    assignment index =
      (system.solve graph direction).system.outs graph index := by
  classical
  ext fact
  have hstable := (solves_iff system graph direction assignment).mp hsolves fact
  have hstate :=
    (hforgets fact).eq_of_stable (system.state graph fact) hstable hindex
  rw [← hvalid.solve_state_of_forgets hforgets] at hstate
  exact decide_eq_true_iff.symm.trans (Bool.eq_iff_iff.mp hstate.symm)

/-- From whatever out sets it starts, a run over an acyclic graph ends by
itself, after one pass for each node and one more at most, in the only solution
of the flow equations.  So where it ends is a matter of the gen and kill sets
alone.  Two passes are enough if the nodes are in the order of the flow. -/
theorem solve_unique_of_acyclic (hvalid : system.validate = .ok ())
    (hacyclic : direction.Acyclic graph) :
    (system.solve graph direction).settled = true ∧
      (system.solve graph direction).fault = none ∧
      (system.solve graph direction).passes ≤ graph.size + 1 ∧
      system.Solves graph direction
        ((system.solve graph direction).system.outs graph) ∧
      (∀ assignment, system.Solves graph direction assignment →
        ∀ index < graph.size,
          assignment index =
            (system.solve graph direction).system.outs graph index) ∧
      (∀ other : System, other.validate = .ok () →
        (∀ index < graph.size, SameRule graph other system index) →
        ∀ index < graph.size,
          (other.solve graph direction).system.outs graph index =
            (system.solve graph direction).system.outs graph index) ∧
      (direction.Ordered graph →
        (system.solve graph direction).passes ≤ 2) := by
  have hforgets : ∀ (other : System) (fact : Text),
      (other.strand graph direction fact).Forgets graph.size :=
    fun other fact => Strand.forgets_size hacyclic.not_transGen
  rw [validate_eq_ok_iff] at hvalid
  obtain ⟨hsettled, hfault, hpasses⟩ :=
    hvalid.solve_of_forgets (hforgets system)
  refine ⟨hsettled, hfault, hpasses, hvalid.solves_of_forgets (hforgets system),
    fun assignment hsolves index hindex =>
      hvalid.eq_outs_of_solves (hforgets system) hsolves hindex,
    fun other hother hsame index hindex => ?_, fun hordered => ?_⟩
  · rw [validate_eq_ok_iff] at hother
    have hsolves :=
      (hother.solves_of_forgets (hforgets other)).of_sameRule hsame
    exact hvalid.eq_outs_of_solves (hforgets system) hsolves hindex
  · exact (hvalid.solve_of_forgets fun fact => Strand.forgets_one hordered).2.2

def descent : Graph where
  ident := 0
  nodes := [{ name := "c", label := "c" }, { name := "b", label := "b" },
    { name := "a", label := "a" }]
  edges := [{ source := 2, target := 1 }, { source := 1, target := 0 }]
  ends_lt := by simp
  labels_distinct := by decide

/-- The fact is everywhere at first but in the middle, where the set of no
universe was left. -/
def descentSystem : System :=
  { ringStart with out := ringStart.out.set (descent.site 1) .zero }

/-- The out set of the first node changes in three passes before it comes to
rest; a run without any fact at first ends there at once.  In the other
direction, two passes are enough. -/
theorem solve_unique_of_acyclic_descent :
    descentSystem.validate = .ok () ∧ emptyRing.validate = .ok () ∧
      Direction.Acyclic .forward descent ∧ Direction.Acyclic .backward descent ∧
      Direction.Ordered .backward descent ∧
      (descentSystem.solve descent .forward).passes = 4 ∧
      (emptyRing.solve descent .forward).passes = 1 ∧
      (∀ index < descent.size,
        (emptyRing.solve descent .forward).system.outs descent index =
          (descentSystem.solve descent .forward).system.outs descent index) ∧
      (descentSystem.solve descent .backward).passes ≤ 2 := by
  have hvalid : descentSystem.validate = .ok () := by rfl
  have hempty : emptyRing.validate = .ok () := rfl
  have hacyclic : Direction.Acyclic .forward descent :=
    Direction.acyclic_of_rank (fun index => 2 - index) (by decide)
  have hordered : Direction.Ordered .backward descent := by decide
  have hbackward : Direction.Acyclic .backward descent :=
    Direction.acyclic_of_rank id hordered
  obtain ⟨-, -, -, -, -, hother, -⟩ := solve_unique_of_acyclic hvalid hacyclic
  obtain ⟨-, -, -, -, -, -, htwo⟩ := solve_unique_of_acyclic hvalid hbackward
  exact ⟨hvalid, hempty, hacyclic, hbackward, hordered, by decide +kernel,
    by decide +kernel,
    hother emptyRing hempty fun _ _ => ⟨rfl, rfl⟩, htwo hordered⟩

end System

end GenKill
