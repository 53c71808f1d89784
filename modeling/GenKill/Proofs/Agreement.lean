import GenKill.Proofs.Pass

/-!
# Analyses that agree

Two analyses that have the same facts, whose graphs have the same nodes and
connect them the same way, and that agree on every set of every node, take the
same passes and stay in agreement.  Neither the names of the nodes nor the order
or the number of parallel edges matters.
-/

namespace GenKill

/-- The neighbors of a node depend on the ends of the edges only. -/
theorem Direction.mem_neighbors_congr {left right : Graph}
    (hedges : ∀ source target,
      (∃ edge ∈ left.edges, edge.source = source ∧ edge.target = target) ↔
        ∃ edge ∈ right.edges, edge.source = source ∧ edge.target = target)
    (direction : Direction) (index other : Nat) :
    other ∈ direction.neighbors left index ↔
      other ∈ direction.neighbors right index := by
  rw [neighbors, neighbors]
  split
  · simpa [Graph.successors, List.mem_filterMap] using hedges index other
  · simpa [Graph.predecessors, List.mem_filterMap, and_comm] using
      hedges other index

namespace Strand

/-- Strands that differ in nothing that a sweep looks at. -/
structure Alike (left right : Strand) : Prop where
  size : left.size = right.size
  sources : ∀ index < left.size, ∀ other,
    other ∈ left.sources index ↔ other ∈ right.sources index
  made : ∀ index < left.size, left.made index = right.made index
  lost : ∀ index < left.size, left.lost index = right.lost index

namespace Alike

theorem refl (strand : Strand) : strand.Alike strand :=
  ⟨rfl, fun _ _ _ => Iff.rfl, fun _ _ => rfl, fun _ _ => rfl⟩

variable {left right : Strand} {leftState rightState : Nat → Bool}

theorem symm (halike : Alike left right) : Alike right left := by
  have hlt : ∀ {index : Nat}, index < right.size → index < left.size :=
    fun hindex => hindex.trans_eq halike.size.symm
  exact ⟨halike.size.symm,
    fun index hindex other => (halike.sources index (hlt hindex) other).symm,
    fun index hindex => (halike.made index (hlt hindex)).symm,
    fun index hindex => (halike.lost index (hlt hindex)).symm⟩

theorem below (halike : Alike left right) : Below left right where
  size := halike.size
  sources index hindex other := (halike.sources index hindex other).mpr
  empty index hindex hright := by
    rw [List.eq_nil_iff_forall_not_mem] at hright ⊢
    exact fun other hother =>
      hright other ((halike.sources index hindex other).mp hother)
  made index hindex := (halike.made index hindex).symm.trans
  lost index hindex := (halike.lost index hindex).trans

theorem forall_eq_iff (halike : Alike left right) :
    (∀ index < left.size, leftState index = rightState index) ↔
      left.Toward true leftState rightState ∧
        right.Toward true rightState leftState := by
  constructor
  · intro hstate
    refine ⟨fun index hindex => (hstate index hindex).symm.trans,
      fun index hindex => ?_⟩
    exact (hstate index (hindex.trans_eq halike.size.symm)).trans
  · rintro ⟨hforth, hback⟩ index hindex
    rw [Bool.eq_iff_iff]
    exact ⟨hforth index hindex, hback index (hindex.trans_eq halike.size)⟩

theorem next_eq (halike : Alike left right)
    (hstate : ∀ index < left.size, leftState index = rightState index) :
    ∀ index < left.size,
      left.next leftState index = right.next rightState index := by
  rw [halike.forall_eq_iff] at hstate ⊢
  exact ⟨fun _ => halike.below.next hstate.1,
    fun _ => halike.symm.below.next hstate.2⟩

/-- Visits of strands that are alike do the same. -/
theorem sweepOver_eq (halike : Alike left right) (indices : List Nat)
    (hstate : ∀ index < left.size, leftState index = rightState index) :
    ∀ index < left.size,
      left.sweepOver indices leftState index =
        right.sweepOver indices rightState index := by
  rw [halike.forall_eq_iff] at hstate ⊢
  exact ⟨halike.below.sweepOver indices hstate.1,
    halike.symm.below.sweepOver indices hstate.2⟩

theorem iterate_eq (halike : Alike left right)
    (hstate : ∀ index < left.size, leftState index = rightState index)
    (count : Nat) :
    ∀ index < left.size,
      left.sweep^[count] leftState index =
        right.sweep^[count] rightState index := by
  rw [halike.forall_eq_iff] at hstate ⊢
  exact ⟨halike.below.iterate hstate.1 count,
    halike.symm.below.iterate hstate.2 count⟩

theorem stable_iff (halike : Alike left right)
    (hstate : ∀ index < left.size, leftState index = rightState index) :
    left.Stable leftState ↔ right.Stable rightState := by
  constructor
  · intro hstable index hindex
    rw [← halike.size] at hindex
    rw [← halike.next_eq hstate index hindex, ← hstate index hindex]
    exact hstable index hindex
  · intro hstable index hindex
    rw [halike.next_eq hstate index hindex, hstate index hindex]
    exact hstable index (halike.size ▸ hindex)

end Alike

end Strand

namespace System

/-- Analyses that cannot be told apart by the members of their sets. -/
structure Agrees (direction : Direction) (left : System) (leftGraph : Graph)
    (right : System) (rightGraph : Graph) : Prop where
  leftWell : left.WellFormed
  rightWell : right.WellFormed
  elements : left.facts.elements = right.facts.elements
  strands : ∀ fact,
    (left.strand leftGraph direction fact).Alike
      (right.strand rightGraph direction fact)
  states : ∀ fact, ∀ index < leftGraph.size,
    left.state leftGraph fact index = right.state rightGraph fact index

namespace Agrees

variable {direction : Direction} {left right : System}
  {leftGraph rightGraph : Graph}

/-- Passes over systems that agree change something in both, or in neither. -/
theorem changed_eq
    (hagrees : Agrees direction left leftGraph right rightGraph) :
    (left.pass leftGraph direction).changed =
      (right.pass rightGraph direction).changed := by
  have hquiet : (left.pass leftGraph direction).changed = false ↔
      (right.pass rightGraph direction).changed = false := by
    rw [pass_changed_eq_false_iff hagrees.leftWell,
      pass_changed_eq_false_iff hagrees.rightWell]
    exact forall_congr' fun fact =>
      (hagrees.strands fact).stable_iff (hagrees.states fact)
  cases hleft : (left.pass leftGraph direction).changed with
  | false => exact (hquiet.mp hleft).symm
  | true =>
      cases hright : (right.pass rightGraph direction).changed with
      | false =>
          rw [hquiet.mpr hright] at hleft
          cases hleft
      | true => rfl

/-- A pass keeps analyses in agreement. -/
theorem pass (hagrees : Agrees direction left leftGraph right rightGraph) :
    Agrees direction (left.pass leftGraph direction).system leftGraph
      (right.pass rightGraph direction).system rightGraph := by
  have hleft := pass_spec hagrees.leftWell leftGraph direction
  have hright := pass_spec hagrees.rightWell rightGraph direction
  have hsize := (hagrees.strands []).size
  refine ⟨hleft.wellFormed, hright.wellFormed, ?_, fun fact => ?_,
    fun fact => ?_⟩
  · obtain ⟨leftValues, hleftValues⟩ := hleft.records
    obtain ⟨rightValues, hrightValues⟩ := hright.records
    rw [hleftValues, hrightValues]
    exact hagrees.elements
  · obtain ⟨leftValues, hleftValues⟩ := hleft.records
    obtain ⟨rightValues, hrightValues⟩ := hright.records
    rw [hleftValues, hrightValues]
    exact hagrees.strands fact
  · have hrange : List.range rightGraph.size = List.range leftGraph.size :=
      congrArg List.range hsize.symm
    rw [hleft.state, hright.state, hrange]
    exact (hagrees.strands fact).sweepOver_eq _ (hagrees.states fact)

/-- Runs of analyses in agreement take the same passes, and end in agreement. -/
theorem run (hagrees : Agrees direction left leftGraph right rightGraph)
    (budget : Nat) :
    (System.run leftGraph direction budget left).passes =
        (System.run rightGraph direction budget right).passes ∧
      (System.run leftGraph direction budget left).settled =
        (System.run rightGraph direction budget right).settled ∧
      Agrees direction
        (System.run leftGraph direction budget left).system leftGraph
        (System.run rightGraph direction budget right).system rightGraph := by
  induction budget generalizing left right with
  | zero => exact ⟨rfl, rfl, hagrees⟩
  | succ budget ih =>
      have hchanged := hagrees.changed_eq
      cases hleft : (left.pass leftGraph direction).changed with
      | false =>
          rw [run_of_quiet hagrees.leftWell budget hleft,
            run_of_quiet hagrees.rightWell budget (hchanged ▸ hleft)]
          exact ⟨rfl, rfl, hagrees.pass⟩
      | true =>
          obtain ⟨hpasses, hsettled, hend⟩ := ih hagrees.pass
          rw [run_of_busy hagrees.leftWell budget hleft,
            run_of_busy hagrees.rightWell budget (hchanged ▸ hleft)]
          exact ⟨congrArg Nat.succ hpasses, hsettled, hend⟩

/-- Runs over systems that agree take as many passes, and leave systems that
agree. -/
theorem solve (hagrees : Agrees direction left leftGraph right rightGraph) :
    (left.solve leftGraph direction).passes =
        (right.solve rightGraph direction).passes ∧
      (left.solve leftGraph direction).settled =
        (right.solve rightGraph direction).settled ∧
      Agrees direction (left.solve leftGraph direction).system leftGraph
        (right.solve rightGraph direction).system rightGraph := by
  have hlimit : left.passLimit leftGraph = right.passLimit rightGraph := by
    have hsize : leftGraph.size = rightGraph.size := (hagrees.strands []).size
    rw [passLimit, passLimit, hsize, Universe.size, Universe.size,
      hagrees.elements]
  rw [System.solve, System.solve, hlimit]
  exact hagrees.run _

theorem out_elements_eq
    (hagrees : Agrees direction left leftGraph right rightGraph) {index : Nat}
    (hindex : index < leftGraph.size) :
    (left.out.get (leftGraph.site index)).elements =
      (right.out.get (rightGraph.site index)).elements := by
  rw [FactSet.elements_eq_filter (hagrees.leftWell.out.2 _),
    FactSet.elements_eq_filter (hagrees.rightWell.out.2 _), hagrees.elements]
  exact List.filter_congr fun fact _ => hagrees.states fact index hindex

end Agrees

end System

end GenKill
