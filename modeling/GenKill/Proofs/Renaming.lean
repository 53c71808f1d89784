import GenKill.Proofs.Validity
import Mathlib.Logic.Equiv.Fin.Rotate

/-!
# Analyses with renamed nodes

The order in which nodes and edges were added decides what the passes of a run
see, and how many there are.  It does not decide where a run over fresh nodes
ends: that is the solution nearest to the initial set, and solutions have
nothing to do with order.  So two analyses that are the same up to the numbers
of their nodes have the same solution, although their runs cannot be compared
pass by pass.  Parallel edges make no difference either.
-/

namespace GenKill

namespace Strand

variable {left right strand : Strand} {goal : Bool} {state : Nat → Bool}

/-- A solution that no solution lies before, on the way from the uniform state
to `goal`. -/
structure Nearest (strand : Strand) (goal : Bool) (state : Nat → Bool) :
    Prop where
  stable : strand.Stable state
  toward : ∀ {solution : Nat → Bool}, strand.Stable solution →
    strand.Toward goal state solution

/-- From a uniform state, one sweep for each node leads to the nearest solution.
-/
theorem nearest_of_uniform
    (huniform : ∀ index < strand.size, state index = !goal) :
    strand.Nearest goal (strand.sweep^[strand.size] state) where
  stable := (advancing_of_uniform huniform).stable_iterate
  toward := fun hstable => (toward_of_uniform huniform).iterate_stable hstable _

/-- The first strand looks, from each of its nodes, like the second one from the
node of that name. -/
structure Maps (rename : Nat → Nat) (left right : Strand) : Prop where
  lt : ∀ index < left.size, rename index < right.size
  sources : ∀ index < left.size, ∀ other,
    other ∈ right.sources (rename index) ↔
      ∃ source ∈ left.sources index, rename source = other
  made : ∀ index < left.size, left.made index = right.made (rename index)
  lost : ∀ index < left.size, left.lost index = right.lost (rename index)

namespace Maps

variable {rename : Nat → Nat}

theorem next_eq (hmaps : Maps rename left right) (state : Nat → Bool)
    {index : Nat} (hindex : index < left.size) :
    left.next (state ∘ rename) index = right.next state (rename index) := by
  have hsources := hmaps.sources index hindex
  have hempty : left.sources index ≠ [] ↔
      right.sources (rename index) ≠ [] := by
    constructor
    · intro hleft
      obtain ⟨source, hsource⟩ := List.exists_mem_of_ne_nil _ hleft
      exact List.ne_nil_of_mem ((hsources _).mpr ⟨source, hsource, rfl⟩)
    · intro hright
      obtain ⟨other, hother⟩ := List.exists_mem_of_ne_nil _ hright
      obtain ⟨source, hsource, -⟩ := (hsources other).mp hother
      exact List.ne_nil_of_mem hsource
  have hall : (∀ source ∈ left.sources index, (state ∘ rename) source = true) ↔
      ∀ other ∈ right.sources (rename index), state other = true := by
    simp only [hsources, Function.comp_apply, forall_exists_index, and_imp,
      forall_apply_eq_imp_iff₂]
  rw [Bool.eq_iff_iff, next_eq_true_iff, next_eq_true_iff,
    hmaps.made index hindex, hmaps.lost index hindex, hempty, hall]

/-- A solution of the second strand is one of the first, read off by name. -/
theorem stable (hmaps : Maps rename left right) (hstable : right.Stable state) :
    left.Stable (state ∘ rename) := by
  intro index hindex
  rw [hmaps.next_eq state hindex]
  exact hstable (rename index) (hmaps.lt index hindex)

end Maps

/-- Strands that look alike in both ways have the same nearest solution. -/
theorem Nearest.eq_of_maps {rename back : Nat → Nat}
    {leftState rightState : Nat → Bool} (hleft : left.Nearest goal leftState)
    (hright : right.Nearest goal rightState) (hmaps : Maps rename left right)
    (hback : Maps back right left)
    (hinverse : ∀ index < left.size, back (rename index) = index) {index : Nat}
    (hindex : index < left.size) :
    leftState index = rightState (rename index) := by
  have hforth : leftState index = goal → rightState (rename index) = goal :=
    hleft.toward (hmaps.stable hright.stable) index hindex
  have hreturn : rightState (rename index) = goal → leftState index = goal := by
    intro hgoal
    have hstate :=
      hright.toward (hback.stable hleft.stable) (rename index)
        (hmaps.lt index hindex) hgoal
    rwa [Function.comp_apply, hinverse index hindex] at hstate
  by_cases hgoal : leftState index = goal
  · rw [hforth hgoal, hgoal]
  · have hother : rightState (rename index) ≠ goal := mt hreturn hgoal
    exact (Bool.eq_not.mpr hgoal).trans (Bool.eq_not.mpr hother).symm

end Strand

/-- A renaming of the nodes of a graph, as a function of their numbers. -/
def renumber {size target : Nat} (rename : Fin size → Fin target)
    (index : Nat) : Nat :=
  if hindex : index < size then rename ⟨index, hindex⟩ else index

theorem renumber_of_lt {size target : Nat} (rename : Fin size → Fin target)
    {index : Nat} (hindex : index < size) :
    renumber rename index = rename ⟨index, hindex⟩ :=
  dif_pos hindex

namespace System

/-- The second analysis is the first one with its nodes renamed: the same nodes
are connected, the initial sets are the same, and so are the gen and kill sets
of each node. -/
structure Renames (leftGraph rightGraph : Graph)
    (rename : Fin leftGraph.size ≃ Fin rightGraph.size) (left right : System) :
    Prop where
  hasEdge : ∀ source target : Fin leftGraph.size,
    leftGraph.hasEdge source target =
      rightGraph.hasEdge (rename source) (rename target)
  initial : left.out.default.members = right.out.default.members
  gen : ∀ index : Fin leftGraph.size,
    (left.gen.get (leftGraph.site index)).members =
      (right.gen.get (rightGraph.site (rename index))).members
  kill : ∀ index : Fin leftGraph.size,
    (left.kill.get (leftGraph.site index)).members =
      (right.kill.get (rightGraph.site (rename index))).members

namespace Renames

variable {leftGraph rightGraph : Graph}
  {rename : Fin leftGraph.size ≃ Fin rightGraph.size} {left right : System}

theorem symm (hrenames : Renames leftGraph rightGraph rename left right) :
    Renames rightGraph leftGraph rename.symm right left where
  hasEdge source target := by
    rw [hrenames.hasEdge, rename.apply_symm_apply, rename.apply_symm_apply]
  initial := hrenames.initial.symm
  gen index := by rw [hrenames.gen, rename.apply_symm_apply]
  kill index := by rw [hrenames.kill, rename.apply_symm_apply]

theorem mem_neighbors_iff
    (hrenames : Renames leftGraph rightGraph rename left right)
    (direction : Direction) (index other : Fin leftGraph.size) :
    (rename other : Nat) ∈ direction.neighbors rightGraph (rename index) ↔
      (other : Nat) ∈ direction.neighbors leftGraph index := by
  rw [Direction.mem_neighbors_iff, Direction.mem_neighbors_iff,
    hrenames.hasEdge, hrenames.hasEdge]

/-- Graphs that differ by a renaming have strands that do, for every fact. -/
theorem maps (hrenames : Renames leftGraph rightGraph rename left right)
    (direction : Direction) (fact : Text) :
    Strand.Maps (renumber rename) (left.strand leftGraph direction fact)
      (right.strand rightGraph direction fact) where
  lt index hindex := by
    rw [renumber_of_lt rename hindex]
    exact (rename _).isLt
  sources index hindex other := by
    rw [renumber_of_lt rename hindex]
    constructor
    · intro hother
      let source := rename.symm ⟨other, Direction.neighbors_lt hother⟩
      have hsource : (rename source).val = other :=
        congrArg Fin.val (rename.apply_symm_apply ⟨other, _⟩)
      refine ⟨source, ?_, (renumber_of_lt rename source.isLt).trans hsource⟩
      apply (hrenames.mem_neighbors_iff direction ⟨index, hindex⟩ source).mp
      rw [hsource]
      exact hother
    · rintro ⟨source, hsource, rfl⟩
      rw [renumber_of_lt rename (Direction.neighbors_lt hsource)]
      exact (hrenames.mem_neighbors_iff direction ⟨index, hindex⟩
        ⟨source, _⟩).mpr hsource
  made index hindex := by
    rw [renumber_of_lt rename hindex]
    exact contains_eq_of_members (hrenames.gen ⟨index, hindex⟩) fact
  lost index hindex := by
    rw [renumber_of_lt rename hindex]
    exact contains_eq_of_members (hrenames.kill ⟨index, hindex⟩) fact

end Renames

/-- The run of a fresh system ends at the nearest solution, fact by fact. -/
theorem Fresh.nearest {system : System} {graph : Graph}
    (hfresh : system.Fresh graph) (direction : Direction) (fact : Text) :
    (system.strand graph direction fact).Nearest
      (!system.out.default.contains fact)
      ((system.solve graph direction).system.state graph fact) := by
  rw [hfresh.solve_state]
  apply Strand.nearest_of_uniform
  intro index hindex
  rw [Bool.not_not]
  exact hfresh.untouched.state_eq fact hindex

/-- Runs over fresh nodes of two analyses that are the same up to the names and
the order of their nodes, and up to the order and the number of their edges, end
with the same out sets. -/
theorem solve_outs_eq_of_renames {leftGraph rightGraph : Graph}
    {rename : Fin leftGraph.size ≃ Fin rightGraph.size} {left right : System}
    (hrenames : Renames leftGraph rightGraph rename left right)
    (hleft : left.Fresh leftGraph) (hright : right.Fresh rightGraph)
    (direction : Direction) :
    (left.solve leftGraph direction).settled = true ∧
      (right.solve rightGraph direction).settled = true ∧
      ∀ index : Fin leftGraph.size,
        (left.solve leftGraph direction).system.outs leftGraph index =
          (right.solve rightGraph direction).system.outs rightGraph
            (rename index) := by
  refine ⟨(hleft.solve_ends direction).1, (hright.solve_ends direction).1,
    fun index => ?_⟩
  ext fact
  have hnear := hleft.nearest direction fact
  rw [contains_eq_of_members hrenames.initial fact] at hnear
  have hinverse : ∀ number < leftGraph.size,
      renumber rename.symm (renumber rename number) = number := by
    intro number hnumber
    rw [renumber_of_lt rename hnumber,
      renumber_of_lt rename.symm (rename _).isLt, rename.symm_apply_apply]
  have hstate :=
    hnear.eq_of_maps (hright.nearest direction fact)
      (hrenames.maps direction fact)
      (hrenames.symm.maps direction fact) hinverse index.isLt
  rw [renumber_of_lt rename index.isLt] at hstate
  exact Bool.eq_iff_iff.mp hstate

/-- The ring, begun at its second node and with an edge drawn twice. -/
def turnedRing : Graph where
  ident := 1
  nodes :=
    [{ name := "second", label := "b" }, { name := "third", label := "c" },
      { name := "first", label := [] }]
  edges := [{ source := 1, target := 2 }, { source := 2, target := 0 },
    { source := 0, target := 1 }, { source := 2, target := 0 }]
  ends_lt := by simp
  labels_distinct := by decide

def turnedRingSystem : System :=
  { ringStart with
    kill := ringStart.kill.set (turnedRing.site 0) ringFacts.full }

def turn : Fin ring.size ≃ Fin turnedRing.size := (finRotate 3).symm

theorem renames_turn :
    Renames ring turnedRing turn ringSystem turnedRingSystem := by
  have hgen : ∀ index : Fin ring.size, ringSystem.gen.get (ring.site index) =
      turnedRingSystem.gen.get (turnedRing.site (turn index)) := by decide
  have hkill : ∀ index : Fin ring.size, ringSystem.kill.get (ring.site index) =
      turnedRingSystem.kill.get (turnedRing.site (turn index)) := by decide
  exact ⟨by decide, rfl, fun index => congrArg FactSet.members (hgen index),
    fun index => congrArg FactSet.members (hkill index)⟩

/-- Begun where the fact is lost, the ring takes one pass less, to the same
end. -/
theorem solve_outs_eq_turn :
    Renames ring turnedRing turn ringSystem turnedRingSystem ∧
      ringSystem.Fresh ring ∧
      turnedRingSystem.Fresh turnedRing ∧
      (ringSystem.solve ring .forward).passes = 3 ∧
      (turnedRingSystem.solve turnedRing .forward).passes = 2 ∧
      ∀ index : Fin ring.size,
        (ringSystem.solve ring .forward).system.outs ring index =
          (turnedRingSystem.solve turnedRing .forward).system.outs turnedRing
            (turn index) := by
  have hleft : ringSystem.Fresh ring :=
    reached_ringSystem.fresh untouched_ringSystem
  have hright : turnedRingSystem.Fresh turnedRing := ⟨rfl, fun _ _ => rfl⟩
  exact ⟨renames_turn, hleft, hright, by decide +kernel, by decide +kernel,
    (solve_outs_eq_of_renames renames_turn hleft hright .forward).2.2⟩

end System

end GenKill
