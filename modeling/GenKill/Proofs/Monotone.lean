import GenKill.Proofs.Validity

/-!
# Analyses that find less

An analysis finds less if nodes make fewer facts and lose more of them, if fewer
facts are there at first, and if more flows into a node, since a fact has to
come from everywhere.  One exception makes the last point delicate: nothing
flows out of an empty meet, so the first edge into a node lets facts in where
none came before.  As long as no edge is the first, the out sets stay below
those of the other analysis through every visit of every pass.
-/

namespace GenKill

/-- The second graph is the first one with further edges, none of which is the
first to flow into its node. -/
structure Direction.Widens (direction : Direction) (graph wider : Graph) :
    Prop where
  size : wider.size = graph.size
  hasEdge : ∀ source target, graph.hasEdge source target = true →
    wider.hasEdge source target = true
  first : ∀ index < graph.size, direction.neighbors graph index = [] →
    direction.neighbors wider index = []

namespace Direction.Widens

variable {direction : Direction} {graph wider : Graph}

theorem refl (direction : Direction) (graph : Graph) :
    direction.Widens graph graph :=
  ⟨rfl, fun _ _ hedge => hedge, fun _ _ hnone => hnone⟩

theorem neighbors_subset (hwidens : direction.Widens graph wider)
    (index : Nat) :
    direction.neighbors graph index ⊆ direction.neighbors wider index := by
  intro other hother
  rw [mem_neighbors_iff] at hother ⊢
  by_cases hdirection : direction = backward
  · rw [if_pos hdirection] at hother ⊢
    exact hwidens.hasEdge index other hother
  · rw [if_neg hdirection] at hother ⊢
    exact hwidens.hasEdge other index hother

end Direction.Widens

namespace System

/-- The first analysis makes fewer facts at each node, loses more of them, and
has fewer facts at first. -/
structure Below (leftGraph rightGraph : Graph) (left right : System) :
    Prop where
  initial : left.out.default.members ⊆ right.out.default.members
  gen : ∀ index < leftGraph.size,
    (left.gen.get (leftGraph.site index)).members ⊆
      (right.gen.get (rightGraph.site index)).members
  kill : ∀ index < leftGraph.size,
    (right.kill.get (rightGraph.site index)).members ⊆
      (left.kill.get (leftGraph.site index)).members

section

variable {direction : Direction} {graph wider : Graph} {left right : System}

/-- An analysis below another one, over a wider graph, is below it fact by fact.
-/
theorem Below.strand (hbelow : Below wider graph left right)
    (hwidens : direction.Widens graph wider) (fact : Text) :
    (left.strand wider direction fact).Below
      (right.strand graph direction fact) where
  size := hwidens.size
  sources index _ := hwidens.neighbors_subset index
  empty index hindex := hwidens.first index (hwidens.size ▸ hindex)
  made index hindex hmade := hbelow.gen index hindex hmade
  lost index hindex hlost := hbelow.kill index hindex hlost

/-- The order of two fresh systems lasts through any number of sweeps. -/
theorem Below.sweeps (hbelow : Below wider graph left right)
    (hwidens : direction.Widens graph wider) (hleft : left.Fresh wider)
    (hright : right.Fresh graph) (fact : Text) (count : Nat) :
    (left.strand wider direction fact).Toward true
      ((left.strand wider direction fact).sweep^[count] (left.state wider fact))
      ((right.strand graph direction fact).sweep^[count]
        (right.state graph fact)) := by
  apply (hbelow.strand hwidens fact).iterate
  intro index hindex hstate
  rw [hleft.untouched.state_eq fact hindex] at hstate
  rw [hright.untouched.state_eq fact (hwidens.size ▸ hindex)]
  exact hbelow.initial hstate

/-- Out sets are monotone.  They become no larger at any node, after any number
of passes and at the end of the run, if fewer facts are made, more are lost,
fewer are there at first, or if the graph has further edges, none of which is
the first to flow into its node. -/
theorem outs_subset_of_below (hwidens : direction.Widens graph wider)
    (hbelow : Below wider graph left right) (hleft : left.Fresh wider)
    (hright : right.Fresh graph) :
    (∀ count, ∀ index < graph.size,
      (after wider direction count left).outs wider index ⊆
        (after graph direction count right).outs graph index) ∧
      (left.solve wider direction).settled = true ∧
      (right.solve graph direction).settled = true ∧
      ∀ index < graph.size,
        (left.solve wider direction).system.outs wider index ⊆
          (right.solve graph direction).system.outs graph index := by
  have hsweeps := hbelow.sweeps hwidens hleft hright
  have hsize : ∀ index < graph.size, index < wider.size :=
    fun index hindex => hindex.trans_eq hwidens.size.symm
  refine ⟨fun count index hindex fact hmem => ?_,
    (hleft.solve_ends direction).1, (hright.solve_ends direction).1,
    fun index hindex fact hmem => ?_⟩
  · have hstate := hsweeps fact count
    rw [← hleft.valid.after_state, ← hright.valid.after_state] at hstate
    exact hstate index (hsize index hindex) hmem
  · have hstate := hsweeps fact graph.size
    rw [← hright.solve_state, ← hwidens.size, ← hleft.solve_state] at hstate
    exact hstate index (hsize index hindex) hmem

/-- The ring with a shorter way to its third node. -/
def chordRing : Graph := ring.connect ⟨0, by decide⟩ ⟨2, by decide⟩

/-- A fact that is lost somewhere is found at no more nodes than before, nor is
it with a further edge that is not the first one into its node. -/
theorem outs_subset_of_below_ring :
    Direction.Widens .forward ring chordRing ∧
      (∀ graph, Below graph ring ringSystem ringStart) ∧
      ringSystem.Fresh ring ∧ ringSystem.Fresh chordRing ∧
      ringStart.Fresh ring ∧
      (∀ index < ring.size,
        (ringSystem.solve ring .forward).system.outs ring index ⊆
          (ringStart.solve ring .forward).system.outs ring index) ∧
      ∀ index < ring.size,
        (ringSystem.solve chordRing .forward).system.outs chordRing index ⊆
          (ringStart.solve ring .forward).system.outs ring index := by
  have hwidens : Direction.Widens .forward ring chordRing := by
    refine ⟨rfl, fun source target hedge => ?_, by decide⟩
    rw [Graph.hasEdge, List.any_eq_true] at hedge ⊢
    obtain ⟨edge, hmem, hends⟩ := hedge
    exact ⟨edge, List.mem_append_left _ hmem, hends⟩
  have hbelow : ∀ graph, Below graph ring ringSystem ringStart := by
    intro graph
    refine ⟨subset_rfl, fun _ _ => subset_rfl, fun _ _ fact hfact => ?_⟩
    exact Bool.noConfusion
      ((FactSet.contains_empty ringFacts fact).symm.trans hfact)
  have hring : ringSystem.Fresh ring :=
    reached_ringSystem.fresh untouched_ringSystem
  have hchord : ringSystem.Fresh chordRing :=
    reached_ringSystem.fresh fun _ _ => rfl
  have hstart : ringStart.Fresh ring := ⟨rfl, fun _ _ => rfl⟩
  have hsame :=
    outs_subset_of_below (.refl .forward ring) (hbelow ring) hring hstart
  have hwider := outs_subset_of_below hwidens (hbelow chordRing) hchord hstart
  exact ⟨hwidens, hbelow, hring, hchord, hstart, hsame.2.2.2, hwider.2.2.2⟩

end

end System

end GenKill
