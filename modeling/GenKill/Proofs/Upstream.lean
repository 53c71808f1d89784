import GenKill.Proofs.Graph.Reach
import GenKill.Proofs.Validity

/-!
# Flow is confined to paths

What an analysis finds at a node depends on the nodes from which facts can flow
to it, and on nothing else.  The sweeps of two analyses that agree upstream of a
node agree there pass by pass, although elsewhere they may have nothing in
common, not even the number of passes until they settle.
-/

namespace GenKill

/-- A path leads from one node to the other along the flow: along the edges, or
against them if the direction is backward. -/
def Direction.Upstream (direction : Direction) (graph : Graph)
    (other index : Nat) : Prop :=
  if direction = backward then graph.Reaches index other
  else graph.Reaches other index

namespace Direction.Upstream

variable {direction : Direction} {graph : Graph} {source other index : Nat}

theorem refl (direction : Direction) (graph : Graph) (index : Nat) :
    direction.Upstream graph index index := by
  rw [Upstream]
  split
  · exact .refl
  · exact .refl

/-- What flows into a node upstream is upstream. -/
theorem of_mem_neighbors (hupstream : direction.Upstream graph other index)
    (hsource : source ∈ direction.neighbors graph other) :
    direction.Upstream graph source index := by
  rw [mem_neighbors_iff] at hsource
  by_cases hdirection : direction = backward
  · rw [Upstream, if_pos hdirection] at hupstream ⊢
    rw [if_pos hdirection] at hsource
    exact hupstream.tail hsource
  · rw [Upstream, if_neg hdirection] at hupstream ⊢
    rw [if_neg hdirection] at hsource
    exact hupstream.head hsource

end Direction.Upstream

namespace Strand

/-- Strands that differ in nothing on a part of the nodes, into which nothing
flows from outside. -/
structure AlikeOn (part : Nat → Prop) (left right : Strand) : Prop where
  size : left.size = right.size
  sources : ∀ index, part index → left.sources index = right.sources index
  closed : ∀ index, part index → ∀ source ∈ left.sources index, part source
  made : ∀ index, part index → left.made index = right.made index
  lost : ∀ index, part index → left.lost index = right.lost index

namespace AlikeOn

variable {part : Nat → Prop} {left right : Strand}
  {leftState rightState : Nat → Bool}

theorem next_eq (halike : AlikeOn part left right)
    (hstate : ∀ index, part index → leftState index = rightState index)
    {index : Nat} (hindex : part index) :
    left.next leftState index = right.next rightState index := by
  have hall : (∀ source ∈ left.sources index, leftState source = true) ↔
      ∀ source ∈ left.sources index, rightState source = true := by
    refine forall₂_congr fun source hsource => ?_
    rw [hstate source (halike.closed index hindex source hsource)]
  rw [Bool.eq_iff_iff, next_eq_true_iff, next_eq_true_iff, hall,
    halike.sources index hindex, halike.made index hindex,
    halike.lost index hindex]

/-- Visits, wherever they are made, keep the states the same on the part. -/
theorem visit_eq (halike : AlikeOn part left right)
    (hstate : ∀ index, part index → leftState index = rightState index)
    (visited : Nat) :
    ∀ index, part index →
      left.visit leftState visited index =
        right.visit rightState visited index := by
  intro index hindex
  by_cases heq : index = visited
  · subst heq
    rw [visit_self, visit_self]
    exact halike.next_eq hstate hindex
  · rw [visit_of_ne heq, visit_of_ne heq]
    exact hstate index hindex

/-- What happens outside of the part never shows in it. -/
theorem iterate_eq (halike : AlikeOn part left right)
    (hstate : ∀ index, part index → leftState index = rightState index)
    (count : Nat) :
    ∀ index, part index →
      left.sweep^[count] leftState index =
        right.sweep^[count] rightState index :=
  iterate_related
    (fun left right => ∀ index, part index → left index = right index)
    halike.size (fun visited _ _ hstate => halike.visit_eq hstate visited)
    hstate count

end AlikeOn

end Strand

namespace System

variable {graph : Graph} {direction : Direction} {left right : System}
  {index : Nat}

/-- Systems with the same rules upstream of a node have strands that are alike
there. -/
theorem alikeOn_upstream
    (hsame : ∀ other < graph.size, direction.Upstream graph other index →
      SameRule graph left right other)
    (fact : Text) :
    Strand.AlikeOn
      (fun other => other < graph.size ∧ direction.Upstream graph other index)
      (left.strand graph direction fact)
        (right.strand graph direction fact) where
  size := rfl
  sources _ _ := rfl
  closed _ hother _ hsource :=
    ⟨Direction.neighbors_lt hsource, hother.2.of_mem_neighbors hsource⟩
  made other hother :=
    contains_eq_of_members (hsame other hother.1 hother.2).gen fact
  lost other hother :=
    contains_eq_of_members (hsame other hother.1 hother.2).kill fact

/-- What a run leaves at a node depends only on the rules upstream of it. -/
theorem solve_state_eq_of_upstream (hleft : left.Fresh graph)
    (hright : right.Fresh graph)
    (hinitial : left.out.default.members = right.out.default.members)
    (hindex : index < graph.size)
    (hsame : ∀ other < graph.size, direction.Upstream graph other index →
      SameRule graph left right other)
    (fact : Text) :
    (left.solve graph direction).system.state graph fact index =
      (right.solve graph direction).system.state graph fact index := by
  have hstart : ∀ other,
      other < graph.size ∧ direction.Upstream graph other index →
        left.state graph fact other = right.state graph fact other := by
    intro other hother
    rw [hleft.untouched.state_eq fact hother.1,
      hright.untouched.state_eq fact hother.1]
    exact contains_eq_of_members hinitial fact
  rw [hleft.solve_state, hright.solve_state]
  exact (alikeOn_upstream hsame fact).iterate_eq hstart graph.size index
    ⟨hindex, .refl direction graph index⟩

/-- Upstream of a node that the entry does not reach, there is no node that the
entry reaches. -/
theorem not_reaches_of_upstream {entry other : Nat}
    (hentry : graph.entry? = some entry)
    (hindex : index ∈ graph.unreachable entry)
    (hother : Direction.forward.Upstream graph other index) :
    ¬ graph.Reaches entry other := by
  intro hreaches
  rw [Graph.mem_unreachable_iff (Graph.entry?_lt hentry)] at hindex
  rw [Direction.Upstream, if_neg (by decide)] at hother
  exact hindex.2 (hreaches.trans hother)

/-- Two runs over fresh nodes, with the same initial set, end with the same out
set at a node if all nodes upstream of it make and lose the same facts in both.
In particular, whatever the nodes that the entry reaches make or lose, nothing
of it shows at a node listed as unreachable. -/
theorem solve_outs_eq_of_upstream (hleft : left.Fresh graph)
    (hright : right.Fresh graph)
    (hinitial : left.out.default.members = right.out.default.members) :
    (∀ direction, (left.solve graph direction).settled = true ∧
      (right.solve graph direction).settled = true ∧
      ∀ index < graph.size,
        (∀ other < graph.size, Direction.Upstream direction graph other index →
          SameRule graph left right other) →
        (left.solve graph direction).system.outs graph index =
          (right.solve graph direction).system.outs graph index) ∧
      ∀ entry, graph.entry? = some entry → ∀ index ∈ graph.unreachable entry,
        (∀ other < graph.size, ¬ graph.Reaches entry other →
          SameRule graph left right other) →
        (left.solve graph .forward).system.outs graph index =
          (right.solve graph .forward).system.outs graph index := by
  have houts : ∀ direction, ∀ index < graph.size,
      (∀ other < graph.size, Direction.Upstream direction graph other index →
        SameRule graph left right other) →
      (left.solve graph direction).system.outs graph index =
        (right.solve graph direction).system.outs graph index := by
    intro direction index hindex hsame
    ext fact
    exact Bool.eq_iff_iff.mp
      (solve_state_eq_of_upstream hleft hright hinitial hindex hsame fact)
  refine ⟨fun direction =>
    ⟨(hleft.solve_ends direction).1, (hright.solve_ends direction).1,
      houts direction⟩, fun entry hentry index hindex hsame => ?_⟩
  apply houts .forward index
    ((Graph.mem_unreachable_iff (Graph.entry?_lt hentry)).mp hindex).1
  intro other hother hupstream
  exact hsame other hother (not_reaches_of_upstream hentry hindex hupstream)

/-- An entry with its successor, and beside them two nodes in a circle from
which an edge leads to that successor. -/
def annex : Graph where
  ident := 0
  nodes := [{ name := "a", label := "a" }, { name := "b", label := "b" },
    { name := "c", label := "c" }, { name := "d", label := "d" }]
  edges := [{ source := 0, target := 1 }, { source := 2, target := 3 },
    { source := 3, target := 2 }, { source := 2, target := 1 }]
  ends_lt := by simp
  labels_distinct := by decide

/-- The fact is everywhere at first, and is lost in the circle. -/
def annexSystem : System :=
  { ringStart with kill := ringStart.kill.set (annex.site 2) ringFacts.full }

def annexEntrySystem : System :=
  { annexSystem with gen := annexSystem.gen.set (annex.site 0) ringFacts.full }

/-- What the entry makes costs the run one more pass, and does not show in the
circle. -/
theorem solve_outs_eq_of_upstream_annex :
    annexSystem.Fresh annex ∧ annexEntrySystem.Fresh annex ∧
      annexSystem.out.default.members = annexEntrySystem.out.default.members ∧
      annex.entry? = some 0 ∧ annex.unreachable 0 = [2, 3] ∧
      (∀ other < annex.size, ¬ annex.Reaches 0 other →
        SameRule annex annexSystem annexEntrySystem other) ∧
      (annexSystem.solve annex .forward).passes = 2 ∧
      (annexEntrySystem.solve annex .forward).passes = 3 ∧
      ∀ index ∈ [2, 3],
        (annexSystem.solve annex .forward).system.outs annex index =
          (annexEntrySystem.solve annex .forward).system.outs annex index := by
  have hleft : annexSystem.Fresh annex := ⟨rfl, fun _ _ => rfl⟩
  have hright : annexEntrySystem.Fresh annex := ⟨rfl, fun _ _ => rfl⟩
  have hreachable : annex.reachable 0 = [1, 0] := by
    simp [Graph.reachable, Graph.walk, Graph.successors, Graph.size, annex]
  have hlisted : annex.unreachable 0 = [2, 3] := by
    rw [Graph.unreachable, hreachable]
    rfl
  have hsame : ∀ other < annex.size, ¬ annex.Reaches 0 other →
      SameRule annex annexSystem annexEntrySystem other := by
    intro other _ hother
    have hentry : annex.site 0 ≠ annex.site other := by
      rw [Ne, Graph.site_inj]
      rintro rfl
      exact hother .refl
    refine ⟨?_, rfl⟩
    rw [annexEntrySystem, Property.get_set, if_neg hentry]
  obtain ⟨-, hconfined⟩ := solve_outs_eq_of_upstream hleft hright rfl
  refine ⟨hleft, hright, rfl, rfl, hlisted, hsame, by decide +kernel,
    by decide +kernel, ?_⟩
  intro index hindex
  exact hconfined 0 rfl index (hlisted ▸ hindex) hsame

end System

end GenKill
