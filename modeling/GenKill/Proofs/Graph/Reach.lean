import GenKill.Graph.Reach
import Mathlib.Data.List.Basic
import Mathlib.Logic.Relation

/-!
# What the depth-first walk finds

The walk visits exactly the nodes to which a path leads.  It finds nothing else
because it only follows edges.  It misses nothing because the nodes it owes a
visit are on its stack at all times: once the stack is empty, no edge leads out
of what has been visited.  All of this holds of any search with a stack, in
whatever order it puts nodes there, and whether or not it leaves out those that
it has visited (`Searches`).
-/

namespace GenKill.Graph

variable {graph : Graph} {visited stack : List Nat}
  {start source target index : Nat}

/-- A path of zero or more edges leads from one node to another. -/
def Reaches (graph : Graph) : Nat → Nat → Prop :=
  Relation.ReflTransGen fun source target => graph.hasEdge source target = true

theorem mem_successors_iff :
    target ∈ graph.successors source ↔ graph.hasEdge source target = true := by
  simp [successors, hasEdge]

theorem lt_of_hasEdge (hedge : graph.hasEdge source target = true) :
    target < graph.size := by
  rw [hasEdge, List.any_eq_true] at hedge
  obtain ⟨edge, hmem, hends⟩ := hedge
  rw [← (of_decide_eq_true hends).2]
  exact (graph.ends_lt edge hmem).2

/-! ### Searches -/

/-- How far a search with a stack has got.  It has come only to nodes that can
be reached, and where it has not been, it is still to go: no edge leads from a
visited node to one that is neither visited nor on the stack. -/
structure Searches (graph : Graph) (start : Nat) (visited stack : List Nat) :
    Prop where
  reached : ∀ index, index ∈ visited ∨ index ∈ stack → graph.Reaches start index
  started : start ∈ visited ∨ start ∈ stack
  owed : ∀ source ∈ visited, ∀ target, graph.hasEdge source target = true →
    target ∈ visited ∨ target ∈ stack

namespace Searches

theorem init (graph : Graph) (start : Nat) :
    Searches graph start [] [start] where
  reached index hindex := by
    rcases hindex with hnone | hstart
    · exact absurd hnone List.not_mem_nil
    · rw [List.mem_singleton.mp hstart]
      exact .refl
  started := .inr (List.mem_singleton_self start)
  owed source hsource := absurd hsource List.not_mem_nil

theorem lt_size (hsearches : Searches graph start visited stack)
    (hstart : start < graph.size) (hindex : index ∈ stack) :
    index < graph.size := by
  cases Relation.ReflTransGen.cases_tail
    (hsearches.reached index (.inr hindex)) with
  | inl heq => exact heq ▸ hstart
  | inr hlast =>
      obtain ⟨source, -, hedge⟩ := hlast
      exact lt_of_hasEdge hedge

/-- A node is visited, and the ends of its edges go on the stack, those that
have been visited or not. -/
theorem visit (hsearches : Searches graph start visited (index :: stack))
    {pushed : List Nat}
    (hpushed : ∀ target ∈ pushed, graph.hasEdge index target = true)
    (howed : ∀ target, graph.hasEdge index target = true →
      target ∈ index :: visited ∨ target ∈ pushed) :
    Searches graph start (index :: visited) (pushed ++ stack) := by
  have hindex : graph.Reaches start index :=
    hsearches.reached index (.inr List.mem_cons_self)
  refine ⟨fun other hother => ?_, ?_, fun source hsource target hedge => ?_⟩
  · rw [List.mem_cons, List.mem_append] at hother
    rcases hother with (rfl | hvisited) | (hnew | hstack)
    · exact hindex
    · exact hsearches.reached other (.inl hvisited)
    · exact hindex.tail (hpushed other hnew)
    · exact hsearches.reached other (.inr (List.mem_cons_of_mem index hstack))
  · rw [List.mem_cons, List.mem_append]
    rcases hsearches.started with hvisited | hstack
    · exact .inl (.inr hvisited)
    · rcases List.mem_cons.mp hstack with rfl | hstack
      · exact .inl (.inl rfl)
      · exact .inr (.inr hstack)
  · rw [List.mem_append]
    rcases List.mem_cons.mp hsource with rfl | hsource
    · exact (howed target hedge).imp_right .inl
    · rcases hsearches.owed source hsource target hedge with hvisited | hstack
      · exact .inl (List.mem_cons_of_mem index hvisited)
      · rcases List.mem_cons.mp hstack with rfl | hstack
        · exact .inl List.mem_cons_self
        · exact .inr (.inr hstack)

/-- A node that has been visited is taken off the stack. -/
theorem skip (hsearches : Searches graph start visited (index :: stack))
    (hvisited : index ∈ visited) : Searches graph start visited stack := by
  have hstack : ∀ other, other ∈ index :: stack →
      other ∈ visited ∨ other ∈ stack := by
    intro other hother
    rcases List.mem_cons.mp hother with rfl | hother
    · exact .inl hvisited
    · exact .inr hother
  refine ⟨fun other hother => ?_, hsearches.started.elim .inl (hstack start),
    ?_⟩
  · exact hsearches.reached other
      (hother.imp_right (List.mem_cons_of_mem index))
  · intro source hsource target hedge
    exact (hsearches.owed source hsource target hedge).elim .inl (hstack target)

/-- Once the stack is empty, every path from the start stays among the visited
nodes. -/
theorem mem_visited_iff (hsearches : Searches graph start visited []) :
    index ∈ visited ↔ graph.Reaches start index := by
  refine ⟨fun hindex => hsearches.reached index (.inl hindex),
    fun hreaches => ?_⟩
  induction hreaches with
  | refl => exact hsearches.started.resolve_right List.not_mem_nil
  | tail _ hedge ih =>
      exact (hsearches.owed _ ih _ hedge).resolve_right List.not_mem_nil

/-- The walk is a search that puts all successors on the stack. -/
theorem mem_walk_iff (hstart : start < graph.size)
    (hsearches : Searches graph start visited stack) :
    index ∈ graph.walk visited stack ↔ graph.Reaches start index := by
  fun_induction walk graph visited stack with
  | case1 visited => exact hsearches.mem_visited_iff
  | case2 visited head stack _ ih =>
      apply ih
      apply hsearches.visit
      · intro target htarget
        exact mem_successors_iff.mp (List.mem_reverse.mp htarget)
      · intro target hedge
        exact .inr (List.mem_reverse.mpr (mem_successors_iff.mpr hedge))
  | case3 visited head stack hskip ih =>
      have hhead : head < graph.size :=
        hsearches.lt_size hstart List.mem_cons_self
      have hvisited : head ∈ visited := by
        by_contra hnew
        exact hskip ⟨hhead, hnew⟩
      exact ih (hsearches.skip hvisited)

end Searches

/-- The search finds just the nodes that a path leads to. -/
theorem mem_reachable_iff (hstart : start < graph.size) :
    index ∈ graph.reachable start ↔ graph.Reaches start index :=
  (Searches.init graph start).mem_walk_iff hstart

theorem mem_unreachable_iff (hstart : start < graph.size) :
    index ∈ graph.unreachable start ↔
      index < graph.size ∧ ¬ graph.Reaches start index := by
  rw [unreachable, List.mem_filter, List.mem_range, Bool.not_eq_true',
    ← Bool.not_eq_true, List.contains_iff_mem, mem_reachable_iff hstart]

theorem entry?_lt {entry : Nat} (hentry : graph.entry? = some entry) :
    entry < graph.size := by
  unfold entry? at hentry
  split at hentry
  · cases hentry
  · rename_i hnodes
    cases hentry
    exact List.length_pos_iff.mpr (by simpa using hnodes)

end GenKill.Graph
