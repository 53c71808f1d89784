import GenKill.Proofs.Graph.Ledger
import GenKill.Proofs.Graph.Reach
import Mathlib.Data.List.Nodup
import Mathlib.Logic.Function.Iterate

/-!
# Searching the multigraph of a ledger

A depth-first search can as well run over the multigraph that a ledger keeps,
which lists the nodes behind a node in an order of its own.  The search ends,
and it leaves unvisited what the walk over the graph finds unreachable: in both
cases these are the nodes without a path.
-/

namespace GenKill

/-- A list of the nodes to which lines lead from a node, in any order. -/
def Multigraph.ListsTargets {View : Type} (operations : Multigraph View)
    (targets : View → Nat → List Nat) : Prop :=
  ∀ view source target,
    target ∈ targets view source ↔ operations.hasEdge view source target = true

/-- The nodes that a depth-first search has visited, and those it has put aside,
the last one first. -/
structure Search where
  visited : List Nat := []
  stack : List Nat

namespace Search

variable {graph : Graph} {targets : Nat → List Nat} {start : Nat}
  {search : Search}

/-- Takes the top of the stack.  If it is new it is visited, and what comes
behind it and has not been visited goes on the stack, one node after the
other. -/
def step (targets : Nat → List Nat) (search : Search) : Search :=
  match search.stack with
  | [] => search
  | index :: stack =>
      if index ∈ search.visited then { search with stack }
      else
        let visited := index :: search.visited
        let pushed := (targets index).filter fun target => target ∉ visited
        { visited, stack := pushed.reverse ++ stack }

/-- The search has got as far as its two lists say. -/
def IsOn (graph : Graph) (start : Nat) (search : Search) : Prop :=
  graph.Searches start search.visited search.stack ∧ search.visited.Nodup

theorem step_of_visited {index : Nat} {stack : List Nat}
    (hstack : search.stack = index :: stack)
    (hvisited : index ∈ search.visited) :
    step targets search = { search with stack } := by
  rw [step, hstack]
  exact if_pos hvisited

theorem step_of_new {index : Nat} {stack : List Nat}
    (hstack : search.stack = index :: stack) (hnew : index ∉ search.visited) :
    step targets search =
      { visited := index :: search.visited
        stack := ((targets index).filter fun target =>
          target ∉ index :: search.visited).reverse ++ stack } := by
  rw [step, hstack]
  exact if_neg hnew

/-- A step keeps the search on its way, in whichever order it is told the
targets. -/
theorem IsOn.step (htargets : ∀ source target,
      target ∈ targets source ↔ graph.hasEdge source target = true)
    (hon : search.IsOn graph start) :
    (step targets search).IsOn graph start := by
  obtain ⟨hsearches, hnodup⟩ := hon
  cases hstack : search.stack with
  | nil =>
      rw [Search.step, hstack]
      exact ⟨hsearches, hnodup⟩
  | cons index stack =>
      rw [hstack] at hsearches
      by_cases hvisited : index ∈ search.visited
      · rw [step_of_visited hstack hvisited]
        exact ⟨hsearches.skip hvisited, hnodup⟩
      · rw [step_of_new hstack hvisited]
        refine ⟨hsearches.visit (fun target hpushed => ?_)
          (fun target hedge => ?_), List.nodup_cons.mpr ⟨hvisited, hnodup⟩⟩
        · rw [List.mem_reverse] at hpushed
          exact (htargets index target).mp (List.mem_of_mem_filter hpushed)
        · by_cases htarget : target ∈ index :: search.visited
          · exact .inl htarget
          · refine .inr
              (List.mem_reverse.mpr
                (List.mem_filter.mpr ⟨?_, decide_eq_true htarget⟩))
            exact (htargets index target).mpr hedge

/-- The search ends: a step visits one of finitely many nodes, or makes the
stack shorter. -/
theorem IsOn.exists_ended (hstart : start < graph.size)
    (htargets : ∀ source target,
      target ∈ targets source ↔ graph.hasEdge source target = true)
    (hon : search.IsOn graph start) :
    ∃ steps visited,
      (Search.step targets)^[steps] search = { visited, stack := [] } ∧
        IsOn graph start { visited, stack := [] } := by
  obtain ⟨visited, stack⟩ := search
  induction hleft : (graph.unvisited visited).length using Nat.strongRecOn
      generalizing visited stack with
  | ind left ihVisit =>
      induction stack with
      | nil => exact ⟨0, visited, rfl, hon⟩
      | cons index stack ihSkip =>
          have hnext := hon.step htargets
          by_cases hvisited : index ∈ visited
          · rw [step_of_visited rfl hvisited] at hnext
            obtain ⟨steps, last, hended, hlast⟩ := ihSkip hnext
            refine ⟨steps + 1, last, ?_, hlast⟩
            rw [Function.iterate_succ_apply, step_of_visited rfl hvisited]
            exact hended
          · rw [step_of_new rfl hvisited] at hnext
            have hindex : index < graph.size :=
              hon.1.lt_size hstart List.mem_cons_self
            have hless := Graph.length_unvisited_cons hindex hvisited
            obtain ⟨steps, last, hended, hlast⟩ :=
              ihVisit _ (hleft ▸ hless) _ _ hnext rfl
            refine ⟨steps + 1, last, ?_, hlast⟩
            rw [Function.iterate_succ_apply, step_of_new rfl hvisited]
            exact hended

end Search

namespace Ledgers

/-- The ends of the lines that start at a node, with repetitions. -/
def listedTargets (view : List Nat × List Line) (source : Nat) : List Nat :=
  (view.2.filter fun line => line.source = source).map Line.target

theorem listsTargets_listed : listed.ListsTargets listedTargets := by
  intro view source target
  simp [listed, listedTargets, and_assoc]

end Ledgers

namespace Graph

theorem pairwise_unreachable (graph : Graph) (start : Nat) :
    (graph.unreachable start).Pairwise (· < ·) :=
  List.pairwise_lt_range.filter _

/-- The nodes that are listed as unreachable are, each once and in order, those
to which no path leads from the entry; so the entry is not among them.  A
depth-first search over any multigraph that mirrors the graph ends, and visits
the others. -/
theorem unreachable_exact (graph : Graph) {entry : Nat}
    (hentry : entry < graph.size) :
    (graph.unreachable entry).Pairwise (· < ·) ∧
      (∀ index, index ∈ graph.unreachable entry ↔
        index < graph.size ∧ ¬ graph.Reaches entry index) ∧
      entry ∉ graph.unreachable entry ∧
      ∀ {View : Type} {operations : Multigraph View}
        {targets : View → Nat → List Nat}
        {ledger : Ledger View},
          operations.Lawful → operations.ListsTargets targets →
          ledger.Mirrors operations graph →
          ∃ steps visited,
            (Search.step (targets ledger.view))^[steps] { stack := [entry] } =
              { visited, stack := [] } ∧ visited.Nodup ∧
            graph.unreachable entry =
              (List.range graph.size).filter fun index => index ∉ visited := by
  refine ⟨graph.pairwise_unreachable entry,
    fun index => mem_unreachable_iff hentry, ?_, ?_⟩
  · intro hlisted
    exact ((mem_unreachable_iff hentry).mp hlisted).2 .refl
  · intro View operations targets ledger hlawful htargets hmirrors
    have hedges : ∀ source target,
        target ∈ targets ledger.view source ↔
          graph.hasEdge source target = true := by
      intro source target
      rw [htargets, hmirrors.hasEdge_eq hlawful]
    have hstarts : Search.IsOn graph entry { stack := [entry] } :=
      ⟨Searches.init graph entry, List.nodup_nil⟩
    obtain ⟨steps, visited, hended, hsearches, hnodup⟩ :=
      hstarts.exists_ended hentry hedges
    refine ⟨steps, visited, hended, hnodup, ?_⟩
    apply List.filter_congr
    intro index _
    have hsame : index ∈ graph.reachable entry ↔ index ∈ visited :=
      (mem_reachable_iff hentry).trans hsearches.mem_visited_iff.symm
    simp only [List.contains_eq_mem, hsame, decide_not]

/-- A node with an edge to itself and two to the next node, which leads back to
it; a node from which an edge leads there, but none to it; and a node alone. -/
def islandCalls : List GraphCall := [
  .addNode 0 "entry" "", .addNode 0 "loop" "", .addNode 0 "dead" "",
  .addNode 0 "exit" "", .addNode 0 "island" "",
  .edge 0 (.node ⟨0, 0, "entry"⟩) (.node ⟨0, 1, "loop"⟩),
  .edge 0 (.node ⟨0, 1, "loop"⟩) (.node ⟨0, 1, "loop"⟩),
  .edge 0 (.node ⟨0, 1, "loop"⟩) (.node ⟨0, 3, "exit"⟩),
  .edge 0 (.node ⟨0, 1, "loop"⟩) (.node ⟨0, 3, "exit"⟩),
  .edge 0 (.node ⟨0, 2, "dead"⟩) (.node ⟨0, 3, "exit"⟩),
  .edge 0 (.node ⟨0, 3, "exit"⟩) (.node ⟨0, 1, "loop"⟩)]

def islands : Graph := (play Workbench.grow {} islandCalls).1.graph 0

def islandLedger : Ledger (List Nat × List Line) :=
  (play (Ledgers.grow Ledgers.listed) (Ledgers.fresh Ledgers.listed)
    islandCalls).1 0

theorem unreachable_islands : islands.unreachable 0 = [2, 4] := by
  have hsize : islands.size = 5 := by decide +kernel
  have hentry : islands.successors 0 = [1] := by decide +kernel
  have hloop : islands.successors 1 = [1, 3, 3] := by decide +kernel
  have hexit : islands.successors 3 = [1] := by decide +kernel
  have hreachable : islands.reachable 0 = [3, 1, 0] := by
    simp [reachable, walk, hsize, hentry, hloop, hexit]
  rw [unreachable, hreachable, hsize]
  rfl

theorem unreachable_exact_islands :
    0 < islands.size ∧ Ledgers.listed.Lawful ∧
      Ledgers.listed.ListsTargets Ledgers.listedTargets ∧
      islandLedger.Mirrors Ledgers.listed islands ∧
      (∀ index, index ∈ [2, 4] ↔
        index < islands.size ∧ ¬ islands.Reaches 0 index) ∧
      ∃ steps visited,
        (Search.step (Ledgers.listedTargets islandLedger.view))^[steps]
            { stack := [0] } =
          { visited, stack := [] } ∧
        [2, 4] = (List.range islands.size).filter fun index =>
          index ∉ visited := by
  have hentry : 0 < islands.size := by decide +kernel
  have hmirrors : islandLedger.Mirrors Ledgers.listed islands :=
    (Ledgers.mirrors_play Ledgers.listed_lawful islandCalls).2.ledger 0
  obtain ⟨-, hmem, -, hsearch⟩ := unreachable_exact islands hentry
  obtain ⟨steps, visited, hended, -, hlisted⟩ :=
    hsearch Ledgers.listed_lawful Ledgers.listsTargets_listed hmirrors
  rw [unreachable_islands] at hmem hlisted
  exact ⟨hentry, Ledgers.listed_lawful, Ledgers.listsTargets_listed, hmirrors,
    hmem, steps, visited, hended, hlisted⟩

end Graph

end GenKill
