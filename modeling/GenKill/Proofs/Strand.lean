import Mathlib.Data.Finset.Card
import Mathlib.Data.Finset.Range
import Mathlib.Logic.Function.Iterate

/-!
# The part of an analysis that concerns one fact

Facts do not influence each other: a pass decides for each fact by itself in
which out sets it is.  A strand is what the analysis says about one fact, and a
state of it is the set of nodes that have the fact.  A sweep visits the nodes in
order and in place, as a pass does.

States that start uniform move one way only: nodes leave their first value, if
at all, for the value `goal`, and never come back.  Both ways are treated at
once by stating everything for an arbitrary `goal`.
-/

namespace GenKill

/-- What an analysis says about one fact: which nodes flow into a node, and
which nodes make or lose the fact. -/
structure Strand where
  size : Nat
  sources : Nat → List Nat
  made : Nat → Bool
  lost : Nat → Bool
  sources_lt : ∀ {index other : Nat}, other ∈ sources index → other < size

namespace Strand

variable (strand : Strand)

/-- Whether everything that flows into a node has the fact; false if nothing
does. -/
def meets (state : Nat → Bool) (index : Nat) : Bool :=
  !(strand.sources index).isEmpty && (strand.sources index).all state

/-- What the flow equation of a node asks for. -/
def next (state : Nat → Bool) (index : Nat) : Bool :=
  (strand.meets state index && !strand.lost index) || strand.made index

def visit (state : Nat → Bool) (index : Nat) : Nat → Bool :=
  Function.update state index (strand.next state index)

def sweepOver (indices : List Nat) (state : Nat → Bool) : Nat → Bool :=
  indices.foldl strand.visit state

def sweep (state : Nat → Bool) : Nat → Bool :=
  strand.sweepOver (List.range strand.size) state

def Stable (state : Nat → Bool) : Prop :=
  ∀ index < strand.size, strand.next state index = state index

/-- Nodes that have the value `goal` in one state have it in the other. -/
def Toward (goal : Bool) (state later : Nat → Bool) : Prop :=
  ∀ index < strand.size, state index = goal → later index = goal

/-- Nodes that have the value `goal` are asked to keep it. -/
def Advancing (goal : Bool) (state : Nat → Bool) : Prop :=
  strand.Toward goal state (strand.next state)

variable {strand} {goal : Bool} {state later : Nat → Bool}

/-- A node has the fact if it makes it, or else if it does not lose it and all
sources have it. -/
theorem next_eq_true_iff (state : Nat → Bool) (index : Nat) :
    strand.next state index = true ↔
      strand.made index = true ∨
        strand.lost index = false ∧ strand.sources index ≠ [] ∧
          ∀ other ∈ strand.sources index, state other = true := by
  simp only [next, meets, Bool.or_eq_true, Bool.and_eq_true, Bool.not_eq_true',
    List.all_eq_true, List.isEmpty_eq_false_iff]
  tauto

/-! ### Moving toward a value -/

theorem Toward.refl (goal : Bool) (state : Nat → Bool) :
    strand.Toward goal state state :=
  fun _ _ hgoal => hgoal

theorem Toward.trans {first second third : Nat → Bool}
    (hleft : strand.Toward goal first second)
    (hright : strand.Toward goal second third) :
    strand.Toward goal first third :=
  fun index hindex hgoal => hright index hindex (hleft index hindex hgoal)

private theorem next_mono (htoward : strand.Toward true state later)
    {index : Nat} (hnext : strand.next state index = true) :
    strand.next later index = true := by
  rw [next_eq_true_iff] at hnext ⊢
  rcases hnext with hmade | ⟨hlost, hsources, hall⟩
  · exact .inl hmade
  · exact .inr ⟨hlost, hsources, fun other hother =>
      htoward other (strand.sources_lt hother) (hall other hother)⟩

/-- The flow equations are monotone, whichever value counts as the larger
one. -/
theorem next_toward (htoward : strand.Toward goal state later) {index : Nat}
    (hnext : strand.next state index = goal) :
    strand.next later index = goal := by
  cases goal with
  | true => exact next_mono htoward hnext
  | false =>
      have hreverse : strand.Toward true later state := by
        intro other hother hlater
        by_contra hstate
        rw [htoward other hother
          (Bool.eq_false_of_not_eq_true hstate)] at hlater
        exact Bool.noConfusion hlater
      by_contra hlater
      rw [next_mono hreverse (Bool.eq_true_of_not_eq_false hlater)] at hnext
      exact Bool.noConfusion hnext

theorem visit_self (state : Nat → Bool) (index : Nat) :
    strand.visit state index index = strand.next state index :=
  Function.update_self ..

theorem visit_of_ne {index other : Nat} (hne : other ≠ index)
    (state : Nat → Bool) : strand.visit state index other = state other :=
  Function.update_of_ne hne ..

theorem Advancing.toward_visit (hadvancing : strand.Advancing goal state)
    (index : Nat) : strand.Toward goal state (strand.visit state index) := by
  intro other hother hgoal
  by_cases heq : other = index
  · subst heq
    rw [visit_self]
    exact hadvancing other hother hgoal
  · rw [visit_of_ne heq]
    exact hgoal

/-- Visiting a node keeps every node that has reached `goal`, the visited one
included. -/
theorem Advancing.visit (hadvancing : strand.Advancing goal state)
    (index : Nat) : strand.Advancing goal (strand.visit state index) := by
  intro other hother hgoal
  apply next_toward (hadvancing.toward_visit index)
  by_cases heq : other = index
  · subst heq
    rwa [visit_self] at hgoal
  · rw [visit_of_ne heq] at hgoal
    exact hadvancing other hother hgoal

/-- Visits keep a state advancing, whichever nodes they are made at. -/
theorem Advancing.sweepOver (hadvancing : strand.Advancing goal state)
    (indices : List Nat) :
    strand.Toward goal state (strand.sweepOver indices state) ∧
      strand.Advancing goal (strand.sweepOver indices state) := by
  induction indices generalizing state with
  | nil => exact ⟨.refl goal state, hadvancing⟩
  | cons head tail ih =>
      obtain ⟨htoward, hlast⟩ := ih (hadvancing.visit head)
      exact ⟨(hadvancing.toward_visit head).trans htoward, hlast⟩

theorem Advancing.toward_sweep (hadvancing : strand.Advancing goal state) :
    strand.Toward goal state (strand.sweep state) :=
  (hadvancing.sweepOver _).1

theorem Advancing.iterate (hadvancing : strand.Advancing goal state)
    (count : Nat) : strand.Advancing goal (strand.sweep^[count] state) := by
  induction count with
  | zero => exact hadvancing
  | succ count ih =>
      rw [Function.iterate_succ_apply']
      exact (ih.sweepOver _).2

theorem Advancing.toward_iterate (hadvancing : strand.Advancing goal state)
    {count later : Nat} (hle : count ≤ later) :
    strand.Toward goal (strand.sweep^[count] state)
      (strand.sweep^[later] state) := by
  induction later, hle using Nat.le_induction with
  | base => exact .refl goal _
  | succ later _ ih =>
      rw [Function.iterate_succ_apply']
      exact ih.trans (hadvancing.iterate later).toward_sweep

/-- A state that no node has moved in yet comes before every other. -/
theorem toward_of_uniform
    (huniform : ∀ index < strand.size, state index = !goal) :
    strand.Toward goal state later := by
  intro index hindex hgoal
  rw [huniform index hindex] at hgoal
  cases goal <;> exact Bool.noConfusion hgoal

/-- A uniform state advances, as no node has the goal yet. -/
theorem advancing_of_uniform
    (huniform : ∀ index < strand.size, state index = !goal) :
    strand.Advancing goal state :=
  toward_of_uniform huniform

/-! ### Bounds by solutions -/

theorem Toward.visit_stable {solution : Nat → Bool}
    (hstable : strand.Stable solution)
    (htoward : strand.Toward goal state solution) {index : Nat} :
    strand.Toward goal (strand.visit state index) solution := by
  intro other hother hgoal
  by_cases heq : other = index
  · subst heq
    rw [visit_self] at hgoal
    rw [← hstable other hother]
    exact next_toward htoward hgoal
  · rw [visit_of_ne heq] at hgoal
    exact htoward other hother hgoal

/-- Visits do not move a state past a solution. -/
theorem Toward.sweepOver_stable {solution : Nat → Bool}
    (hstable : strand.Stable solution)
    (htoward : strand.Toward goal state solution) (indices : List Nat) :
    strand.Toward goal (strand.sweepOver indices state) solution := by
  induction indices generalizing state with
  | nil => exact htoward
  | cons head tail ih => exact ih (htoward.visit_stable hstable)

/-- Sweeps never move past a solution. -/
theorem Toward.iterate_stable {solution : Nat → Bool}
    (hstable : strand.Stable solution)
    (htoward : strand.Toward goal state solution) (count : Nat) :
    strand.Toward goal (strand.sweep^[count] state) solution := by
  induction count with
  | zero => exact htoward
  | succ count ih =>
      rw [Function.iterate_succ_apply']
      exact ih.sweepOver_stable hstable _

/-! ### Sweeps that change nothing -/

theorem sweepOver_of_not_mem {indices : List Nat} {index : Nat}
    (hindex : index ∉ indices) (state : Nat → Bool) :
    strand.sweepOver indices state index = state index := by
  induction indices generalizing state with
  | nil => rfl
  | cons head tail ih =>
      rw [List.mem_cons, not_or] at hindex
      exact (ih hindex.2 _).trans (visit_of_ne hindex.1 state)

theorem visit_eq_self {index : Nat}
    (hnext : strand.next state index = state index) :
    strand.visit state index = state := by
  rw [visit, hnext, Function.update_eq_self]

theorem Stable.sweep_eq (hstable : strand.Stable state) :
    strand.sweep state = state := by
  have hover : ∀ indices : List Nat, (∀ index ∈ indices, index < strand.size) →
      strand.sweepOver indices state = state := by
    intro indices hindices
    induction indices with
    | nil => rfl
    | cons head tail ih =>
        rw [sweepOver, List.foldl_cons,
          visit_eq_self (hstable head (hindices head (by simp)))]
        exact ih fun index hindex =>
          hindices index (List.mem_cons_of_mem _ hindex)
  exact hover _ fun index hindex => List.mem_range.mp hindex

/-- Each node is visited once, so a node that ends where it began satisfied its
equation. -/
theorem next_eq_of_sweepOver_eq {indices : List Nat} (hnodup : indices.Nodup)
    (heq : ∀ index ∈ indices,
      strand.sweepOver indices state index = state index) :
    ∀ index ∈ indices, strand.next state index = state index := by
  induction indices with
  | nil => simp
  | cons head tail ih =>
      obtain ⟨hhead, htail⟩ := List.nodup_cons.mp hnodup
      have hnext : strand.next state head = state head := by
        rw [← heq head (by simp), ← visit_self]
        exact (sweepOver_of_not_mem hhead _).symm
      intro index hindex
      rcases List.mem_cons.mp hindex with rfl | hindex
      · exact hnext
      · refine ih htail (fun other hother => ?_) index hindex
        have hother := heq other (List.mem_cons_of_mem _ hother)
        rwa [sweepOver, List.foldl_cons, visit_eq_self hnext] at hother

/-- A state that a sweep does not change is a solution. -/
theorem stable_of_sweep_eq
    (heq : ∀ index < strand.size, strand.sweep state index = state index) :
    strand.Stable state := by
  intro index hindex
  refine next_eq_of_sweepOver_eq List.nodup_range (fun other hother => ?_) index
    (List.mem_range.mpr hindex)
  exact heq other (List.mem_range.mp hother)

/-! ### How many sweeps it takes -/

def reached (strand : Strand) (goal : Bool) (state : Nat → Bool) : Nat :=
  ((Finset.range strand.size).filter fun index => state index = goal).card

theorem reached_le (goal : Bool) (state : Nat → Bool) :
    strand.reached goal state ≤ strand.size := by
  calc
    strand.reached goal state ≤ (Finset.range strand.size).card :=
      Finset.card_filter_le _ _
    _ = strand.size := Finset.card_range strand.size

/-- A sweep that changes something takes a new node to `goal`. -/
theorem Advancing.reached_lt (hadvancing : strand.Advancing goal state)
    (hunstable : ¬ strand.Stable state) :
    strand.reached goal state < strand.reached goal (strand.sweep state) := by
  obtain ⟨index, hindex, hchange⟩ :
      ∃ index < strand.size, strand.sweep state index ≠ state index := by
    by_contra hsame
    push Not at hsame
    exact hunstable (stable_of_sweep_eq hsame)
  have hbefore : state index ≠ goal := fun hgoal =>
    hchange ((hadvancing.toward_sweep index hindex hgoal).trans hgoal.symm)
  have hafter : strand.sweep state index = goal := by
    cases goal <;> simp_all
  apply Finset.card_lt_card
  refine Finset.ssubset_iff_subset_ne.mpr ⟨?_, fun heq => ?_⟩
  · intro other hother
    rw [Finset.mem_filter, Finset.mem_range] at hother ⊢
    exact ⟨hother.1, hadvancing.toward_sweep other hother.1 hother.2⟩
  · have hmem : index ∈ (Finset.range strand.size).filter fun index =>
        strand.sweep state index = goal :=
      Finset.mem_filter.mpr ⟨Finset.mem_range.mpr hindex, hafter⟩
    rw [← heq] at hmem
    exact hbefore (Finset.mem_filter.mp hmem).2

theorem Advancing.stable_of_reached (hadvancing : strand.Advancing goal state)
    (hreached : strand.reached goal state = strand.size) :
    strand.Stable state := by
  have hall :
      (Finset.range strand.size).filter (fun index => state index = goal) =
        Finset.range strand.size := by
    apply Finset.eq_of_subset_of_card_le (Finset.filter_subset _ _)
    rw [Finset.card_range]
    exact hreached.ge
  intro index hindex
  have hgoal : state index = goal := by
    have hmem : index ∈ (Finset.range strand.size).filter fun index =>
        state index = goal := by
      rw [hall]
      exact Finset.mem_range.mpr hindex
    exact (Finset.mem_filter.mp hmem).2
  rw [hgoal]
  exact hadvancing index hindex hgoal

/-- One sweep for each node is enough: every sweep before the state is stable
takes at least one more node to `goal`, where it stays. -/
theorem Advancing.stable_iterate (hadvancing : strand.Advancing goal state) :
    strand.Stable (strand.sweep^[strand.size] state) := by
  have hprogress : ∀ count, strand.Stable (strand.sweep^[count] state) ∨
      count ≤ strand.reached goal (strand.sweep^[count] state) := by
    intro count
    induction count with
    | zero => exact .inr (Nat.zero_le _)
    | succ count ih =>
        rw [Function.iterate_succ_apply']
        by_cases hstable : strand.Stable (strand.sweep^[count] state)
        · rw [hstable.sweep_eq]
          exact .inl hstable
        · have hlt := (hadvancing.iterate count).reached_lt hstable
          have hcount := ih.resolve_left hstable
          exact .inr (by omega)
  rcases hprogress strand.size with hstable | hreached
  · exact hstable
  · exact (hadvancing.iterate strand.size).stable_of_reached
      (Nat.le_antisymm (reached_le goal _) hreached)

/-! ### Two strands side by side -/

section Related

variable {left right : Strand} (related : (Nat → Bool) → (Nat → Bool) → Prop)
  {leftState rightState : Nat → Bool}

/-- A relation between the states of two strands that every visit keeps is kept
by visits one after the other. -/
theorem sweepOver_related
    (hvisit : ∀ visited leftState rightState, related leftState rightState →
      related (left.visit leftState visited) (right.visit rightState visited))
    (indices : List Nat) (hstate : related leftState rightState) :
    related (left.sweepOver indices leftState)
      (right.sweepOver indices rightState) := by
  induction indices generalizing leftState rightState with
  | nil => exact hstate
  | cons visited rest ih => exact ih (hvisit visited _ _ hstate)

/-- What every visit keeps between two strands, sweeps keep. -/
theorem iterate_related (hsize : left.size = right.size)
    (hvisit : ∀ visited leftState rightState, related leftState rightState →
      related (left.visit leftState visited) (right.visit rightState visited))
    (hstate : related leftState rightState) (count : Nat) :
    related (left.sweep^[count] leftState)
      (right.sweep^[count] rightState) := by
  induction count with
  | zero => exact hstate
  | succ count ih =>
      rw [Function.iterate_succ_apply', Function.iterate_succ_apply', sweep,
        sweep, ← hsize]
      exact sweepOver_related related hvisit _ ih

end Related

/-! ### Strands that find less -/

/-- The first strand makes the fact at fewer nodes, loses it at more, and has
more flow into each node, but nowhere something where the second has nothing. -/
structure Below (left right : Strand) : Prop where
  size : left.size = right.size
  sources : ∀ index < left.size, right.sources index ⊆ left.sources index
  empty : ∀ index < left.size, right.sources index = [] →
    left.sources index = []
  made : ∀ index < left.size, left.made index = true → right.made index = true
  lost : ∀ index < left.size, right.lost index = true → left.lost index = true

namespace Below

variable {left right : Strand} {leftState rightState : Nat → Bool}

theorem next (hbelow : Below left right)
    (hstate : left.Toward true leftState rightState) {index : Nat}
    (hindex : index < left.size) (hnext : left.next leftState index = true) :
    right.next rightState index = true := by
  rw [next_eq_true_iff] at hnext ⊢
  rcases hnext with hmade | ⟨hlost, hsources, hall⟩
  · exact .inl (hbelow.made index hindex hmade)
  · refine .inr ⟨?_, mt (hbelow.empty index hindex) hsources,
      fun other hother => ?_⟩
    · apply Bool.eq_false_of_not_eq_true
      intro hright
      exact Bool.noConfusion
        (hlost.symm.trans (hbelow.lost index hindex hright))
    · have hleft := hbelow.sources index hindex hother
      exact hstate other (left.sources_lt hleft) (hall other hleft)

theorem visit (hbelow : Below left right)
    (hstate : left.Toward true leftState rightState) (visited : Nat) :
    left.Toward true (left.visit leftState visited)
      (right.visit rightState visited) := by
  intro index hindex hvisit
  by_cases heq : index = visited
  · subst heq
    rw [visit_self] at hvisit ⊢
    exact hbelow.next hstate hindex hvisit
  · rw [visit_of_ne heq] at hvisit ⊢
    exact hstate index hindex hvisit

theorem sweepOver (hbelow : Below left right) (indices : List Nat)
    (hstate : left.Toward true leftState rightState) :
    left.Toward true (left.sweepOver indices leftState)
      (right.sweepOver indices rightState) :=
  sweepOver_related (left.Toward true)
    (fun visited _ _ hstate => hbelow.visit hstate visited) indices hstate

/-- Sweeps keep the one state below the other, although both change in place. -/
theorem iterate (hbelow : Below left right)
    (hstate : left.Toward true leftState rightState) (count : Nat) :
    left.Toward true (left.sweep^[count] leftState)
      (right.sweep^[count] rightState) :=
  iterate_related (left.Toward true) hbelow.size
    (fun visited _ _ hstate => hbelow.visit hstate visited) hstate count

end Below

end Strand

end GenKill
