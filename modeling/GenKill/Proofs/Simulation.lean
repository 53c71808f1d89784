import GenKill.Proofs.Ending
import GenKill.Proofs.Failure

/-!
# Analyses in lockstep

A visit looks at the name of a node, at its neighbors and at the sets there, and
it records a set.  If a relation between systems says that all this is the same
for two analyses, and still holds when both record the same set, then passes of
the two report the same and leave their systems related, and so do runs.
Nothing is asked of the systems: a fault of one is a fault of the other.
-/

namespace GenKill

namespace System

/-- Systems of the same facts in which nodes with the same number have the same
sets. -/
structure SameSets (leftGraph rightGraph : Graph) (left right : System) :
    Prop where
  facts : left.facts = right.facts
  gen : ∀ index < leftGraph.size,
    left.gen.get (leftGraph.site index) = right.gen.get (rightGraph.site index)
  kill : ∀ index < leftGraph.size,
    left.kill.get (leftGraph.site index) =
      right.kill.get (rightGraph.site index)
  out : ∀ index < leftGraph.size,
    left.out.get (leftGraph.site index) = right.out.get (rightGraph.site index)

/-- Visits of nodes with the same number keep the relation. -/
structure Lockstep (leftGraph : Graph) (leftDirection : Direction)
    (rightGraph : Graph) (rightDirection : Direction)
    (related : System → System → Prop) : Prop where
  size : leftGraph.size = rightGraph.size
  name : ∀ index < leftGraph.size,
    (leftGraph.site index).name = (rightGraph.site index).name
  neighbors : ∀ index < leftGraph.size,
    leftDirection.neighbors leftGraph index =
      rightDirection.neighbors rightGraph index
  sets : ∀ {left right}, related left right →
    SameSets leftGraph rightGraph left right
  record : ∀ {left right}, related left right →
    ∀ index < leftGraph.size, ∀ value,
      related { left with out := left.out.set (leftGraph.site index) value }
        { right with out := right.out.set (rightGraph.site index) value }

/-- Passes that report the same and leave systems that are related. -/
structure Pass.Same (related : System → System → Prop) (left right : Pass) :
    Prop where
  system : related left.system right.system
  changed : left.changed = right.changed
  events : left.events = right.events
  fault : left.fault = right.fault

structure Run.Same (related : System → System → Prop) (left right : Run) :
    Prop where
  system : related left.system right.system
  passes : left.passes = right.passes
  settled : left.settled = right.settled
  events : left.events = right.events
  fault : left.fault = right.fault

section

variable {leftGraph rightGraph : Graph} {left right : System}

/-- The same set is recorded at nodes with the same number. -/
theorem SameSets.record (hsame : SameSets leftGraph rightGraph left right)
    (index : Nat) (value : FactSet) :
    SameSets leftGraph rightGraph
      { left with out := left.out.set (leftGraph.site index) value }
      { right with out := right.out.set (rightGraph.site index) value } := by
  refine ⟨hsame.facts, hsame.gen, hsame.kill, fun other hother => ?_⟩
  simp only [Property.get_set, Graph.site_inj, hsame.out other hother]

theorem meet_congr (hfacts : left.facts = right.facts) {indices : List Nat}
    (hout : ∀ index ∈ indices,
      left.out.get (leftGraph.site index) =
        right.out.get (rightGraph.site index)) :
    left.meet (indices.map leftGraph.site) =
      right.meet (indices.map rightGraph.site) := by
  have hfold : ∀ (rest : List Nat) (start : FactSet),
      (∀ index ∈ rest, left.out.get (leftGraph.site index) =
        right.out.get (rightGraph.site index)) →
      (rest.map leftGraph.site).foldlM
          (fun meet site => meet.inter (left.out.get site)) start =
        (rest.map rightGraph.site).foldlM
          (fun meet site => meet.inter (right.out.get site)) start := by
    intro rest
    induction rest with
    | nil => exact fun _ _ => rfl
    | cons index rest ih =>
        intro start hrest
        rw [List.map_cons, List.map_cons, List.foldlM_cons, List.foldlM_cons,
          hrest index List.mem_cons_self]
        exact congrArg _ (funext fun meet =>
          ih meet fun other hother =>
            hrest other (List.mem_cons_of_mem _ hother))
  cases indices with
  | nil => exact congrArg (fun facts => Except.ok facts.empty) hfacts
  | cons index rest =>
      rw [List.map_cons, List.map_cons, meet, meet,
        hout index List.mem_cons_self]
      exact hfold rest _ fun other hother =>
        hout other (List.mem_cons_of_mem _ hother)

end

namespace Lockstep

variable {leftGraph rightGraph : Graph}
  {leftDirection rightDirection : Direction}
  {related : System → System → Prop} {left right : System}

theorem setOut
    (hstep : Lockstep leftGraph leftDirection rightGraph rightDirection related)
    (hrelated : related left right) {index : Nat}
    (hindex : index < leftGraph.size) (value : FactSet) :
    Paired related (left.setOut (leftGraph.site index) value)
      (right.setOut (rightGraph.site index) value) := by
  have hfacts := (hstep.sets hrelated).facts
  have hcheck : left.facts.check value = right.facts.check value := by
    rw [hfacts]
  have hadopt : left.facts.adopt value = right.facts.adopt value := by
    rw [hfacts]
  have hrecord := hstep.record hrelated index hindex (right.facts.adopt value)
  rw [System.setOut, System.setOut, place, place, hstep.name index hindex,
    hcheck, hadopt]
  cases right.facts.check value with
  | error error => exact .error _
  | ok _ => exact .ok hrecord

/-- Both systems tell of the same change, and stay related. -/
theorem update
    (hstep : Lockstep leftGraph leftDirection rightGraph rightDirection related)
    (hrelated : related left right) {index : Nat}
    (hindex : index < leftGraph.size) (events : List Event)
    (old new : FactSet) :
    (left.update (leftGraph.site index) events old new).events =
        (right.update (rightGraph.site index) events old new).events ∧
      Paired (Option.Rel related)
        (left.update (leftGraph.site index) events old new).result
        (right.update (rightGraph.site index) events old new).result := by
  rw [System.update, System.update, hstep.name index hindex]
  cases hsame : new.sameElements old with
  | error fault => exact ⟨rfl, .error fault⟩
  | ok same =>
      cases same with
      | true => exact ⟨rfl, .ok .none⟩
      | false =>
          have hset := hstep.setOut hrelated hindex new
          generalize left.setOut (leftGraph.site index) new = first at hset ⊢
          generalize right.setOut (rightGraph.site index) new = second at hset ⊢
          cases hset with
          | error error => exact ⟨rfl, .error _⟩
          | ok hnext => exact ⟨rfl, .ok (.some hnext)⟩

/-- Visits of nodes with the same number report the same, and record the same
set or none. -/
theorem visit
    (hstep : Lockstep leftGraph leftDirection rightGraph rightDirection related)
    (hrelated : related left right) {index : Nat}
    (hindex : index < leftGraph.size) :
    (left.visit leftGraph leftDirection index).events =
        (right.visit rightGraph rightDirection index).events ∧
      Paired (Option.Rel related)
        (left.visit leftGraph leftDirection index).result
        (right.visit rightGraph rightDirection index).result := by
  have hsets := hstep.sets hrelated
  have hmeet :
      left.meet ((leftDirection.neighbors leftGraph index).map leftGraph.site) =
        right.meet
          ((rightDirection.neighbors rightGraph index).map
            rightGraph.site) := by
    rw [← hstep.neighbors index hindex]
    exact meet_congr hsets.facts fun other hother =>
      hsets.out other (Direction.neighbors_lt hother)
  have htransfer : left.transfer (leftGraph.site index) =
      right.transfer (rightGraph.site index) := by
    funext meet
    rw [transfer, transfer, hsets.gen index hindex, hsets.kill index hindex]
  simp only [System.visit]
  rw [hmeet, htransfer, hsets.out index hindex, hstep.name index hindex,
    hstep.neighbors index hindex]
  cases right.meet
    ((rightDirection.neighbors rightGraph index).map rightGraph.site) with
  | error fault => exact ⟨rfl, .error fault⟩
  | ok meet =>
      dsimp only
      cases right.transfer (rightGraph.site index) meet with
      | error fault => exact ⟨rfl, .error fault⟩
      | ok new => exact hstep.update hrelated hindex _ _ new

/-- Passes over the same nodes report the same, visit by visit. -/
theorem passOver
    (hstep : Lockstep leftGraph leftDirection rightGraph rightDirection related)
    {indices : List Nat} (hindices : ∀ index ∈ indices, index < leftGraph.size)
    (hrelated : related left right) :
    Pass.Same related (System.passOver leftGraph leftDirection indices left)
      (System.passOver rightGraph rightDirection indices right) := by
  induction indices generalizing left right with
  | nil => exact ⟨hrelated, rfl, rfl, rfl⟩
  | cons index rest ih =>
      have hrest : ∀ other ∈ rest, other < leftGraph.size :=
        fun other hother => hindices other (List.mem_cons_of_mem _ hother)
      obtain ⟨hevents, hresult⟩ :=
        hstep.visit hrelated (hindices index List.mem_cons_self)
      generalize hleft : (left.visit leftGraph leftDirection index).result =
        first at hresult
      generalize hright : (right.visit rightGraph rightDirection index).result =
        second at hresult
      cases hresult with
      | error fault =>
          rw [passOver_of_error hleft, passOver_of_error hright]
          exact ⟨hrelated, rfl, hevents, rfl⟩
      | ok hnext =>
          cases hnext with
          | none =>
              have hsame := ih hrest hrelated
              rw [passOver_of_none hleft, passOver_of_none hright]
              exact ⟨hsame.system, hsame.changed,
                congrArg₂ _ hevents hsame.events, hsame.fault⟩
          | some hnext =>
              have hsame := ih hrest hnext
              rw [passOver_of_some hleft, passOver_of_some hright]
              exact ⟨hsame.system, rfl, congrArg₂ _ hevents hsame.events,
                hsame.fault⟩

theorem pass
    (hstep : Lockstep leftGraph leftDirection rightGraph rightDirection related)
    (hrelated : related left right) :
    Pass.Same related (left.pass leftGraph leftDirection)
      (right.pass rightGraph rightDirection) := by
  rw [System.pass, System.pass, ← hstep.size]
  exact hstep.passOver (fun index => List.mem_range.mp) hrelated

theorem after
    (hstep : Lockstep leftGraph leftDirection rightGraph rightDirection related)
    (hrelated : related left right) (count : Nat) :
    related (System.after leftGraph leftDirection count left)
      (System.after rightGraph rightDirection count right) := by
  induction count with
  | zero => exact hrelated
  | succ count ih =>
      rw [after_succ, after_succ]
      exact (hstep.pass ih).system

/-- Runs that begin with related systems take the same passes. -/
theorem run
    (hstep : Lockstep leftGraph leftDirection rightGraph rightDirection related)
    (hrelated : related left right) (budget : Nat) :
    Run.Same related (System.run leftGraph leftDirection budget left)
      (System.run rightGraph rightDirection budget right) := by
  induction budget generalizing left right with
  | zero => exact ⟨hrelated, rfl, rfl, rfl, rfl⟩
  | succ budget ih =>
      have hpass := hstep.pass hrelated
      by_cases hlast : (left.pass leftGraph leftDirection).IsLast
      · have hlast' : (right.pass rightGraph rightDirection).IsLast := by
          rwa [Pass.IsLast, ← hpass.fault, ← hpass.changed]
        rw [run_of_isLast budget hlast, run_of_isLast budget hlast']
        exact ⟨hpass.system, rfl, congrArg Option.isNone hpass.fault,
          hpass.events, hpass.fault⟩
      · have hlast' : ¬ (right.pass rightGraph rightDirection).IsLast := by
          rwa [Pass.IsLast, ← hpass.fault, ← hpass.changed]
        have hrest := ih hpass.system
        rw [run_of_not_isLast budget hlast, run_of_not_isLast budget hlast']
        exact ⟨hrest.system, congrArg Nat.succ hrest.passes, hrest.settled,
          congrArg₂ _ hpass.events hrest.events, hrest.fault⟩

theorem solve
    (hstep : Lockstep leftGraph leftDirection rightGraph rightDirection related)
    (hrelated : related left right) :
    Run.Same related (left.solve leftGraph leftDirection)
      (right.solve rightGraph rightDirection) := by
  have hlimit : left.passLimit leftGraph = right.passLimit rightGraph := by
    rw [passLimit, passLimit, hstep.size, (hstep.sets hrelated).facts]
  rw [System.solve, System.solve, hlimit]
  exact hstep.run hrelated _

end Lockstep

end System

end GenKill
