import GenKill.Proofs.Pass
import Mathlib.Algebra.Order.Ring.Nat
import Mathlib.Data.List.Basic

/-!
# Runs in pieces

A run goes on from pass to pass without looking back, so a run that was cut off
can be taken up again from the system it has left: runs with several budgets,
one after the other, make up the run with their sum.  The system may be any at
all here, also one in which a pass fails.
-/

namespace GenKill

namespace System

/-! ### Passes that change nothing -/

/-- A pass that reports no change has left the system alone, even if it
failed. -/
theorem passOver_of_unchanged {graph : Graph} {direction : Direction}
    {indices : List Nat} {system : System}
    (hunchanged : (passOver graph direction indices system).changed = false) :
    (passOver graph direction indices system).system = system := by
  induction indices with
  | nil => rfl
  | cons index rest ih =>
      cases hvisit : system.visit graph direction index with
      | mk events result =>
          match result with
          | .error fault => simp only [passOver, hvisit]
          | .ok none =>
              simp only [passOver, hvisit] at hunchanged ⊢
              exact ih hunchanged
          | .ok (some next) => simp [passOver, hvisit] at hunchanged

theorem pass_of_unchanged {graph : Graph} {direction : Direction}
    {system : System}
    (hunchanged : (system.pass graph direction).changed = false) :
    (system.pass graph direction).system = system :=
  passOver_of_unchanged hunchanged

/-- A pass that reports no change leaves nothing to do for all later ones. -/
theorem after_of_unchanged {graph : Graph} {direction : Direction}
    {system : System}
    (hunchanged : (system.pass graph direction).changed = false) (count : Nat) :
    after graph direction count system = system :=
  Function.iterate_fixed (pass_of_unchanged hunchanged) count

/-! ### Runs that are taken up again -/

/-- Nothing is left to do: the last pass changed nothing, or it failed. -/
def Run.isOver (run : Run) : Bool := run.settled || run.fault.isSome

/-- Takes up a run with a further budget, unless it is over. -/
def Run.resume (graph : Graph) (direction : Direction) (run : Run)
    (budget : Nat) : Run :=
  if run.isOver then run
  else
    let rest := System.run graph direction budget run.system
    { rest with
      passes := run.passes + rest.passes, events := run.events ++ rest.events }

/-- No pass follows: this one changed nothing, or it failed. -/
def Pass.IsLast (pass : Pass) : Prop :=
  pass.fault.isSome = true ∨ pass.changed = false

def Run.behind (run : Run) (pass : Pass) : Run :=
  { run with passes := run.passes + 1, events := pass.events ++ run.events }

theorem Run.resume_behind (graph : Graph) (direction : Direction) (run : Run)
    (pass : Pass) (budget : Nat) :
    (run.behind pass).resume graph direction budget =
      (run.resume graph direction budget).behind pass := by
  have hover : (run.behind pass).isOver = run.isOver := rfl
  rw [resume, resume, hover]
  by_cases hrun : run.isOver = true
  · rw [if_pos hrun, if_pos hrun]
  · rw [if_neg hrun, if_neg hrun]
    simp only [behind, Nat.add_right_comm, List.append_assoc]

theorem run_of_isLast {graph : Graph} {direction : Direction} {system : System}
    (budget : Nat) (hlast : (system.pass graph direction).IsLast) :
    run graph direction (budget + 1) system =
      { system := (system.pass graph direction).system, passes := 1
        settled := (system.pass graph direction).fault.isNone
        events := (system.pass graph direction).events
        fault := (system.pass graph direction).fault } := by
  simp only [run]
  exact if_pos hlast

/-- Behind any other pass the run goes on with one pass less. -/
theorem run_of_not_isLast {graph : Graph} {direction : Direction}
    {system : System} (budget : Nat)
    (hlast : ¬ (system.pass graph direction).IsLast) :
    run graph direction (budget + 1) system =
      (run graph direction budget (system.pass graph direction).system).behind
        (system.pass graph direction) := by
  simp only [run]
  exact if_neg hlast

/-- A run with two budgets, one after the other, is the run with their sum. -/
theorem run_add (graph : Graph) (direction : Direction) (first second : Nat)
    (system : System) :
    run graph direction (first + second) system =
      (run graph direction first system).resume graph direction second := by
  induction first generalizing system with
  | zero => simp [run, Run.resume, Run.isOver]
  | succ first ih =>
      rw [Nat.succ_add]
      by_cases hlast : (system.pass graph direction).IsLast
      · rw [run_of_isLast _ hlast, run_of_isLast _ hlast, Run.resume, if_pos]
        rw [Run.isOver]
        cases (system.pass graph direction).fault <;> rfl
      · rw [run_of_not_isLast _ hlast, run_of_not_isLast _ hlast, ih,
          Run.resume_behind]

theorem foldl_resume (graph : Graph) (direction : Direction)
    (budgets : List Nat) (budget : Nat) (system : System) :
    budgets.foldl (Run.resume graph direction)
        (run graph direction budget system) =
      run graph direction (budget + budgets.sum) system := by
  induction budgets generalizing budget with
  | nil => rfl
  | cons next budgets ih =>
      rw [List.foldl_cons, ← run_add, ih, List.sum_cons, Nat.add_assoc]

/-! ### Runs that end -/

/-- The passes end with a quiet one: none fails up to it, and all before it
change something. -/
structure Ends (system : System) (graph : Graph) (direction : Direction)
    (passes : Nat) : Prop where
  pos : 0 < passes
  fault : ∀ count < passes,
    ((after graph direction count system).pass graph direction).fault = none
  changed : ∀ count < passes,
    ((after graph direction count system).pass graph direction).changed =
      decide (count + 1 < passes)

variable {system : System} {graph : Graph} {direction : Direction}

namespace Ends

variable {passes : Nat}

theorem of_quiet (hfault : (system.pass graph direction).fault = none)
    (hquiet : (system.pass graph direction).changed = false) :
    system.Ends graph direction 1 := by
  refine ⟨Nat.one_pos, fun count hcount => ?_, fun count hcount => ?_⟩
  · obtain rfl := Nat.lt_one_iff.mp hcount
    exact hfault
  · obtain rfl := Nat.lt_one_iff.mp hcount
    exact hquiet

/-- One more pass in front. -/
theorem of_busy (hlast : ¬ (system.pass graph direction).IsLast)
    (hrest : (system.pass graph direction).system.Ends graph direction passes) :
    system.Ends graph direction (passes + 1) := by
  rw [Pass.IsLast, not_or, Bool.not_eq_true, Option.isSome_eq_false_iff,
    Option.isNone_iff_eq_none, Bool.not_eq_false] at hlast
  refine ⟨Nat.succ_pos passes, fun count hcount => ?_, fun count hcount => ?_⟩
  · cases count with
    | zero => exact hlast.1
    | succ count => exact hrest.fault count (Nat.lt_of_succ_lt_succ hcount)
  · cases count with
    | zero =>
        have hmore : 0 + 1 < passes + 1 := Nat.succ_lt_succ hrest.pos
        rw [decide_eq_true hmore]
        exact hlast.2
    | succ count =>
        refine (hrest.changed count (Nat.lt_of_succ_lt_succ hcount)).trans ?_
        rw [decide_eq_decide, Nat.add_lt_add_iff_right]

/-- The first pass is the last one exactly if there is only one. -/
theorem isLast_iff (hends : system.Ends graph direction passes) :
    (system.pass graph direction).IsLast ↔ passes = 1 := by
  have hfault : (system.pass graph direction).fault = none :=
    hends.fault 0 hends.pos
  have hchanged : (system.pass graph direction).changed =
      decide (0 + 1 < passes) :=
    hends.changed 0 hends.pos
  have hpos := hends.pos
  rw [Pass.IsLast, hfault, hchanged, decide_eq_false_iff_not]
  simp only [Option.isSome_none, Bool.false_eq_true, false_or]
  omega

end Ends

/-- A run that settles within some budget ends with the pass at which it
settles. -/
theorem ends_of_settled {budget : Nat}
    (hsettled : (run graph direction budget system).settled = true) :
    system.Ends graph direction (run graph direction budget system).passes := by
  induction budget generalizing system with
  | zero => cases hsettled
  | succ budget ih =>
      by_cases hlast : (system.pass graph direction).IsLast
      · rw [run_of_isLast budget hlast] at hsettled ⊢
        have hfault := Option.isNone_iff_eq_none.mp hsettled
        refine .of_quiet hfault (hlast.resolve_left ?_)
        rw [hfault]
        exact Bool.false_ne_true
      · rw [run_of_not_isLast budget hlast] at hsettled ⊢
        exact (ih hsettled).of_busy hlast

namespace Ends

variable {passes : Nat}

/-! ### After the end -/

/-- The passes that follow a quiet one are quiet too, and leave the system
alone. -/
theorem after_of_le (hends : system.Ends graph direction passes) {count : Nat}
    (hcount : passes ≤ count + 1) :
    after graph direction count system =
      after graph direction (passes - 1) system := by
  have hpos := hends.pos
  have hquiet :
      ((after graph direction (passes - 1) system).pass graph
          direction).changed =
        false := by
    rw [hends.changed _ (by omega), decide_eq_false_iff_not]
    omega
  obtain ⟨more, rfl⟩ : ∃ more, count = more + (passes - 1) :=
    ⟨count - (passes - 1), by omega⟩
  rw [← after_after]
  exact after_of_unchanged hquiet more

/-- No pass of a run that ends breaks off, nor does one after its end. -/
theorem fault_eq (hends : system.Ends graph direction passes) (count : Nat) :
    ((after graph direction count system).pass graph direction).fault =
      none := by
  have hpos := hends.pos
  by_cases hcount : count < passes
  · exact hends.fault count hcount
  · rw [hends.after_of_le (by omega)]
    exact hends.fault _ (by omega)

/-- Just the passes before the last one change something. -/
theorem changed_eq (hends : system.Ends graph direction passes) (count : Nat) :
    ((after graph direction count system).pass graph direction).changed =
      decide (count + 1 < passes) := by
  have hpos := hends.pos
  by_cases hcount : count < passes
  · exact hends.changed count hcount
  · rw [hends.after_of_le (by omega), hends.changed _ (by omega),
      decide_eq_decide]
    omega

/-- Seen from a later system, the passes that are left end the run; once it is
over, any pass does. -/
theorem after (hends : system.Ends graph direction passes) (count : Nat) :
    (System.after graph direction count system).Ends graph direction
      (max (passes - count) 1) := by
  refine ⟨by omega, fun more _ => ?_, fun more _ => ?_⟩
  · rw [after_after]
    exact hends.fault_eq _
  · rw [after_after, hends.changed_eq, decide_eq_decide]
    omega

end Ends

/-! ### Runs with a budget -/

/-- What a number of checks allows of a run of some length: whole passes, and
the end if it is reached. -/
structure Run.CutAt (run : Run) (start : System) (graph : Graph)
    (direction : Direction) (length checks : Nat) : Prop where
  passes : run.passes = min checks length
  settled : run.settled = decide (length ≤ checks)
  fault : run.fault = none
  system : run.system = after graph direction (min checks length) start

namespace Ends

variable {passes : Nat}

/-- A run that ends takes as many passes as it has, or as its budget allows. -/
theorem cutAt_run (hends : system.Ends graph direction passes) (checks : Nat) :
    (run graph direction checks system).CutAt system graph direction passes
      checks := by
  induction checks generalizing system passes with
  | zero =>
      have hpos := hends.pos
      refine ⟨?_, (decide_eq_false (by omega)).symm, rfl, ?_⟩
      · rw [Nat.zero_min]
        rfl
      · rw [Nat.zero_min]
        rfl
  | succ checks ih =>
      by_cases hone : passes = 1
      · subst hone
        have hfault : (system.pass graph direction).fault = none :=
          hends.fault_eq 0
        have hmin : min (checks + 1) 1 = 1 := Nat.min_eq_right (by omega)
        rw [run_of_isLast checks (hends.isLast_iff.mpr rfl), hfault]
        exact ⟨hmin.symm, (decide_eq_true (by omega)).symm, rfl,
          by rw [hmin]; rfl⟩
      · have hpos := hends.pos
        have hnext :
            (system.pass graph direction).system.Ends graph direction
              (passes - 1) := by
          have hafter := hends.after 1
          rwa [Nat.max_eq_left (by omega)] at hafter
        have hrest := ih hnext
        have hmin : min (checks + 1) passes = min checks (passes - 1) + 1 := by
          omega
        rw [run_of_not_isLast checks
          (fun hlast => hone (hends.isLast_iff.mp hlast))]
        refine ⟨?_, hrest.settled.trans ?_, hrest.fault, ?_⟩
        · rw [hmin]
          exact congrArg Nat.succ hrest.passes
        · rw [decide_eq_decide]
          omega
        · rw [hmin]
          exact hrest.system

/-- Checks that reach the end allow the whole run. -/
theorem run_of_le (hends : system.Ends graph direction passes) {checks : Nat}
    (hchecks : passes ≤ checks) :
    run graph direction checks system = run graph direction passes system := by
  obtain ⟨more, rfl⟩ := Nat.exists_eq_add_of_le hchecks
  have hsettled := (hends.cutAt_run passes).settled
  rw [run_add, Run.resume, if_pos]
  rw [Run.isOver, hsettled, decide_eq_true (Nat.le_refl passes), Bool.true_or]

end Ends

theorem passes_le_passLimit
    (hsettled : (system.solve graph direction).settled = true) :
    (system.solve graph direction).passes ≤ system.passLimit graph := by
  have hlimit :=
    ((ends_of_settled hsettled).cutAt_run (system.passLimit graph)).settled
  exact of_decide_eq_true (hlimit.symm.trans hsettled)

/-- A run that settles does so within every limit that allows for its passes. -/
theorem run_eq_solve (hsettled : (system.solve graph direction).settled = true)
    {checks : Nat} (hchecks : (system.solve graph direction).passes ≤ checks) :
    run graph direction checks system = system.solve graph direction := by
  have hends := ends_of_settled hsettled
  exact (hends.run_of_le hchecks).trans
    (hends.run_of_le (passes_le_passLimit hsettled)).symm

theorem cutAt_solve (hsettled : (system.solve graph direction).settled = true) :
    (system.solve graph direction).CutAt system graph direction
      (system.solve graph direction).passes
        (system.solve graph direction).passes := by
  have hcut :=
    (ends_of_settled hsettled).cutAt_run (system.solve graph direction).passes
  rwa [run_eq_solve hsettled (Nat.le_refl _)] at hcut

/-- A run that settles ends where any larger number of passes would. -/
theorem solve_eq_after
    (hsettled : (system.solve graph direction).settled = true) {count : Nat}
    (hcount : (system.solve graph direction).passes ≤ count) :
    (system.solve graph direction).system =
      after graph direction count system := by
  have hends :
      system.Ends graph direction (system.solve graph direction).passes :=
    ends_of_settled hsettled
  calc (system.solve graph direction).system
      = after graph direction (system.solve graph direction).passes system := by
        rw [(cutAt_solve hsettled).system, Nat.min_self]
    _ = after graph direction ((system.solve graph direction).passes - 1)
        system :=
        hends.after_of_le (Nat.le_succ _)
    _ = after graph direction count system :=
        (hends.after_of_le (Nat.le_succ_of_le hcount)).symm

/-- A run has ended after some passes exactly if the next one changes nothing.
-/
theorem passes_le_iff (hsettled : (system.solve graph direction).settled = true)
    (count : Nat) :
    (system.solve graph direction).passes ≤ count + 1 ↔
      ((after graph direction count system).pass graph direction).changed =
        false := by
  have hends :
      system.Ends graph direction (system.solve graph direction).passes :=
    ends_of_settled hsettled
  rw [hends.changed_eq, decide_eq_false_iff_not, Nat.not_lt]

end System

end GenKill
