import GenKill.Proofs.Ending
import GenKill.Proofs.Solution
import GenKill.Session

/-!
# Sessions follow runs

A session that advances takes the passes of a run, and counts them.  So the
trail of a session shows the run of its system pass by pass, it is cut off where
the run is, and it can be taken up again in the same way.
-/

namespace GenKill

namespace Session

def advanced (session : Session) (count : Nat) : Session :=
  (fun session => session.advance.session)^[count] session

theorem advanced_succ (session : Session) (count : Nat) :
    session.advanced (count + 1) = (session.advanced count).advance.session :=
  Function.iterate_succ_apply' ..

@[simp]
theorem advance_graph (session : Session) :
    session.advance.session.graph = session.graph := by
  simp only [advance]
  split <;> rfl

@[simp]
theorem advance_direction (session : Session) :
    session.advance.session.direction = session.direction := by
  simp only [advance]
  split <;> rfl

@[simp]
theorem advance_system (session : Session) :
    session.advance.session.system =
      (session.system.pass session.graph session.direction).system := by
  simp only [advance]
  split <;> rfl

/-- A session that advances without a fault counts the pass. -/
theorem advance_of_fault {session : Session}
    (hfault : (session.system.pass session.graph session.direction).fault =
      none) :
    session.advance.session = { session with
      system := (session.system.pass session.graph session.direction).system
      pass := session.pass + 1
      changed :=
        (session.system.pass session.graph session.direction).changed } := by
  simp only [advance, hfault, Option.isSome_none, Bool.false_eq_true, if_false]

/-! ### Trails -/

/-- A trail stops where the run of the system does. -/
theorem advance_isLast_iff (session : Session) :
    (session.advance.fault.isSome = true ∨
        session.advance.session.changed = false) ↔
      (session.system.pass session.graph session.direction).IsLast := by
  rw [System.Pass.IsLast]
  cases hfault :
    (session.system.pass session.graph session.direction).fault with
  | none =>
      rw [advance_of_fault hfault]
      simp [advance, hfault]
  | some fault => simp [advance, hfault]

theorem fault_of_not_isLast {session : Session}
    (hlast : ¬ (session.system.pass session.graph session.direction).IsLast) :
    session.advance.fault = none := by
  rw [System.Pass.IsLast, not_or, Bool.not_eq_true, Option.isSome_eq_false_iff,
    Option.isNone_iff_eq_none] at hlast
  exact hlast.1

def Trail.behind (trail : Trail) (step : Step) : Trail :=
  { trail with steps := step :: trail.steps }

theorem trail_of_isLast {session : Session} (budget : Nat)
    (hlast : (session.system.pass session.graph session.direction).IsLast) :
    session.trail (budget + 1) =
      { steps := [session.advance]
        settled := session.advance.fault.isNone } := by
  rw [trail]
  exact if_pos (session.advance_isLast_iff.mpr hlast)

theorem trail_of_not_isLast {session : Session} (budget : Nat)
    (hlast : ¬ (session.system.pass session.graph session.direction).IsLast) :
    session.trail (budget + 1) =
      (session.advance.session.trail budget).behind session.advance := by
  rw [trail]
  exact if_neg fun hstep => hlast (session.advance_isLast_iff.mp hstep)

/-- A trail shows the run of its system, with a step for each pass. -/
theorem trail_eq (session : Session) (budget : Nat) :
    session.trail budget =
      { steps := (List.range
          (System.run session.graph session.direction budget
              session.system).passes).map
            fun count => (session.advanced count).advance
        settled :=
          (System.run session.graph session.direction budget
            session.system).settled } := by
  induction budget generalizing session with
  | zero => rfl
  | succ budget ih =>
      by_cases hlast :
          (session.system.pass session.graph session.direction).IsLast
      · rw [trail_of_isLast budget hlast, System.run_of_isLast budget hlast]
        rfl
      · rw [trail_of_not_isLast budget hlast,
          System.run_of_not_isLast budget hlast, ih]
        simp only [advance_graph, advance_direction, advance_system]
        simp only [Trail.behind, System.Run.behind, List.range_succ_eq_map,
          List.map_cons, List.map_map]
        rfl

theorem length_steps_trail (session : Session) (budget : Nat) :
    (session.trail budget).steps.length =
      (System.run session.graph session.direction budget
        session.system).passes := by
  rw [trail_eq, List.length_map, List.length_range]

/-- At the end of a trail the session has taken the passes of the run. -/
theorem atEnd_trail (session : Session) (budget : Nat) :
    session.atEnd (session.trail budget) = session.advanced
      (System.run session.graph session.direction budget
        session.system).passes := by
  rw [atEnd, trail_eq]
  cases (System.run session.graph session.direction budget
    session.system).passes with
  | zero => rfl
  | succ count =>
      rw [List.range_succ, List.map_append, List.map_singleton,
        List.getLast?_append, List.getLast?_singleton, advanced_succ]
      rfl

/-! ### Trails that are taken up again -/

/-- Nothing is left to do: the last step changed nothing, or it failed. -/
def Trail.isOver (trail : Trail) : Bool :=
  trail.settled || (trail.steps.getLast?.bind Step.fault).isSome

/-- Takes up a trail that began with a session, unless it is over. -/
def Trail.resume (session : Session) (trail : Trail) (budget : Nat) : Trail :=
  if trail.isOver then trail
  else
    let rest := (session.atEnd trail).trail budget
    { rest with steps := trail.steps ++ rest.steps }

theorem atEnd_behind (session : Session) (trail : Trail) (step : Step) :
    session.atEnd (trail.behind step) = step.session.atEnd trail := by
  rw [atEnd, atEnd, Trail.behind, List.getLast?_cons]
  cases trail.steps.getLast? <;> rfl

theorem Trail.resume_behind (session : Session) (trail : Trail) {step : Step}
    (hfault : step.fault = none) (budget : Nat) :
    (trail.behind step).resume session budget =
      (trail.resume step.session budget).behind step := by
  have hover : (trail.behind step).isOver = trail.isOver := by
    rw [isOver, isOver, behind, List.getLast?_cons]
    cases trail.steps.getLast? with
    | none => simp [hfault]
    | some last => rfl
  rw [resume, resume, hover, atEnd_behind]
  by_cases htrail : trail.isOver = true
  · rw [if_pos htrail, if_pos htrail]
  · rw [if_neg htrail, if_neg htrail]
    rfl

/-- A trail with two budgets, one after the other, is the trail with their
sum. -/
theorem trail_add (session : Session) (first second : Nat) :
    session.trail (first + second) =
      (session.trail first).resume session second := by
  induction first generalizing session with
  | zero =>
      rw [Nat.zero_add]
      rfl
  | succ first ih =>
      rw [Nat.succ_add]
      by_cases hlast :
          (session.system.pass session.graph session.direction).IsLast
      · rw [trail_of_isLast _ hlast, trail_of_isLast _ hlast, Trail.resume,
          if_pos]
        rw [Trail.isOver, List.getLast?_singleton, Option.bind_some]
        cases session.advance.fault <;> rfl
      · rw [trail_of_not_isLast _ hlast, trail_of_not_isLast _ hlast, ih,
          Trail.resume_behind session _ (fault_of_not_isLast hlast)]

theorem foldl_resume (session : Session) (budgets : List Nat) (budget : Nat) :
    budgets.foldl (Trail.resume session) (session.trail budget) =
      session.trail (budget + budgets.sum) := by
  induction budgets generalizing budget with
  | nil => rfl
  | cons next budgets ih =>
      rw [List.foldl_cons, ← trail_add, ih, List.sum_cons, Nat.add_assoc]

/-! ### Sessions in a run that ends -/

/-- A session has taken the passes that it counts, and knows whether the last
one changed anything. -/
theorem advanced_eq {session : Session} {passes : Nat}
    (hends : session.system.Ends session.graph session.direction passes)
    (count : Nat) :
    session.advanced count = { session with
      system :=
        System.after session.graph session.direction count session.system
      pass := session.pass + count
      changed :=
        if count = 0 then session.changed else decide (count < passes) } := by
  induction count with
  | zero => rfl
  | succ count ih =>
      rw [advanced_succ, ih, advance_of_fault (hends.fault_eq count)]
      simp only [hends.changed_eq, System.after_succ, Nat.add_assoc,
        Nat.add_one_ne_zero, if_false]

/-- What a number of checks allows of a session whose run has some length. -/
structure Trail.CutAt (trail : Trail) (session : Session)
    (length checks : Nat) : Prop where
  steps : trail.steps.length = min checks length
  settled : trail.settled = decide (length ≤ checks)
  fault : ∀ step ∈ trail.steps, step.fault = none
  final : session.atEnd trail = { session with
    system :=
      System.after session.graph session.direction (min checks length)
        session.system
    pass := session.pass + min checks length
    changed :=
      if min checks length = 0 then session.changed
      else decide (checks < length) }

theorem Trail.CutAt.last_fault {trail : Trail} {session : Session}
    {length checks : Nat} (hcut : trail.CutAt session length checks) :
    trail.steps.getLast?.bind Step.fault = none := by
  cases hlast : trail.steps.getLast? with
  | none => rfl
  | some last => exact hcut.fault last (List.mem_of_getLast? hlast)

/-- A trail of a run that ends takes as many steps as the run has passes, or as
its budget allows. -/
theorem cutAt_trail {session : Session} {passes : Nat}
    (hends : session.system.Ends session.graph session.direction passes)
    (checks : Nat) : (session.trail checks).CutAt session passes checks := by
  have hcut := hends.cutAt_run checks
  refine ⟨?_, ?_, fun step hstep => ?_, ?_⟩
  · rw [length_steps_trail, hcut.passes]
  · rw [trail_eq]
    exact hcut.settled
  · rw [trail_eq, List.mem_map] at hstep
    obtain ⟨count, -, rfl⟩ := hstep
    rw [advanced_eq hends]
    exact hends.fault_eq count
  · have hlast : min checks passes < passes ↔ checks < passes := by omega
    rw [atEnd_trail, hcut.passes, advanced_eq hends, decide_eq_decide.mpr hlast]

end Session

namespace System

/-- A run that settles can be cut off before each of its passes and taken up
again.  A call that may make some checks takes that many passes, or those that
are left; it never stops inside a pass.  One call after the other, until one of
them is not cut off, they take the passes of the run without a limit and leave
what it leaves.  The same holds of the calls that run a session. -/
theorem solve_of_pieces (system : System) (graph : Graph)
    (direction : Direction)
    (hsettled : (system.solve graph direction).settled = true) :
    (∀ checks, (run graph direction checks system).CutAt system graph direction
      (system.solve graph direction).passes checks) ∧
    (∀ contexts : List Nat,
      let whole := contexts.foldl (Run.resume graph direction) { system }
      whole.CutAt system graph direction (system.solve graph direction).passes
          contexts.sum ∧
        (whole.settled = true → whole = system.solve graph direction)) ∧
    ∀ (pass : Nat) (changed : Bool),
      let session : Session := { graph, direction, system, pass, changed }
      (∀ checks, (session.trail checks).CutAt session
        (system.solve graph direction).passes checks) ∧
      ∀ contexts : List Nat,
        let whole := contexts.foldl (Session.Trail.resume session) {}
        whole.CutAt session (system.solve graph direction).passes contexts.sum ∧
          (whole.settled = true →
            whole.steps.length = (system.solve graph direction).passes ∧
              (session.atEnd whole).system =
                (system.solve graph direction).system) := by
  have hends := ends_of_settled hsettled
  refine ⟨hends.cutAt_run, fun contexts => ?_, fun pass changed => ?_⟩
  · have hwhole : contexts.foldl (Run.resume graph direction) { system } =
        run graph direction contexts.sum system := by
      rw [← Nat.zero_add contexts.sum]
      exact foldl_resume graph direction contexts 0 system
    simp only [hwhole]
    have hcut := hends.cutAt_run contexts.sum
    refine ⟨hcut, fun hover => run_eq_solve hsettled ?_⟩
    exact of_decide_eq_true (hcut.settled.symm.trans hover)
  · intro session
    have hcutAll : ∀ checks, (session.trail checks).CutAt session
        (system.solve graph direction).passes checks :=
      Session.cutAt_trail hends
    refine ⟨hcutAll, fun contexts => ?_⟩
    have hwhole : contexts.foldl (Session.Trail.resume session) {} =
        session.trail contexts.sum := by
      rw [← Nat.zero_add contexts.sum]
      exact Session.foldl_resume session contexts 0
    simp only [hwhole]
    have hcut := hcutAll contexts.sum
    refine ⟨hcut, fun hover => ?_⟩
    have hsum := of_decide_eq_true (hcut.settled.symm.trans hover)
    have hsolve := (hends.cutAt_run contexts.sum).system
    rw [run_eq_solve hsettled hsum] at hsolve
    refine ⟨hcut.steps.trans (Nat.min_eq_right hsum), ?_⟩
    exact (congrArg Session.system hcut.final).trans hsolve.symm

/-- The ring takes three passes; here two calls do nothing, and the last one is
allowed more. -/
theorem solve_of_pieces_ring :
    (ringSystem.solve ring .forward).settled = true ∧
      (ringSystem.solve ring .forward).passes = 3 ∧
      [0, 2, 0, 5].foldl (Run.resume ring .forward) { system := ringSystem } =
        ringSystem.solve ring .forward := by
  have hsettled :=
    (reached_ringSystem.solve_spec untouched_ringSystem .forward).1.settled
  have hpasses : (ringSystem.solve ring .forward).passes = 3 := by
    decide +kernel
  obtain ⟨hcut, hwhole⟩ :=
    (solve_of_pieces ringSystem ring .forward hsettled).2.1 [0, 2, 0, 5]
  refine ⟨hsettled, hpasses, hwhole ?_⟩
  rw [hcut.settled, hpasses]
  rfl

end System

end GenKill
