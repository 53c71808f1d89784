import GenKill.Command.Run
import GenKill.Proofs.Problem.System
import GenKill.Proofs.Session

/-!
# The run of a problem

A fresh system of a problem settles, so the problem has one run.  Solving it,
advancing a session of it, running the session and running the command all take
the passes of this run in order; they differ only in where they may stop.
-/

namespace GenKill

/-! ### Rounds and budgets

The command looks at its limits before each pass.  What they allow is known
beforehand, so its run is the trail of the session with a budget, and the limits
say only how it ends. -/

namespace Limits

/-- Why a run stopped that did not settle in a number of passes. -/
def stop (limits : Limits) (passes : Nat) : Error :=
  match limits.checks with
  | none => limits.unsettled
  | some checks => if checks ≤ passes then .canceled else limits.unsettled

variable {limits : Limits} {session : Session}

end Limits

namespace Session

/-- The passes of a trail that did not break off. -/
def Trail.completed (trail : Trail) : Nat := trail.steps.countP (·.fault.isNone)

theorem Trail.CutAt.completed {trail : Trail} {session : Session}
    {length checks : Nat} (hcut : trail.CutAt session length checks) :
    trail.completed = min checks length := by
  rw [← hcut.steps, Trail.completed, List.countP_eq_length]
  intro step hstep
  rw [hcut.fault step hstep]
  rfl

/-- What the command makes of a trail. -/
def Trail.outcome (trail : Trail) (session : Session) (limits : Limits) :
    Bounded where
  trail
  final := session.atEnd trail
  error := if trail.settled then none else some (limits.stop trail.completed)

section Rounds

variable {limits : Limits} {session : Session}

end Rounds

end Session

namespace Problem

variable {problem : Problem} {facts : Universe} {initial : FactSet}
  {system next : System}

/-! ### A fresh system settles -/

theorem reached_defineAt (hreached : System.Reached facts initial system)
    {site : Site} (hdefine : problem.defineAt system site = .ok next) :
    System.Reached facts initial next := by
  have hkill : ∀ {middle : System}, System.Reached facts initial middle →
      (∀ elements, problem.kill.get? site = some elements →
        middle.defineKill site elements = .ok next) →
      (problem.kill.get? site = none → middle = next) →
      System.Reached facts initial next := by
    intro middle hmiddle hsome hnone
    cases hget : problem.kill.get? site with
    | none => exact hnone hget ▸ hmiddle
    | some elements => exact hmiddle.defineKill (hsome elements hget)
  rw [defineAt] at hdefine
  cases hgen : problem.gen.get? site with
  | none =>
      simp only [hgen] at hdefine
      exact hkill hreached
        (fun elements hget => by simpa only [hget] using hdefine)
        (fun hget => by simpa only [hget, Except.ok.injEq] using hdefine)
  | some elements =>
      cases hmiddle : system.defineGen site elements with
      | error error =>
          simp only [hgen, hmiddle] at hdefine
          cases hdefine
      | ok middle =>
          simp only [hgen, hmiddle] at hdefine
          exact hkill (hreached.defineGen hmiddle)
            (fun elements hget => by simpa only [hget] using hdefine)
            (fun hget => by simpa only [hget, Except.ok.injEq] using hdefine)

theorem reached_defineAll (hreached : System.Reached facts initial system)
    {sites : List Site} (hdefine : problem.defineAll system sites = .ok next) :
    System.Reached facts initial next := by
  induction sites generalizing system with
  | nil =>
      cases hdefine
      exact hreached
  | cons site sites ih =>
      rw [defineAll] at hdefine
      split at hdefine
      · cases hdefine
      · rename_i middle hmiddle
        exact ih (reached_defineAt hreached hmiddle) hdefine

/-- The system of a problem is reached by the operations on systems. -/
theorem reached_of_system (hsystem : problem.system = .ok system) :
    System.Reached problem.facts (problem.initial.value problem.facts)
      system := by
  rw [Problem.system] at hsystem
  split at hsystem
  · cases hsystem
  · split at hsystem
    · cases hsystem
    · rename_i start hstart
      exact reached_defineAll (.new hstart) hsystem

theorem untouched_of_system (hsystem : problem.system = .ok system)
    (graph : Graph) : system.Untouched graph := by
  intro index _
  rw [(defines_of_system hsystem).out]
  rfl

/-- Every problem settles, over any graph and in any direction. -/
theorem settled_of_system (hsystem : problem.system = .ok system)
    (graph : Graph) (direction : Direction) :
    (system.solve graph direction).settled = true :=
  ((reached_of_system hsystem).solve_spec (untouched_of_system hsystem graph)
    direction).1.settled

/-! ### Sessions and commands -/

/-- A session of a problem whose run takes some passes, after a number of
them. -/
def stateAt (problem : Problem) (direction : Direction) (fresh : System)
    (passes count : Nat) : Session where
  graph := problem.graph
  direction
  system := System.after problem.graph direction count fresh
  pass := count
  changed := decide (count < passes)

section

variable {fresh : System} {direction : Direction} {passes : Nat}

theorem stateAt_zero (hends : fresh.Ends problem.graph direction passes) :
    problem.stateAt direction fresh passes 0 =
      { graph := problem.graph, direction, system := fresh } := by
  rw [stateAt, decide_eq_true hends.pos]
  rfl

theorem advanced_stateAt (hends : fresh.Ends problem.graph direction passes)
    (count : Nat) :
    (problem.stateAt direction fresh passes 0).advanced count =
      problem.stateAt direction fresh passes count := by
  have hstart :
      (problem.stateAt direction fresh passes 0).system.Ends problem.graph
        direction passes :=
    hends
  rw [Session.advanced_eq hstart, stateAt, stateAt]
  by_cases hcount : count = 0
  · rw [hcount]
    rfl
  · rw [if_neg hcount, Nat.zero_add]
    rfl

/-- Advancing leads from one state of the run to the next. -/
theorem advance_stateAt (hends : fresh.Ends problem.graph direction passes)
    (count : Nat) :
    (problem.stateAt direction fresh passes count).advance.fault = none ∧
      (problem.stateAt direction fresh passes count).advance.session =
        problem.stateAt direction fresh passes (count + 1) := by
  refine ⟨hends.fault_eq count, ?_⟩
  rw [← advanced_stateAt hends, ← Session.advanced_succ, advanced_stateAt hends]

/-- A trail takes the passes that are left, as far as its budget allows; after
the end it takes one more. -/
theorem cutAt_stateAt (hends : fresh.Ends problem.graph direction passes)
    (count checks : Nat) :
    ((problem.stateAt direction fresh passes count).trail checks).CutAt
      (problem.stateAt direction fresh passes count) (max (passes - count) 1)
        checks :=
  Session.cutAt_trail (hends.after count) checks

theorem atEnd_stateAt (hends : fresh.Ends problem.graph direction passes)
    (count checks : Nat) :
    (problem.stateAt direction fresh passes count).atEnd
        ((problem.stateAt direction fresh passes count).trail checks) =
      problem.stateAt direction fresh passes
        (count + min checks (max (passes - count) 1)) := by
  rw [(cutAt_stateAt hends count checks).final]
  simp only [stateAt, System.after_after, Session.mk.injEq, true_and]
  refine ⟨by rw [Nat.add_comm], ?_⟩
  by_cases hnone : min checks (max (passes - count) 1) = 0
  · rw [if_pos hnone, hnone, Nat.add_zero]
  · rw [if_neg hnone, decide_eq_decide]
    omega

end

end Problem

end GenKill
