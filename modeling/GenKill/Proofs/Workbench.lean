import GenKill.Proofs.Problem.Run
import GenKill.Proofs.Snapshot
import GenKill.Workbench

/-!
# Sessions on a workbench

The state of a session lies in three places: its counters, the system that it
works on, and the problem from which a reset makes a new system.  Whatever calls
are made to a session, as long as its problem stays as it was, the session is
where the passes since its last reset have taken it.
-/

namespace GenKill

namespace Workbench

/-! ### Calls -/

/-- A call to a session.  A run comes with the number of checks after which its
context is done, if it ever is. -/
inductive SessionCall where
  | advance
  | reset
  | run (checks : Option Nat)

inductive SessionReply where
  | shown (snapshot : Snapshot)
  | canceled (snapshot : Snapshot)
  | refused (error : Error)
  | broken (fault : Fault)
  | unknown

structure Outcome where
  bench : Workbench
  /-- The passes that the call took. -/
  passes : Nat := 0
  reply : SessionReply

/-- The outcome of a call to a session in its current state. -/
def respond (bench : Workbench) (number : Nat) (session : Session) :
    SessionCall → Outcome
  | .advance =>
      let step := session.advance
      { bench := bench.setSession number step.session
        passes := 1
        reply := match step.fault with
          | some fault => .broken fault
          | none => .shown step.session.snapshot }
  | .reset =>
      match bench.resetSession number with
      | .error error => { bench, reply := .refused error }
      | .ok next =>
          { bench := next
            reply := .shown ((next.session? number).getD session).snapshot }
  | .run checks =>
      let trail := session.trail (checks.getD session.passLimit)
      let final := session.atEnd trail
      { bench := bench.setSession number final
        passes := trail.steps.length
        reply := match trail.steps.getLast?.bind Session.Step.fault with
          | some fault => .broken fault
          | none =>
              if trail.settled then .shown final.snapshot
              else .canceled final.snapshot }

def call (bench : Workbench) (number : Nat) (call : SessionCall) : Outcome :=
  match bench.session? number with
  | none => { bench, reply := .unknown }
  | some session => bench.respond number session call

structure History where
  bench : Workbench
  /-- The passes since the last reset. -/
  passes : Nat := 0
  replies : List SessionReply := []

def History.add (number : Nat) (history : History) (call : SessionCall) :
    History :=
  let outcome := history.bench.call number call
  { bench := outcome.bench
    passes := match call, outcome.reply with
      | .reset, .shown _ => 0
      | _, _ => history.passes + outcome.passes
    replies := history.replies ++ [outcome.reply] }

def history (bench : Workbench) (number : Nat) (calls : List SessionCall) :
    History :=
  calls.foldl (History.add number) { bench }

/-! ### Sessions of a problem that stays -/

/-- A workbench that has a problem under a number, and its graph too. -/
structure Keeps (bench : Workbench) (number : Nat) (problem : Problem) :
    Prop where
  found : bench.problem? number = some problem
  graph : bench.graph problem.graph.ident = problem.graph

/-- A workbench with a session, in some state, of a problem that it keeps. -/
structure Follows (bench : Workbench) (number : Nat) (problem : Problem)
    (session : Nat) (state : Session) : Prop where
  keeps : bench.Keeps number problem
  graph : state.graph = problem.graph
  entry : ∃ system, bench.system? system = some state.system ∧
    bench.sessions.get? session = some {
      graph := problem.graph.ident, direction := state.direction, setup :=
        .problem number
      system, pass := state.pass, changed := state.changed }

namespace Follows

variable {bench : Workbench} {number session : Nat} {problem : Problem}
  {state : Session}

theorem session?_eq (hfollows : bench.Follows number problem session state) :
    bench.session? session = some state := by
  obtain ⟨system, hsystem, hentry⟩ := hfollows.entry
  rw [session?, hentry, Option.bind_some, hsystem, Option.map_some,
    hfollows.keeps.graph, ← hfollows.graph]

/-- A session records what it has done, and nothing else changes. -/
theorem setSession (hfollows : bench.Follows number problem session state)
    {next : Session} (hgraph : next.graph = state.graph)
    (hdirection : next.direction = state.direction) :
    (bench.setSession session next).Follows number problem session next := by
  obtain ⟨system, hsystem, hentry⟩ := hfollows.entry
  have hset : bench.setSession session next = { bench with
      systems := bench.systems.insert system next.system
      sessions := bench.sessions.insert session {
        graph := problem.graph.ident, direction := state.direction, setup :=
          .problem number
        system, pass := next.pass, changed := next.changed } } := by
    simp only [Workbench.setSession, hentry]
    rfl
  rw [hset]
  refine ⟨⟨hfollows.keeps.found, hfollows.keeps.graph⟩,
    hgraph.trans hfollows.graph, system, ?_, ?_⟩
  · rw [system?, Table.get?_insert, if_pos rfl]
  · rw [Table.get?_insert, if_pos rfl, hdirection]

/-- A reset puts a fresh system in the place of the old one. -/
theorem resetSession (hfollows : bench.Follows number problem session state)
    {fresh : System} (hsystem : problem.system = .ok fresh) :
    ∃ next,
      bench.resetSession session = .ok next ∧
        next.Follows number problem session
          { graph := problem.graph, direction := state.direction
            system := fresh } := by
  obtain ⟨system, -, hentry⟩ := hfollows.entry
  simp only [Workbench.resetSession, hentry, setUp, hfollows.keeps.found,
    hsystem]
  refine ⟨_, rfl, ⟨hfollows.keeps.found, hfollows.keeps.graph⟩, rfl, bench.next,
    ?_, ?_⟩
  · simp only [system?, addSystem, take, setSystem]
    rw [Table.get?_insert, if_pos rfl]
  · rw [Table.get?_insert, if_pos rfl]
    rfl

end Follows

namespace SessionCall

/-- The passes that a session has taken after a call, if the run takes `passes`
and the session has taken `count` before.  A run after the end takes one
pass. -/
def target (passes count : Nat) : SessionCall → Nat
  | advance => count + 1
  | reset => 0
  | run none => count + max (passes - count) 1
  | run (some checks) => count + min checks (max (passes - count) 1)

def isCut (passes count : Nat) : SessionCall → Bool
  | run (some checks) => decide (checks < max (passes - count) 1)
  | _ => false

/-- The reply to a call, given the states of the run. -/
def answer (states : Nat → Session) (passes count : Nat) (call : SessionCall) :
    SessionReply :=
  let snapshot := (states (call.target passes count)).snapshot
  if call.isCut passes count then .canceled snapshot else .shown snapshot

end SessionCall

section

variable {bench : Workbench} {number session : Nat} {problem : Problem}
  {direction : Direction} {fresh : System} {passes count : Nat}

theorem passLimit_stateAt (hsystem : problem.system = .ok fresh) :
    (problem.stateAt direction fresh passes count).passLimit =
      fresh.passLimit problem.graph := by
  have hwell := (Problem.reached_of_system hsystem).wellFormed
  have hfacts : (System.after problem.graph direction count fresh).facts =
      fresh.facts :=
    System.facts_after hwell count
  rw [Session.passLimit, System.passLimit, System.passLimit]
  exact congrArg
    (fun facts : Universe => 1 <<< (problem.graph.size * facts.size) + 1) hfacts

/-- A run call takes the passes that are left, or as many as its context lets
it. -/
theorem respond_run (hfollows : bench.Follows number problem session
      (problem.stateAt direction fresh passes count))
    (hends : fresh.Ends problem.graph direction passes)
    (hlimit : passes ≤ (problem.stateAt direction fresh passes count).passLimit)
    (checks : Option Nat) :
    let outcome :=
      bench.respond session (problem.stateAt direction fresh passes count)
        (.run checks)
    let target := SessionCall.target passes count (.run checks)
    outcome.bench.Follows number problem session
        (problem.stateAt direction fresh passes target) ∧
      outcome.reply =
        SessionCall.answer (problem.stateAt direction fresh passes) passes count
          (.run checks) ∧
      count + outcome.passes = target := by
  intro outcome target
  have hpos := hends.pos
  generalize hbudget :
    checks.getD (problem.stateAt direction fresh passes count).passLimit =
      budget
  have htarget : count + min budget (max (passes - count) 1) = target := by
    subst hbudget
    cases checks with
    | none =>
        rw [Option.getD_none, Nat.min_eq_right (by omega)]
        rfl
    | some checks => rfl
  have hcutOff : SessionCall.isCut passes count (.run checks) =
      !decide (max (passes - count) 1 ≤ budget) := by
    subst hbudget
    cases checks with
    | none =>
        rw [Option.getD_none, decide_eq_true (by omega)]
        rfl
    | some checks => rw [Option.getD_some, ← decide_not, SessionCall.isCut,
      decide_eq_decide]; omega
  have hcut := Problem.cutAt_stateAt hends count budget
  have hfinal := Problem.atEnd_stateAt hends count budget
  rw [htarget] at hfinal
  refine ⟨?_, ?_, ?_⟩
  · simp only [outcome, respond, hbudget, hfinal]
    exact hfollows.setSession rfl rfl
  · simp only [outcome, respond, hbudget, hfinal, hcut.last_fault, hcut.settled,
      SessionCall.answer, hcutOff]
    cases decide (max (passes - count) 1 ≤ budget) <;> rfl
  · simp only [outcome, respond, hbudget, hcut.steps]
    exact htarget

/-- A call takes a session of a problem from one state of the run to another,
and shows it. -/
theorem call_stateAt (hsystem : problem.system = .ok fresh)
    (hpasses : (fresh.solve problem.graph direction).passes = passes)
    (hfollows : bench.Follows number problem session
      (problem.stateAt direction fresh passes count)) (call : SessionCall) :
    let outcome := bench.call session call
    let target := call.target passes count
    outcome.bench.Follows number problem session
        (problem.stateAt direction fresh passes target) ∧
      outcome.reply =
        call.answer (problem.stateAt direction fresh passes) passes count ∧
      (call ≠ .reset → count + outcome.passes = target) := by
  have hsettled := Problem.settled_of_system hsystem problem.graph direction
  have hends : fresh.Ends problem.graph direction passes :=
    hpasses ▸ System.ends_of_settled hsettled
  have hcall : bench.call session call =
      bench.respond session (problem.stateAt direction fresh passes count)
        call := by
    rw [Workbench.call, hfollows.session?_eq]
  simp only [hcall]
  cases call with
  | advance =>
      obtain ⟨hfault, hnext⟩ := Problem.advance_stateAt hends count
      simp only [respond, hfault, hnext]
      exact ⟨hfollows.setSession rfl rfl, rfl, fun _ => rfl⟩
  | reset =>
      obtain ⟨next, hnext, hstart⟩ := hfollows.resetSession hsystem
      simp only [respond, hnext, hstart.session?_eq, Option.getD_some]
      refine ⟨?_, ?_, fun hcall => absurd rfl hcall⟩
      · rw [SessionCall.target, Problem.stateAt_zero hends]
        exact hstart
      · rw [SessionCall.answer, SessionCall.target, Problem.stateAt_zero hends]
        rfl
  | run checks =>
      have hlimit : passes ≤
          (problem.stateAt direction fresh passes count).passLimit := by
        rw [passLimit_stateAt hsystem, ← hpasses]
        exact System.passes_le_passLimit hsettled
      obtain ⟨hnext, hreply, htaken⟩ := respond_run hfollows hends hlimit checks
      exact ⟨hnext, hreply, fun _ => htaken⟩

/-! ### Histories -/

/-- A history whose session is in the state that its count of passes says. -/
abbrev History.IsAt (history : History) (number : Nat) (problem : Problem)
    (session : Nat) (states : Nat → Session) : Prop :=
  history.bench.Follows number problem session (states history.passes)

/-- Each call moves the session along the states of the run, and replies with
the state that it reaches. -/
theorem History.IsAt.add {history : History}
    (hsystem : problem.system = .ok fresh)
    (hpasses : (fresh.solve problem.graph direction).passes = passes)
    (hat : history.IsAt number problem session
      (problem.stateAt direction fresh passes))
    (call : SessionCall) : let states := problem.stateAt direction fresh passes
    (history.add session call).IsAt number problem session states ∧
      (history.add session call).passes = call.target passes history.passes ∧
      (history.add session call).replies =
        history.replies ++ [call.answer states passes history.passes] := by
  intro states
  obtain ⟨hnext, hreply, htaken⟩ := call_stateAt hsystem hpasses hat call
  have hcount : (history.add session call).passes =
      call.target passes history.passes := by
    cases call with
    | reset =>
        simp only [History.add, hreply]
        rfl
    | advance => exact htaken (by simp)
    | run checks => exact htaken (by simp)
  refine ⟨?_, hcount, ?_⟩
  · rw [History.IsAt, hcount]
    exact hnext
  · simp only [History.add, hreply]
    rfl

end

/-! ### What calls lead to -/

end Workbench

end GenKill
