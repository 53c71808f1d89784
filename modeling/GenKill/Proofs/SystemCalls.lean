import GenKill.Proofs.Validity

/-!
# Calls to a system

A system is changed by calls that come in any order, with nodes of any graph,
with any lists of elements and with any sets, and some of them are refused.
Whatever calls are made, all sets of the system stay in its universe, so no pass
ever combines sets of two universes.  A call is refused exactly if it brings
something from outside of the universe, and then it has changed nothing; any
other call does what it is for, and leaves the rest of the system alone.
-/

namespace GenKill

namespace Property

/-- The property changes at one node at most, where it comes to hold the chosen
facts. -/
def ChangesAt (site : Site) (chosen : Text → Prop) (before after : Property) :
    Prop :=
  (∀ fact, (after.get site).contains fact = true ↔ chosen fact) ∧
    ∀ other ≠ site, after.get other = before.get other

theorem changesAt_set (property : Property) (site : Site) {value : FactSet}
    {chosen : Text → Prop}
    (hvalue : ∀ fact, value.contains fact = true ↔ chosen fact) :
    ChangesAt site chosen property (property.set site value) := by
  constructor
  · intro fact
    rw [get_set, if_pos rfl, hvalue]
  · intro other hother
    rw [get_set, if_neg hother.symm]

end Property

namespace System

/-- A call to a system.  A run comes with the number of checks after which its
context is done, if it ever is. -/
inductive Call where
  | defineGen (site : Site) (elements : List Text)
  | defineKill (site : Site) (elements : List Text)
  | setOut (site : Site) (value : FactSet)
  | reset
  | step (graph : Graph) (direction : Direction)
  | run (graph : Graph) (direction : Direction) (checks : Option Nat)

inductive Reply where
  | done
  | stepped (changed : Bool)
  | ran (passes : Nat) (settled : Bool)
  | refused (error : Error)
  | broken (fault : Fault)

structure Outcome where
  system : System
  reply : Reply

/-- The outcome of an operation that makes a new system or is refused. -/
def recorded (system : System) : Except Error System → Outcome
  | .ok next => { system := next, reply := .done }
  | .error error => { system, reply := .refused error }

/-- A step or a run that breaks off leaves what it has done until then. -/
def orBroken (reply : Reply) : Option Fault → Reply
  | none => reply
  | some fault => .broken fault

def call (system : System) : Call → Outcome
  | .defineGen site elements => recorded system (system.defineGen site elements)
  | .defineKill site elements =>
      recorded system (system.defineKill site elements)
  | .setOut site value => recorded system (system.setOut site value)
  | .reset => { system := system.reset, reply := .done }
  | .step graph direction =>
      let pass := system.pass graph direction
      { system := pass.system
        reply := orBroken (.stepped pass.changed) pass.fault }
  | .run graph direction checks =>
      let run :=
        System.run graph direction (checks.getD (system.passLimit graph)) system
      { system := run.system
        reply := orBroken (.ran run.passes run.settled) run.fault }

/-- The system that calls lead to, refused ones included. -/
def afterCalls (system : System) (calls : List Call) : System :=
  calls.foldl (fun system call => (system.call call).system) system

/-- The call brings an element or a set that does not belong to the universe. -/
def Call.Foreign (facts : Universe) : Call → Prop
  | defineGen _ elements => ∃ element ∈ elements, element ∉ facts.elements
  | defineKill _ elements => ∃ element ∈ elements, element ∉ facts.elements
  | setOut _ value => ∃ other, value.facts = some other ∧ other ≠ facts
  | _ => False

/-- Nothing but out sets at the nodes of the graph has changed. -/
structure ChangesOuts (graph : Graph) (before after : System) : Prop where
  gen : after.gen = before.gen
  kill : after.kill = before.kill
  out : ∀ site, (∀ index < graph.size, graph.site index ≠ site) →
    after.out.get site = before.out.get site

/-- What a call that is not refused makes of a system. -/
def Call.Effect (before after : System) : Call → Prop
  | defineGen site elements =>
      Property.ChangesAt site (· ∈ elements) before.gen after.gen ∧
        after.kill = before.kill ∧ after.out = before.out
  | defineKill site elements =>
      after.gen = before.gen ∧
        Property.ChangesAt site (· ∈ elements) before.kill after.kill ∧
        after.out = before.out
  | setOut site value =>
      after.gen = before.gen ∧ after.kill = before.kill ∧
        Property.ChangesAt site (value.contains · = true) before.out after.out
  | reset =>
      after.gen = before.gen ∧ after.kill = before.kill ∧
        ∀ site, after.out.get site = before.out.default
  | step graph _ => ChangesOuts graph before after
  | run graph _ _ => ChangesOuts graph before after

variable {facts : Universe} {initial : FactSet} {system : System}

/-! ### What calls lead to -/

/-- A run leaves what some number of passes leaves, however it ends. -/
theorem exists_run_eq_after (graph : Graph) (direction : Direction)
    (budget : Nat) (system : System) :
    ∃ count, (System.run graph direction budget system).system =
      after graph direction count system := by
  induction budget generalizing system with
  | zero => exact ⟨0, rfl⟩
  | succ budget ih =>
      by_cases hlast : (system.pass graph direction).IsLast
      · rw [run_of_isLast budget hlast]
        exact ⟨1, rfl⟩
      · obtain ⟨count, hcount⟩ := ih (system.pass graph direction).system
        rw [run_of_not_isLast budget hlast]
        exact ⟨count + 1, hcount⟩

theorem Reached.after (hreached : Reached facts initial system) (graph : Graph)
    (direction : Direction) (count : Nat) :
    Reached facts initial (System.after graph direction count system) := by
  induction count with
  | zero => exact hreached
  | succ count ih =>
      rw [after_succ]
      exact ih.pass graph direction

theorem Reached.recorded (hreached : Reached facts initial system)
    {result : Except Error System}
    (hresult : ∀ next, result = .ok next → Reached facts initial next) :
    Reached facts initial (recorded system result).system := by
  cases result with
  | error error => exact hreached
  | ok next => exact hresult next rfl

/-- A call leads from a reached system to a reached one. -/
theorem Reached.call (hreached : Reached facts initial system) (call : Call) :
    Reached facts initial (system.call call).system := by
  cases call with
  | defineGen site elements =>
      exact hreached.recorded fun _ hnext => hreached.defineGen hnext
  | defineKill site elements =>
      exact hreached.recorded fun _ hnext => hreached.defineKill hnext
  | setOut site value =>
      exact hreached.recorded fun _ hnext => hreached.setOut hnext
  | reset => exact hreached.reset
  | step graph direction => exact hreached.pass graph direction
  | run graph direction checks =>
      obtain ⟨count, hcount⟩ := exists_run_eq_after graph direction
        (checks.getD (system.passLimit graph)) system
      simp only [System.call, hcount]
      exact hreached.after graph direction count

theorem Reached.afterCalls (hreached : Reached facts initial system)
    (calls : List Call) : Reached facts initial (system.afterCalls calls) := by
  induction calls generalizing system with
  | nil => exact hreached
  | cons call calls ih => exact ih (hreached.call call)

/-! ### What single calls do -/

theorem changesOuts_after (hwell : system.WellFormed) (graph : Graph)
    (direction : Direction) (count : Nat) :
    ChangesOuts graph system (after graph direction count system) := by
  obtain ⟨values, hvalues⟩ := (after_spec hwell graph direction count).2.1
  refine ⟨?_, ?_,
    fun site hsite => get_out_after graph direction count system hsite⟩
  · rw [hvalues]
  · rw [hvalues]

/-- What a call replies and leaves, where `foreign` says that it has to be
refused, and `effect` what it does otherwise. -/
structure Answers (system : System) (foreign : Prop) (effect : System → Prop)
    (outcome : Outcome) : Prop where
  refused_iff : (∃ error, outcome.reply = .refused error) ↔ foreign
  not_broken : ∀ fault, outcome.reply ≠ .broken fault
  unchanged : foreign → outcome.system = system
  effect : ¬ foreign → effect outcome.system

/-- An operation that is refused just where it should be answers its call. -/
theorem answers_recorded {result : Except Error System} {foreign : Prop}
    {effect : System → Prop} (hresult : (∃ next, result = .ok next) ↔ ¬ foreign)
    (heffect : ∀ next, result = .ok next → effect next) :
    Answers system foreign effect (recorded system result) := by
  cases result with
  | error error =>
      have hforeign : foreign := by simpa using hresult
      exact ⟨iff_of_true ⟨error, rfl⟩ hforeign, by simp [recorded],
        fun _ => rfl, fun hnot => absurd hforeign hnot⟩
  | ok next =>
      have hnot : ¬ foreign := by simpa using hresult
      exact ⟨iff_of_false (by simp [recorded]) hnot, by simp [recorded],
        fun hforeign => absurd hforeign hnot, fun _ => heffect next rfl⟩

theorem answers_of_fault_none {next : System} {reply : Reply}
    {fault : Option Fault} {effect : System → Prop} (hfault : fault = none)
    (hrefused : ∀ error, reply ≠ .refused error)
    (hbroken : ∀ fault, reply ≠ .broken fault) (heffect : effect next) :
    Answers system False effect
      { system := next, reply := orBroken reply fault } := by
  subst hfault
  exact ⟨iff_of_false (fun ⟨error, heq⟩ => hrefused error heq) id, hbroken,
    False.elim, fun _ => heffect⟩

/-- A definition records the set of the given elements, and is refused if one of
them is no element of the universe. -/
theorem answers_define (role : Role) (system : System) (site : Site)
    (elements : List Text) {effect : System → Prop}
    (heffect : ∀ value : FactSet,
      (∀ fact, value.contains fact = true ↔ fact ∈ elements) →
        effect (system.withSet site value role)) :
    Answers system (∃ element ∈ elements, element ∉ system.facts.elements)
      effect (recorded system (system.define role site elements)) := by
  apply answers_recorded
  · push Not
    rw [← Universe.exists_set_iff, define]
    cases system.facts.set elements <;> simp
  · intro next hnext
    rw [define] at hnext
    split at hnext
    · cases hnext
    · rename_i value hvalue
      cases hnext
      apply heffect
      intro fact
      rw [Universe.contains_of_set hvalue, decide_eq_true_iff]

theorem answers_setOut (system : System) (site : Site) (value : FactSet) :
    Answers system ((Call.setOut site value).Foreign system.facts)
      ((Call.setOut site value).Effect system)
        (system.call (.setOut site value)) := by
  apply answers_recorded
  · have hcheck : (∃ next, system.setOut site value = .ok next) ↔
        system.facts.check value = .ok () := by
      rw [setOut]
      cases system.facts.check value <;> simp
    rw [hcheck, Universe.check_eq_ok_iff, Call.Foreign]
    cases value.facts <;> simp
  · intro next hnext
    obtain ⟨-, rfl⟩ := setOut_eq hnext
    refine ⟨rfl, rfl, Property.changesAt_set _ site fun fact => ?_⟩
    rw [Universe.contains_adopt]

/-- Every call of a well-formed system is refused exactly if it brings in
something foreign, and has its effect otherwise. -/
theorem WellFormed.answers (hwell : system.WellFormed) (call : Call) :
    Answers system (call.Foreign system.facts) (call.Effect system)
      (system.call call) := by
  cases call with
  | defineGen site elements =>
      exact answers_define .gen system site elements fun _ hvalue =>
        ⟨Property.changesAt_set system.gen site hvalue, rfl, rfl⟩
  | defineKill site elements =>
      exact answers_define .kill system site elements fun _ hvalue =>
        ⟨rfl, Property.changesAt_set system.kill site hvalue, rfl⟩
  | setOut site value => exact answers_setOut system site value
  | reset =>
      exact answers_of_fault_none rfl (by simp) (by simp)
        ⟨rfl, rfl, fun _ => rfl⟩
  | step graph direction =>
      exact answers_of_fault_none (pass_spec hwell graph direction).fault
        (by simp) (by simp) (changesOuts_after hwell graph direction 1)
  | run graph direction checks =>
      obtain ⟨count, hcount⟩ := exists_run_eq_after graph direction
        (checks.getD (system.passLimit graph)) system
      refine answers_of_fault_none (hwell.valid.run_adopted graph direction _).1
        (by simp) (by simp) ?_
      rw [hcount]
      exact changesOuts_after hwell graph direction count

/-- Whatever calls are made to a new system, refused ones included, it is valid,
all its sets belong to its universe, and no pass over any graph fails.  The next
call is refused exactly if it brings an element or a set from outside of the
universe.  A refused call leaves the system as it was, and any other call has
its effect. -/
theorem calls_stay_within {start : System}
    (hstart : facts.system initial = .ok start) (calls : List Call) :
    let system := start.afterCalls calls
    system.facts = facts ∧ system.validate = .ok () ∧
      (∀ site, (system.gen.get site).facts = some facts ∧
        (system.kill.get site).facts = some facts ∧
        (system.out.get site).facts = some facts) ∧
      (∀ graph direction, (system.pass graph direction).fault = none) ∧
      ∀ call,
        ((∃ error, (system.call call).reply = .refused error) ↔
            call.Foreign facts) ∧
          (∀ fault, (system.call call).reply ≠ .broken fault) ∧
          (call.Foreign facts → (system.call call).system = system) ∧
          (¬ call.Foreign facts →
            call.Effect system (system.call call).system) := by
  intro system
  obtain ⟨hwell, hfacts, -⟩ := ((Reached.new hstart).afterCalls calls).spec
  refine ⟨hfacts, validate_eq_ok_iff.mpr hwell.valid, fun site => ?_,
    fun graph direction => (pass_spec hwell graph direction).fault,
    fun call => ?_⟩
  · rw [← hfacts]
    exact ⟨hwell.gen.2 site, hwell.kill.2 site, hwell.out.2 site⟩
  · have hanswers := hwell.answers call
    rw [hfacts] at hanswers
    exact ⟨hanswers.refused_iff, hanswers.not_broken, hanswers.unchanged,
      hanswers.effect⟩

/-- A universe with the same element, which is nevertheless another one. -/
def ringFactsAgain : Universe := { ringFacts with ident := 1 }

/-- Definitions at nodes of the ring, refused calls between them, and a run. -/
def ringCalls : List Call :=
  [.defineKill (ring.site 1) ["x"], .defineGen (ring.site 0) ["x", "y"],
    .setOut (ring.site 2) ringFactsAgain.full, .setOut (ring.site 2) .zero,
    .run ring .forward none]

theorem calls_stay_within_ring :
    ringFacts.system ringFacts.full = .ok ringStart ∧
      (ringStart.afterCalls ringCalls).validate = .ok () ∧
      (∃ error, ((ringStart.afterCalls ringCalls).call
        (.setOut (ring.site 2) ringFactsAgain.full)).reply = .refused error) ∧
      ((ringStart.afterCalls ringCalls).call
        (.setOut (ring.site 2) ringFactsAgain.full)).system =
        ringStart.afterCalls ringCalls ∧
      ∀ fact, ¬ (((ringStart.afterCalls ringCalls).call
        (.setOut (ring.site 2) .zero)).system.out.get (ring.site 2)).contains
        fact = true := by
  obtain ⟨-, hvalidate, -, -, hcalls⟩ :=
    calls_stay_within system_ringFacts ringCalls
  have hforeign :
      (Call.setOut (ring.site 2) ringFactsAgain.full).Foreign ringFacts :=
    ⟨ringFactsAgain, rfl, by decide⟩
  have hown : ¬ (Call.setOut (ring.site 2) .zero).Foreign ringFacts :=
    fun ⟨_, hother, _⟩ => Option.some_ne_none _ hother.symm
  obtain ⟨hrefused, -, hunchanged, -⟩ :=
    hcalls (.setOut (ring.site 2) ringFactsAgain.full)
  obtain ⟨-, -, -, heffect⟩ := hcalls (.setOut (ring.site 2) .zero)
  refine ⟨system_ringFacts, hvalidate, hrefused.mpr hforeign,
    hunchanged hforeign, fun fact hfact => ?_⟩
  exact Bool.noConfusion (((heffect hown).2.2.1 fact).mp hfact)

end System

end GenKill
