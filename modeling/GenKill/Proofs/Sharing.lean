import GenKill.Proofs.Simulation
import GenKill.Proofs.SystemCalls

/-!
# Graphs that share a system

A system holds sets for the nodes of any number of graphs, which may be called
the same.  A pass over one graph reads and records out sets at its own nodes
only, so passes over several graphs, in any order, give each graph what its own
passes give it alone, and whole runs over two graphs can change places.
-/

namespace GenKill

def Graph.Lacks (graph : Graph) (site : Site) : Prop :=
  ∀ index < graph.size, graph.site index ≠ site

theorem Graph.lacks_of_ne {graph : Graph} {site : Site}
    (hne : site.graph ≠ graph.ident) : graph.Lacks site := by
  intro index _ heq
  exact hne (congrArg Site.graph heq).symm

namespace System

/-! ### Systems that agree on some nodes -/

/-- Systems that differ at most in the out values of other nodes. -/
structure AgreeOn (part : Site → Prop) (left right : System) : Prop where
  facts : left.facts = right.facts
  gen : left.gen = right.gen
  kill : left.kill = right.kill
  name : left.out.name = right.out.name
  default : left.out.default = right.out.default
  values : ∀ site, part site →
    left.out.values.get? site = right.out.values.get? site

namespace AgreeOn

variable {part other : Site → Prop} {left middle right : System}

theorem refl (part : Site → Prop) (system : System) :
    AgreeOn part system system :=
  ⟨rfl, rfl, rfl, rfl, rfl, fun _ _ => rfl⟩

theorem symm (hagree : AgreeOn part left right) : AgreeOn part right left where
  facts := hagree.facts.symm
  gen := hagree.gen.symm
  kill := hagree.kill.symm
  name := hagree.name.symm
  default := hagree.default.symm
  values site hsite := (hagree.values site hsite).symm

theorem trans (hleft : AgreeOn part left middle)
    (hright : AgreeOn part middle right) : AgreeOn part left right where
  facts := hleft.facts.trans hright.facts
  gen := hleft.gen.trans hright.gen
  kill := hleft.kill.trans hright.kill
  name := hleft.name.trans hright.name
  default := hleft.default.trans hright.default
  values site hsite :=
    (hleft.values site hsite).trans (hright.values site hsite)

theorem mono (hagree : AgreeOn part left right)
    (hpart : ∀ site, other site → part site) : AgreeOn other left right :=
  { hagree with
    values := fun site hsite => hagree.values site (hpart site hsite) }

theorem get_out (hagree : AgreeOn part left right) {site : Site}
    (hsite : part site) : left.out.get site = right.out.get site := by
  rw [Property.get, Property.get, hagree.values site hsite, hagree.default]

theorem set_out (hagree : AgreeOn part left right) (site : Site)
    (value : FactSet) :
    AgreeOn part { left with out := left.out.set site value }
      { right with out := right.out.set site value } := by
  refine { hagree with values := fun other hother => ?_ }
  rw [Property.set, Property.set, Table.get?_insert, Table.get?_insert,
    hagree.values other hother]

/-- Systems that agree on all nodes are the same. -/
theorem eq (hagree : AgreeOn (fun _ => True) left right) : left = right := by
  obtain ⟨facts, gen, kill, name, default, values⟩ := left
  obtain ⟨otherFacts, otherGen, otherKill, otherName, otherDefault,
    otherValues⟩ := right
  cases hagree.facts
  cases hagree.gen
  cases hagree.kill
  cases hagree.name
  cases hagree.default
  have hvalues : values = otherValues :=
    Table.ext fun site => hagree.values site trivial
  cases hvalues
  rfl

end AgreeOn

/-! ### What passes leave alone -/

section

variable (graph : Graph) (direction : Direction)

/-- A pass over a graph changes nothing at nodes that the graph lacks. -/
theorem agreeOn_pass (system : System) :
    AgreeOn graph.Lacks (system.pass graph direction).system system := by
  obtain ⟨values, hvalues, hothers⟩ :=
    passOver_records graph direction (List.range graph.size) system
  rw [pass, hvalues]
  refine ⟨rfl, rfl, rfl, rfl, rfl,
    fun site hsite => hothers site fun index hindex => ?_⟩
  exact hsite index (List.mem_range.mp hindex)

theorem agreeOn_after (count : Nat) (system : System) :
    AgreeOn graph.Lacks (after graph direction count system) system := by
  induction count with
  | zero => exact .refl _ system
  | succ count ih =>
      rw [after_succ]
      exact (agreeOn_pass graph direction _).trans ih

/-- Nor does a run. -/
theorem agreeOn_run (budget : Nat) (system : System) :
    AgreeOn graph.Lacks (run graph direction budget system).system system := by
  obtain ⟨count, hcount⟩ := exists_run_eq_after graph direction budget system
  rw [hcount]
  exact agreeOn_after graph direction count system

/-- Passes over a graph go on in lockstep from systems that agree on its
nodes. -/
theorem lockstep_of_agreeOn : Lockstep graph direction graph direction
    (AgreeOn fun site => site.graph = graph.ident) where
  size := rfl
  name _ _ := rfl
  neighbors _ _ := rfl
  sets hagree := by
    refine ⟨hagree.facts, fun index _ => ?_, fun index _ => ?_,
      fun index _ => hagree.get_out rfl⟩
    · rw [hagree.gen]
    · rw [hagree.kill]
  record hagree index _ value := hagree.set_out (graph.site index) value

end

/-! ### Passes over several graphs -/

structure Task where
  graph : Graph
  direction : Direction

/-- What a pass over a graph has to say, and the out sets that it leaves at the
nodes. -/
structure Report where
  graph : Nat
  changed : Bool
  fault : Option Fault
  outs : List FactSet

def Task.report (task : Task) (pass : Pass) : Report where
  graph := task.graph.ident
  changed := pass.changed
  fault := pass.fault
  outs := task.graph.sites.map pass.system.out.get

theorem Task.graph_report (task : Task) (pass : Pass) :
    (task.report pass).graph = task.graph.ident := rfl

/-- Makes passes one after the other, and collects the reports. -/
def reports : List Task → System → List Report
  | [], _ => []
  | task :: rest, system =>
      let pass := system.pass task.graph task.direction
      task.report pass :: reports rest pass.system

def finish : List Task → System → System
  | [], system => system
  | task :: rest, system =>
      finish rest (system.pass task.graph task.direction).system

/-- The report of a task depends only on the nodes of its graph. -/
theorem Task.report_eq {task : Task} {left right : Pass}
    (hsame :
      Pass.Same (AgreeOn fun site => site.graph = task.graph.ident) left
        right) :
    task.report left = task.report right := by
  have houts : task.graph.sites.map left.system.out.get =
      task.graph.sites.map right.system.out.get := by
    apply List.map_congr_left
    intro site hsite
    obtain ⟨index, -, rfl⟩ := List.mem_map.mp hsite
    exact hsame.system.get_out rfl
  rw [report, report, hsame.changed, hsame.fault, houts]

/-- Passes over other graphs make no difference to a graph. -/
theorem reports_filter (ident : Nat) (tasks : List Task) {left right : System}
    (hagree : AgreeOn (fun site => site.graph = ident) left right) :
    (reports tasks left).filter (fun report => report.graph = ident) =
        reports (tasks.filter fun task => task.graph.ident = ident) right ∧
      AgreeOn (fun site => site.graph = ident) (finish tasks left)
        (finish (tasks.filter fun task => task.graph.ident = ident) right) := by
  induction tasks generalizing left right with
  | nil => exact ⟨rfl, hagree⟩
  | cons task rest ih =>
      by_cases htask : task.graph.ident = ident
      · subst htask
        have hsame :=
          (lockstep_of_agreeOn task.graph task.direction).pass hagree
        obtain ⟨hreports, hfinish⟩ := ih hsame.system
        simp only [List.filter_cons, reports, finish, Task.graph_report,
          decide_true, if_true]
        exact ⟨congrArg₂ List.cons (Task.report_eq hsame) hreports, hfinish⟩
      · -- only the left system makes this pass, and the nodes in question are
        -- not in its graph
        have hframe :=
          (agreeOn_pass task.graph task.direction left).mono
            fun site (hsite : site.graph = ident) =>
              Graph.lacks_of_ne (hsite ▸ Ne.symm htask)
        simp only [List.filter_cons, reports, finish, Task.graph_report, htask,
          decide_false, Bool.false_eq_true, if_false]
        exact ih (hframe.trans hagree)

theorem fault_of_mem_reports {system : System} (hvalid : system.Valid)
    {tasks : List Task} {report : Report}
    (hreport : report ∈ reports tasks system) : report.fault = none := by
  induction tasks generalizing system with
  | nil => cases hreport
  | cons task rest ih =>
      have hpass := hvalid.pass_adopted task.graph task.direction
      rcases List.mem_cons.mp hreport with rfl | hlater
      · exact hpass.fault
      · exact ih hpass.valid hlater

/-! ### Runs over two graphs -/

section

variable {first second : Graph}

/-- A run is not disturbed by a run over another graph. -/
theorem run_same (hne : first.ident ≠ second.ident)
    (direction other : Direction) (budget limit : Nat) (system : System) :
    Run.Same (AgreeOn fun site => site.graph = second.ident)
      (run second other limit (run first direction budget system).system)
      (run second other limit system) := by
  have hframe := (agreeOn_run first direction budget system).mono fun site
    (hsite : site.graph = second.ident) => Graph.lacks_of_ne (hsite ▸ hne.symm)
  exact (lockstep_of_agreeOn second other).run hframe limit

/-- Runs over two graphs can change places. -/
theorem run_comm (hne : first.ident ≠ second.ident)
    (direction other : Direction) (budget limit : Nat) (system : System) :
    (run second other limit (run first direction budget system).system).system =
      (run first direction budget
        (run second other limit system).system).system := by
  have hfirst := agreeOn_run first direction budget system
  have hsecond := agreeOn_run second other limit system
  have hlate :=
    agreeOn_run second other limit (run first direction budget system).system
  have hearly :=
    agreeOn_run first direction budget (run second other limit system).system
  have hsameSecond := (run_same hne direction other budget limit system).system
  have hsameFirst :=
    (run_same hne.symm other direction limit budget system).system
  apply AgreeOn.eq
  have hframe := (hlate.mono fun site (hsite : site.graph = first.ident) =>
    Graph.lacks_of_ne (hsite ▸ hne)).trans hsameFirst.symm
  -- a node is one of the first graph, one of the second, or one of neither
  refine { hframe with values := fun site _ => ?_ }
  by_cases hsite : site.graph = first.ident
  · exact hframe.values site hsite
  · have hlacks : first.Lacks site := Graph.lacks_of_ne hsite
    rw [hearly.values site hlacks]
    by_cases hother : site.graph = second.ident
    · exact hsameSecond.values site hother
    · have hlacksSecond : second.Lacks site := Graph.lacks_of_ne hother
      rw [hlate.values site hlacksSecond, hsecond.values site hlacksSecond,
        hfirst.values site hlacks]

theorem solve_solve (first second : Graph) (direction other : Direction)
    (system : System) :
    (system.solve first direction).system.solve second other =
      run second other (system.passLimit second)
        (run first direction (system.passLimit first) system).system := by
  have hfacts :=
    (agreeOn_run first direction (system.passLimit first) system).facts
  have hlimit :
      (run first direction (system.passLimit first) system).system.passLimit
          second =
        system.passLimit second :=
    congrArg (fun facts : Universe => 1 <<< (second.size * facts.size) + 1)
      hfacts
  simp only [solve, hlimit]

end

/-- Passes and runs over a graph of a valid system do not fail, and change
nothing but out sets at nodes of the graph.  So each graph gets from passes over
several graphs, in whatever order, the reports and the out sets that its own
passes give it; and two graphs can be solved in either order, each in as many
passes as alone, with the same system in the end. -/
theorem graphs_do_not_interfere {system : System}
    (hvalid : system.validate = .ok ()) :
    (∀ (graph : Graph) (direction : Direction),
      (system.pass graph direction).fault = none ∧
      AgreeOn graph.Lacks (system.pass graph direction).system system ∧
      (∀ budget, (run graph direction budget system).fault = none ∧
        AgreeOn graph.Lacks (run graph direction budget system).system system) ∧
      (system.solve graph direction).fault = none ∧
      AgreeOn graph.Lacks (system.solve graph direction).system system) ∧
    (∀ tasks : List Task,
      (∀ report ∈ reports tasks system, report.fault = none) ∧
        ∀ ident,
          (reports tasks system).filter (fun report => report.graph = ident) =
            reports (tasks.filter fun task => task.graph.ident = ident) system ∧
          ∀ site : Site, site.graph = ident →
            (finish tasks system).out.get site =
              (finish (tasks.filter fun task => task.graph.ident = ident)
                system).out.get site) ∧
    ∀ (first second : Graph) (direction other : Direction),
      first.ident ≠ second.ident →
        ((system.solve first direction).system.solve second other).settled =
            (system.solve second other).settled ∧
          ((system.solve first direction).system.solve second other).passes =
            (system.solve second other).passes ∧
          ((system.solve first direction).system.solve second other).system =
            ((system.solve second other).system.solve
              first direction).system := by
  rw [validate_eq_ok_iff] at hvalid
  refine ⟨fun graph direction => ⟨(hvalid.pass_adopted graph direction).fault,
    agreeOn_pass graph direction system, fun budget => ?_, ?_, ?_⟩, fun tasks =>
    ⟨fun report =>
      fault_of_mem_reports hvalid, fun ident => ?_⟩,
      fun first second direction other hne => ?_⟩
  · exact ⟨(hvalid.run_adopted graph direction budget).1,
      agreeOn_run graph direction budget system⟩
  · exact (hvalid.run_adopted graph direction _).1
  · exact agreeOn_run graph direction _ system
  · obtain ⟨hreports, hfinish⟩ := reports_filter ident tasks (.refl _ system)
    exact ⟨hreports, fun site hsite => hfinish.get_out hsite⟩
  · have hsame :=
      run_same hne direction other (system.passLimit first)
        (system.passLimit second) system
    rw [solve_solve, solve_solve]
    exact ⟨hsame.settled, hsame.passes, run_comm hne direction other _ _ system⟩

/-- A ring with the same names and labels as the other. -/
def twinRing : Graph := { ring with ident := 7 }

/-- The fact is killed at the second node of the one ring, and at the third node
of the other. -/
def twinSystem : System :=
  { ringSystem with
    kill := ringSystem.kill.set (twinRing.site 2) ringFacts.full }

/-- Passes over the two rings in turn, over the second one against its edges. -/
def twinTasks : List Task :=
  [⟨ring, .forward⟩, ⟨twinRing, .backward⟩, ⟨twinRing, .backward⟩,
   ⟨ring, .forward⟩, ⟨twinRing, .backward⟩, ⟨ring, .forward⟩]

theorem graphs_do_not_interfere_twins :
    twinSystem.validate = .ok () ∧ ring.ident ≠ twinRing.ident ∧
      ring.nodes = twinRing.nodes ∧
      ((reports twinTasks twinSystem).filter fun report => report.graph = 0).map
          Report.changed =
        [true, true, false] ∧
      ((twinSystem.solve ring .forward).system.solve twinRing
          .backward).system =
        ((twinSystem.solve twinRing .backward).system.solve ring
          .forward).system := by
  have hvalid : twinSystem.validate = .ok () := rfl
  have hne : ring.ident ≠ twinRing.ident := by decide
  obtain ⟨-, htasks, hsolves⟩ := graphs_do_not_interfere hvalid
  refine ⟨hvalid, hne, rfl, ?_,
    (hsolves ring twinRing .forward .backward hne).2.2⟩
  rw [((htasks twinTasks).2 0).1]
  decide +kernel

end System

end GenKill
