import GenKill.Proofs.Agreement
import GenKill.Proofs.Dot.Restored
import GenKill.Proofs.Problem.Annotation

/-!
# A problem comes back from the text of its graph

The check that a system makes of its elements is made for the lists in the
attributes, and is not enough for the text of the graph: a list that has a quote
after a backslash, that is quoted as a whole, or that cannot be scanned does not
come back.  If the lists of a problem on named nodes do come back, so does the
problem, and with it the solution.
-/

namespace GenKill.Problem

open GenKill.Dot GenKill.Dot.Identifier

/-! ### The text of an annotated graph -/

/-- The texts in which annotating records the lists of a problem. -/
def listTexts (problem : Problem) : List Text :=
  Elements.join problem.facts.elements ::
    problem.graph.sites.flatMap fun site =>
      (listText? (listAt problem.gen site)).toList ++
        (listText? (listAt problem.kill site)).toList

/-- What holds of the texts of all lists holds of the universe and of the lists
at each node. -/
theorem forall_mem_listTexts (problem : Problem) (property : Text → Prop) :
    (∀ text ∈ problem.listTexts, property text) ↔
      property (Elements.join problem.facts.elements) ∧
        ∀ index < problem.graph.size,
          (∀ text ∈ listText? (listAt problem.gen (problem.graph.site index)),
              property text) ∧
            ∀ text ∈ listText? (listAt problem.kill (problem.graph.site index)),
              property text := by
  simp only [listTexts, Graph.sites, List.forall_mem_cons,
    List.forall_mem_flatMap, List.forall_mem_map, List.mem_range,
    List.forall_mem_append, Option.mem_toList, Option.mem_def]

section Annotated

variable {problem : Problem} (shown : Option System)

theorem title_annotatedGraph (htitle : problem.graph.title ≠ []) :
    (problem.annotatedGraph shown).title = problem.graph.title :=
  if_neg htitle

theorem isName_of_mem_noteKeys {key : Text} (hkey : key ∈ noteKeys shown) :
    isName key = true ∧ key ≠ labelKey := by
  have hkeys : ∀ key ∈ [Text.ofString "gen", "kill", "out"],
      isName key = true ∧ key ≠ labelKey := by
    decide
  apply hkeys
  cases shown with
  | none =>
      change key ∈ noteKeys none ++ [Text.ofString "out"]
      exact List.mem_append_left _ hkey
  | some system => exact hkey

theorem named_annotatedGraph
    (hnamed : ∀ node ∈ problem.graph.nodes, Named node) :
    ∀ node ∈ (problem.annotatedGraph shown).nodes, Named node := by
  intro node hmem
  obtain ⟨index, hnode⟩ := List.mem_iff_getElem?.mp hmem
  rw [getElem?_annotatedGraph] at hnode
  obtain ⟨plain, hplain, rfl⟩ := Option.map_eq_some_iff.mp hnode
  have hplain := hnamed plain (List.mem_of_getElem? hplain)
  refine ⟨hplain.label, hplain.name, fun entry hentry => ?_, ?_⟩
  · have hget := (Table.mem_entries_iff _ _ _).mp hentry
    rw [get?_annotateNode] at hget
    split at hget
    · rename_i hkey
      exact (isName_of_mem_noteKeys shown hkey).1
    · exact hplain.keys entry ((Table.mem_entries_iff _ _ _).mpr hget)
  · have hkey : labelKey ∉ noteKeys shown :=
      fun hmem => (isName_of_mem_noteKeys shown hmem).2 rfl
    rw [get?_annotateNode, if_neg hkey, hplain.unlabeled]

/-- The recorded lists are among the texts of the annotated graph. -/
theorem listTexts_subset :
    problem.listTexts ⊆ (problem.annotatedGraph shown).texts := by
  let noted := problem.annotatedGraph shown
  obtain ⟨-, hattributes, hnodes, -⟩ :=
    (noted.forall_mem_texts (· ∈ noted.texts)).mp fun _ hmem => hmem
  have hrecords := problem.records_annotatedGraph shown
  have hvalue : ∀ {index : Nat}, index < problem.graph.size →
      ∀ {key text : Text},
        (∀ node, noted.nodes[index]? = some node →
            node.attributes.get? key = some text) →
          text ∈ noted.texts := by
    intro index hindex key text hget
    have hindex : index < noted.nodes.length := by
      rwa [← problem.size_annotatedGraph shown] at hindex
    have hentry :=
      (Table.mem_entries_iff _ key text).mpr
        (hget _ (List.getElem?_eq_getElem hindex))
    exact ((hnodes _ (List.getElem_mem hindex)).2.2 _ hentry).2
  refine (problem.forall_mem_listTexts _).mpr ⟨?_, fun index hindex => ⟨?_, ?_⟩⟩
  · exact (hattributes _
      ((Table.mem_entries_iff _ _ _).mpr hrecords.elements)).2
  · intro text htext
    exact hvalue hindex fun node hnode =>
      (hrecords.gen index node hnode).trans htext
  · intro text htext
    exact hvalue hindex fun node hnode =>
      (hrecords.kill index node hnode).trans htext

end Annotated

/-! ### Lists that are kept -/

section Returned

variable {problem : Problem} {shown : Option System} {graph : Graph}

theorem Initial.isName_text (initial : Initial) :
    isName initial.text = true := by
  cases initial <;> decide

theorem Direction.isName_text {direction : Direction}
    (hdirection : direction = .forward ∨ direction = .backward) :
    isName direction.text = true := by
  rcases hdirection with rfl | rfl <;> decide

/-- What comes back of a list that annotating records at a node. -/
theorem get?_returned (hreturns : Returns graph (problem.annotatedGraph shown))
    {index : Nat} {node : Node} (hnode : graph.nodes[index]? = some node) :
    node.attributes.get? "gen" =
        (listText? (listAt problem.gen (problem.graph.site index))).map
          restored ∧
      node.attributes.get? "kill" =
        (listText? (listAt problem.kill (problem.graph.site index))).map
          restored := by
  obtain ⟨origin, horigin, htwin⟩ := hreturns.exists_origin hnode
  have hrecords := problem.records_annotatedGraph shown
  constructor
  · rw [htwin.attributes _ (by decide), hrecords.gen index origin horigin]
  · rw [htwin.attributes _ (by decide), hrecords.kill index origin horigin]

/-- A graph that comes back from its text still records the problem. -/
theorem records_of_returns
    (hreturns : Returns graph (problem.annotatedGraph shown))
    (hdirection : problem.direction = .forward ∨ problem.direction = .backward)
    (hfaithful : ∀ text ∈ problem.listTexts, Faithful text)
    (hkept : ∀ text ∈ problem.listTexts, Kept text) :
    Records graph problem := by
  have hrecords := problem.records_annotatedGraph shown
  have hsize : graph.size = problem.graph.size :=
    hreturns.size.trans (problem.size_annotatedGraph shown)
  obtain ⟨helements, hlists⟩ :=
    (problem.forall_mem_listTexts fun text => restored text = text).mp
      fun text hmem => (hkept text hmem).restored (hfaithful text hmem)
  have hmap : ∀ list : Option Text, (∀ text ∈ list, restored text = text) →
      list.map restored = list := by
    intro list hlist
    exact (Option.map_congr hlist).trans Option.map_id_apply
  have hindex : ∀ {index : Nat} {node : Node}, graph.nodes[index]? = some node →
      index < problem.graph.size := by
    intro index node hnode
    rw [← hsize]
    exact (List.getElem?_eq_some_iff.mp hnode).1
  refine ⟨?_, ?_, ?_, hsize, fun index node hnode => ?_,
    fun index node hnode => ?_⟩
  · rw [hreturns.attributes _ _ (by decide) hrecords.elements, helements]
  · rw [hreturns.attributes _ _ (by decide) hrecords.initial,
      restored_of_isName (Initial.isName_text _)]
  · rw [hreturns.attributes _ _ (by decide) hrecords.direction,
      restored_of_isName (Direction.isName_text hdirection)]
  · rw [(get?_returned hreturns hnode).1,
      hmap _ (hlists index (hindex hnode)).1]
  · rw [(get?_returned hreturns hnode).2,
      hmap _ (hlists index (hindex hnode)).2]

end Returned

/-! ### The same analysis -/

/-- Problems whose systems have the same sets and, solved, the same outcome. -/
structure SameAnalysis (copy problem : Problem) : Prop where
  name : copy.name = problem.name
  elements : copy.facts.elements = problem.facts.elements
  initial : copy.initial = problem.initial
  direction : copy.direction = problem.direction
  size : copy.graph.size = problem.graph.size
  systems : ∃ again system,
    copy.system = .ok again ∧ problem.system = .ok system ∧
      (∀ index < problem.graph.size,
        SameMembers again system (copy.graph.site index)
          (problem.graph.site index)) ∧
      (again.solve copy.graph copy.direction).passes =
        (system.solve problem.graph problem.direction).passes ∧
      (again.solve copy.graph copy.direction).settled =
        (system.solve problem.graph problem.direction).settled ∧
      ∀ index < problem.graph.size,
        ((again.solve copy.graph copy.direction).system.out.get
            (copy.graph.site index)).elements =
          ((system.solve problem.graph problem.direction).system.out.get
            (problem.graph.site index)).elements

/-- Problems with the same members and the same edges have systems that agree.
-/
theorem agrees_of_sameMembers {copy problem : Problem} {again system : System}
    (hagain : copy.system = .ok again) (hsystem : problem.system = .ok system)
    (helements : copy.facts.elements = problem.facts.elements)
    (hsize : copy.graph.size = problem.graph.size)
    (hsets : ∀ index < copy.graph.size,
      SameMembers again system (copy.graph.site index)
        (problem.graph.site index))
    (hedges : ∀ source target,
      (∃ edge ∈ copy.graph.edges, edge.source = source ∧ edge.target = target) ↔
        ∃ edge ∈ problem.graph.edges,
          edge.source = source ∧ edge.target = target)
    (direction : Direction) :
    System.Agrees direction again copy.graph system problem.graph := by
  have hcopyDefines := defines_of_system hagain
  have hdefines := defines_of_system hsystem
  have hleft := hcopyDefines.wellFormed
  have hright := hdefines.wellFormed
  refine ⟨hleft, hright, ?_, fun fact => ⟨hsize, ?_, ?_, ?_⟩,
    fun fact index hindex => ?_⟩
  · rw [hcopyDefines.facts, hdefines.facts, helements]
  · exact fun index _ other => direction.mem_neighbors_congr hedges index other
  · exact fun index hindex =>
      FactSet.contains_congr (hleft.gen.2 _) (hright.gen.2 _)
        (hsets index hindex).gen fact
  · exact fun index hindex =>
      FactSet.contains_congr (hleft.kill.2 _) (hright.kill.2 _)
        (hsets index hindex).kill fact
  · exact FactSet.contains_congr (hleft.out.2 _) (hright.out.2 _)
      (hsets index hindex).out fact

/-- A graph that has a problem recorded, and connects the nodes the same way,
gives the same analysis. -/
theorem Records.exists_sameAnalysis {graph : Graph} {problem : Problem}
    {system : System} (ident : Nat) (hrecords : Records graph problem)
    (hsystem : problem.system = .ok system)
    (hdirection : problem.direction = .forward ∨ problem.direction = .backward)
    (htitle : graph.title = problem.name)
    (hedges : ∀ source target,
      (∃ edge ∈ graph.edges, edge.source = source ∧ edge.target = target) ↔
        ∃ edge ∈ problem.graph.edges,
          edge.source = source ∧ edge.target = target) :
    ∃ copy, ofGraph ident graph = .ok copy ∧ SameAnalysis copy problem := by
  obtain ⟨copy, again, hcopy, hagain, hname, rfl, helements, hinitial, hsame,
      hsets⟩ :=
    hrecords.exists_ofGraph ident hsystem hdirection
  have hagrees :=
    agrees_of_sameMembers hagain hsystem helements hrecords.size hsets hedges
      problem.direction
  obtain ⟨hpasses, hsettled, hsolved⟩ := hagrees.solve
  refine ⟨copy, hcopy, hname.trans htitle, helements, hinitial, hsame,
    hrecords.size, again, system, hagain, hsystem, ?_⟩
  rw [hsame, ← hrecords.size]
  exact ⟨hsets, hpasses, hsettled, fun index => hsolved.out_elements_eq⟩

/-! ### Lists that are not kept -/

theorem ofGraph_eq_ok {ident : Nat} {graph : Graph} {copy : Problem}
    (hcopy : ofGraph ident graph = .ok copy) :
    copy.graph = graph ∧ copy.facts.elements = declaredElements graph ∧
      copy.gen = declaredLists graph "gen" ∧
      copy.kill = declaredLists graph "kill" := by
  rw [ofGraph] at hcopy
  split at hcopy
  · cases hcopy
  · rename_i facts hfacts
    have helements : facts.elements = declaredElements graph := by
      rw [Universe.ofList] at hfacts
      split at hfacts
      · cases hfacts
      · cases hfacts
        rfl
    split at hcopy
    · cases hcopy
    · split at hcopy
      · cases hcopy
      · rw [checked] at hcopy
        split at hcopy
        · cases hcopy
        · cases hcopy
          exact ⟨rfl, helements, rfl, rfl⟩

/-- The same analysis lists the same elements, perhaps in another order or
repeatedly. -/
theorem SameAnalysis.mem_lists {copy problem : Problem}
    (hsame : SameAnalysis copy problem) {index : Nat}
    (hindex : index < problem.graph.size) :
    (∀ element, element ∈ listAt copy.gen (copy.graph.site index) ↔
      element ∈ listAt problem.gen (problem.graph.site index)) ∧
    ∀ element, element ∈ listAt copy.kill (copy.graph.site index) ↔
      element ∈ listAt problem.kill (problem.graph.site index) := by
  obtain ⟨again, system, hagain, hsystem, hsets, -⟩ := hsame.systems
  have hleft := defines_of_system hagain
  have hright := defines_of_system hsystem
  have hleftSite :=
    List.mem_reverse.mpr (site_mem_sites (hsame.size.symm ▸ hindex))
  have hrightSite := List.mem_reverse.mpr (site_mem_sites hindex)
  constructor
  · intro element
    rw [← hleft.gen.mem_elements hleftSite, (hsets index hindex).gen,
      hright.gen.mem_elements hrightSite]
  · intro element
    rw [← hleft.kill.mem_elements hleftSite, (hsets index hindex).kill,
      hright.kill.mem_elements hrightSite]

/-- A universe that comes back in order has a text that is kept. -/
theorem kept_universe {problem : Problem} {shown : Option System}
    {graph : Graph} (hreturns : Returns graph (problem.annotatedGraph shown))
    (hfaithful : Faithful (Elements.join problem.facts.elements))
    (hscannable : Scannable (Elements.join problem.facts.elements))
    (hsame : declaredElements graph = problem.facts.elements) :
    Kept (Elements.join problem.facts.elements) := by
  have hrecords := problem.records_annotatedGraph shown
  apply kept_of_split_restored hfaithful hscannable
  rwa [declaredElements,
    hreturns.attributes _ _ (by decide) hrecords.elements] at hsame

/-- A recorded list whose elements have no escaped quotes is kept if the same
elements come back. -/
theorem kept_of_mem_declaredLists {graph : Graph} {index : Nat} {node : Node}
    (hnode : graph.nodes[index]? = some node) {key text : Text}
    {elements : List Text} (htext : text ∈ listText? elements)
    (hget : node.attributes.get? key = (listText? elements).map restored)
    (helements : ∀ element ∈ elements,
      Elements.isListable element = true ∧ ¬[92, 34] <:+: element)
    (hfaithful : Faithful text) (hscannable : Scannable text)
    (hsame : ∀ element,
      element ∈ listAt (declaredLists graph key) (graph.site index) ↔
        element ∈ elements) : Kept text := by
  have hcommas : ∀ element ∈ elements, (44 : UInt8) ∉ element :=
    fun element hmem =>
      ((Elements.isListable_iff element).mp (helements element hmem).1).2.1
  have hplain := fun element hmem => (helements element hmem).2
  rw [listAt_declaredLists hnode, listed, hget] at hsame
  rw [Option.mem_def, listText?] at htext
  split at htext
  · cases htext
  · rename_i hne
    cases htext
    rw [listText?, if_neg hne] at hsame
    exact kept_of_mem_split_restored hcommas hplain hfaithful hscannable hsame

/-- If the analysis is the same after reading, the texts of all lists were kept.
-/
theorem kept_of_sameAnalysis {problem : Problem} {shown : Option System}
    {system : System} {graph : Graph} {ident : Nat} {copy : Problem}
    (hsystem : problem.system = .ok system)
    (hreturns : Returns graph (problem.annotatedGraph shown))
    (hfaithful : ∀ text ∈ problem.listTexts, Faithful text)
    (hscannable : ∀ text ∈ problem.listTexts, Scannable text)
    (hcopy : ofGraph ident graph = .ok copy)
    (hsame : SameAnalysis copy problem) :
    ∀ text ∈ problem.listTexts, Kept text := by
  obtain ⟨rfl, hdeclared, hgen, hkill⟩ := ofGraph_eq_ok hcopy
  obtain ⟨hlistable, hinside⟩ := problem.exists_system_iff.mp ⟨system, hsystem⟩
  have huniverse : Kept (Elements.join problem.facts.elements) :=
    kept_universe hreturns (hfaithful _ List.mem_cons_self)
      (hscannable _ List.mem_cons_self) (hdeclared.symm.trans hsame.elements)
  have helements : ∀ element ∈ problem.facts.elements,
      Elements.isListable element = true ∧ ¬[92, 34] <:+: element := by
    intro element hmem
    refine ⟨hlistable element hmem, fun hescape => ?_⟩
    exact huniverse.quotes_plain (hescape.trans (Elements.infix_join hmem))
  obtain ⟨-, hfaithful⟩ := (problem.forall_mem_listTexts _).mp hfaithful
  obtain ⟨-, hscannable⟩ := (problem.forall_mem_listTexts _).mp hscannable
  refine (problem.forall_mem_listTexts _).mpr
    ⟨huniverse, fun index hindex => ?_⟩
  have hcopied : index < copy.graph.size := hsame.size ▸ hindex
  have hnode : copy.graph.nodes[index]? = some copy.graph.nodes[index] :=
    List.getElem?_eq_getElem hcopied
  obtain ⟨hgenInside, hkillInside⟩ := hinside _ (site_mem_sites hindex)
  obtain ⟨hgenSame, hkillSame⟩ := hsame.mem_lists hindex
  rw [hgen] at hgenSame
  rw [hkill] at hkillSame
  constructor
  · intro text htext
    exact kept_of_mem_declaredLists hnode htext (get?_returned hreturns hnode).1
      (fun element hmem => helements element (hgenInside element hmem))
      ((hfaithful index hindex).1 text htext)
        ((hscannable index hindex).1 text htext) hgenSame
  · intro text htext
    exact kept_of_mem_declaredLists hnode htext (get?_returned hreturns hnode).2
      (fun element hmem => helements element (hkillInside element hmem))
      ((hfaithful index hindex).2 text htext)
        ((hscannable index hindex).2 text htext) hkillSame

/-! ### The whole way -/

/-- A problem on named nodes that has a system, annotated with or without a
solution, comes back from the text of its graph with the same analysis exactly
if the texts of its lists are kept and all texts of the graph can be scanned.
The writer is taken at its word: a text that it leaves unquoted is an
identifier. -/
theorem readGraph_annotate_iff (ident again : Nat) (problem : Problem)
    (shown : Option System) {system : System}
    (hsystem : problem.system = .ok system)
    (hdirection : problem.direction = .forward ∨ problem.direction = .backward)
    (htitle : isName problem.graph.title = true)
    (hname : problem.name = problem.graph.title)
    (hnamed : ∀ node ∈ problem.graph.nodes, Named node)
    (hfaithful : ∀ text ∈ (problem.annotate shown).graph.texts, Faithful text) :
    (∃ graph copy,
      readGraph ident (problem.annotate shown).graph.toDot = .ok graph ∧
        ofGraph again graph = .ok copy ∧ SameAnalysis copy problem) ↔
      (∀ text ∈ problem.listTexts, Kept text) ∧
        ∀ text ∈ (problem.annotate shown).graph.texts, Scannable text := by
  let noted := problem.annotatedGraph shown
  have hnotedTitle : noted.title = problem.graph.title :=
    title_annotatedGraph shown (ne_nil_of_isName htitle)
  have hnotedNamed : ∀ node ∈ noted.nodes, Named node :=
    named_annotatedGraph shown hnamed
  have hreads : (∀ text ∈ noted.texts, Scannable text) →
      ∃ graph, readGraph ident noted.toDot = .ok graph ∧ Returns graph noted :=
    exists_returns hnotedNamed hfaithful ident (hnotedTitle ▸ htitle)
  have hlists : ∀ text ∈ problem.listTexts, text ∈ noted.texts :=
    fun text hmem => listTexts_subset shown hmem
  constructor
  · rintro ⟨graph, copy, hread, hcopy, hsame⟩
    have hscannable := scannable_of_readGraph hnotedNamed hfaithful hread
    obtain ⟨other, hother, hreturns⟩ := hreads hscannable
    rw [show readGraph ident noted.toDot = .ok graph from hread] at hother
    cases hother
    refine ⟨?_, hscannable⟩
    exact kept_of_sameAnalysis hsystem hreturns
      (fun text hmem => hfaithful text (hlists text hmem))
      (fun text hmem => hscannable text (hlists text hmem)) hcopy hsame
  · rintro ⟨hkept, hscannable⟩
    obtain ⟨graph, hread, hreturns⟩ := hreads hscannable
    have hrecords := records_of_returns hreturns hdirection
      (fun text hmem => hfaithful text (hlists text hmem)) hkept
    have hgraphTitle : graph.title = problem.name := by
      rw [hreturns.title, hnotedTitle, hname]
    obtain ⟨copy, hcopy, hsame⟩ :=
      hrecords.exists_sameAnalysis again hsystem hdirection hgraphTitle
        hreturns.edges
    exact ⟨graph, copy, hread, hcopy, hsame⟩

/-- Elements with quotes, backslashes and markup on a loop, and a graph
attribute whose key loses its quotes. -/
def inscribed : Problem where
  name := "p1"
  graph := {
    ident := 0
    title := "p1"
    attributes := Table.ofList [("\"universe\"", "z")]
    nodes := [{ name := "a", label := "n0" }, { name := "a", label := "n1" }]
    edges := [{ source := 0, target := 1 }, { source := 1, target := 1 }]
    ends_lt := by simp
    labels_distinct := by decide +kernel }
  facts := ⟨1, ["x \"y\"", "\\n", "<i -> j>"], by decide⟩
  initial := .full
  direction := .backward
  gen := Table.ofList
    [(⟨0, 0, "a"⟩, []), (⟨0, 1, "a"⟩, ["\\n", "<i -> j>", "\\n"])]
  kill := Table.ofList [(⟨0, 0, "a"⟩, ["x \"y\""])]

def inscribedSolution : Option System :=
  inscribed.system.toOption.map fun system =>
    (system.solve inscribed.graph inscribed.direction).system

theorem readGraph_annotate_inscribed :
    (∃ system, inscribed.system = .ok system) ∧
      (∀ text ∈ (inscribed.annotate inscribedSolution).graph.texts,
        Faithful text) ∧
      ∃ graph copy,
        readGraph 2 (inscribed.annotate inscribedSolution).graph.toDot =
            .ok graph ∧
          ofGraph 3 graph = .ok copy ∧ SameAnalysis copy inscribed := by
  have hlistable : ∀ element ∈ inscribed.facts.elements,
      Elements.isListable element = true := by
    decide +kernel
  have hinside : ∀ site ∈ inscribed.graph.sites,
      (∀ element ∈ listAt inscribed.gen site,
          element ∈ inscribed.facts.elements) ∧
        ∀ element ∈ listAt inscribed.kill site,
          element ∈ inscribed.facts.elements := by
    decide +kernel
  obtain ⟨system, hsystem⟩ :=
    inscribed.exists_system_iff.mpr ⟨hlistable, hinside⟩
  have hnamed : ∀ node ∈ inscribed.graph.nodes, Named node := by
    have hplain : ∀ node ∈ inscribed.graph.nodes,
        (isName node.label = true ∧ isName node.name = true) ∧
          node.attributes = .empty := by
      decide
    intro node hmem
    obtain ⟨⟨hlabel, hname⟩, hempty⟩ := hplain node hmem
    exact named_of_empty hlabel hname hempty
  have hfaithful : ∀ text ∈ (inscribed.annotate inscribedSolution).graph.texts,
      Faithful text := by
    decide +kernel
  refine ⟨⟨system, hsystem⟩, hfaithful, ?_⟩
  apply (readGraph_annotate_iff 2 3 inscribed inscribedSolution hsystem
    (.inr rfl) (by decide) rfl hnamed hfaithful).mpr
  decide +kernel

/-- The only element has a quote after a backslash. -/
def escaped : Problem where
  name := "p"
  graph := {
    ident := 0
    title := "p"
    nodes := [{ name := "a", label := "a" }]
    edges := []
    ends_lt := by simp
    labels_distinct := by decide +kernel }
  facts := ⟨1, ["x\\\"y"], by decide⟩
  initial := .empty
  direction := .forward
  gen := Table.ofList [(⟨0, 0, "a"⟩, ["x\\\"y"])]

/-- The backslash is lost. -/
theorem not_sameAnalysis_escaped :
    (∃ system, escaped.system = .ok system) ∧
      (∀ text ∈ (escaped.annotate none).graph.texts, Faithful text) ∧
      ¬∃ graph copy,
        readGraph 2 (escaped.annotate none).graph.toDot = .ok graph ∧
          ofGraph 3 graph = .ok copy ∧ SameAnalysis copy escaped := by
  refine ⟨?_, by decide +kernel, ?_⟩
  · have hlistable : ∀ element ∈ escaped.facts.elements,
        Elements.isListable element = true := by
      decide +kernel
    have hinside : ∀ site ∈ escaped.graph.sites,
        (∀ element ∈ listAt escaped.gen site,
            element ∈ escaped.facts.elements) ∧
          ∀ element ∈ listAt escaped.kill site,
            element ∈ escaped.facts.elements := by
      decide +kernel
    exact escaped.exists_system_iff.mpr ⟨hlistable, hinside⟩
  · rintro ⟨graph, copy, hread, hcopy, hsame⟩
    have hcomes :
        ((readGraph 2 (escaped.annotate none).graph.toDot).toOption.bind
          fun graph =>
            (ofGraph 3 graph).toOption).map (fun copy => copy.facts.elements) =
            some [Text.ofString "x\"y"] := by
      decide +kernel
    rw [hread] at hcomes
    simp only [Except.toOption, Option.bind_some, hcopy, Option.map_some,
      Option.some.injEq, hsame.elements] at hcomes
    exact absurd hcomes (by decide)

end GenKill.Problem
