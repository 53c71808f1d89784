import GenKill.Proofs.Problem.Annotation
import GenKill.Proofs.Problem.Refusal

/-!
# Which graphs carry a problem

A graph carries a problem exactly if its attributes can be read, and no node
lists an element that is missing from a declared universe.  Elements that are
split off a text can always be listed again, and a universe that is not declared
has all elements that the nodes mention, so neither can be the reason why a
graph is refused.
-/

namespace GenKill

/-- The members of a list, each once and in the order in which they first
occur. -/
structure FirstOccurrences (items distinct : List Text) : Prop where
  mem_iff : ∀ item, item ∈ distinct ↔ item ∈ items
  ordered : distinct.Pairwise fun left right =>
    items.idxOf left < items.idxOf right

theorem FirstOccurrences.nodup {items distinct : List Text}
    (hfirst : FirstOccurrences items distinct) : distinct.Nodup :=
  hfirst.ordered.imp fun hlt heq => absurd (heq ▸ hlt) (Nat.lt_irrefl _)

namespace Problem

variable {graph : Graph} {problem : Problem}

theorem mem_distinct_iff (seen items : List Text) (item : Text) :
    item ∈ distinct seen items ↔ item ∈ items ∧ item ∉ seen := by
  induction items generalizing seen with
  | nil => simp [distinct]
  | cons first rest ih =>
      rw [distinct]
      split
      · rename_i hseen
        rw [ih, List.mem_cons]
        constructor
        · exact fun ⟨hmem, hfresh⟩ => ⟨.inr hmem, hfresh⟩
        · rintro ⟨rfl | hmem, hfresh⟩
          · exact absurd hseen hfresh
          · exact ⟨hmem, hfresh⟩
      · rename_i hfresh
        rw [List.mem_cons, ih, List.mem_cons, List.mem_cons]
        by_cases heq : item = first
        · simp [heq, hfresh]
        · simp [heq]

theorem ne_of_mem_distinct {seen items : List Text} {first item : Text}
    (hseen : first ∈ seen) (hmem : item ∈ distinct seen items) :
    first ≠ item := by
  rintro rfl
  exact ((mem_distinct_iff seen items first).mp hmem).2 hseen

/-- Items are listed in the order of their first occurrences. -/
theorem pairwise_distinct (seen items : List Text) :
    (distinct seen items).Pairwise fun left right =>
      items.idxOf left < items.idxOf right := by
  induction items generalizing seen with
  | nil => exact .nil
  | cons first rest ih =>
      -- items other than the first are one place further back than in the rest
      have hlater : ∀ more : List Text, first ∈ more →
          (distinct more rest).Pairwise fun left right =>
            (first :: rest).idxOf left < (first :: rest).idxOf right := by
        intro more hmore
        refine (ih more).imp_of_mem fun {left right} hleft hright hlt => ?_
        rw [List.idxOf_cons_ne _ (ne_of_mem_distinct hmore hleft),
          List.idxOf_cons_ne _ (ne_of_mem_distinct hmore hright)]
        exact Nat.succ_lt_succ hlt
      rw [distinct]
      split
      · rename_i hseen
        exact hlater seen hseen
      · refine List.pairwise_cons.mpr
          ⟨fun item hitem => ?_, hlater _ List.mem_cons_self⟩
        rw [List.idxOf_cons_self,
          List.idxOf_cons_ne _ (ne_of_mem_distinct List.mem_cons_self hitem)]
        exact Nat.succ_pos _

theorem firstOccurrences_distinct (items : List Text) :
    FirstOccurrences items (distinct [] items) where
  mem_iff item := by rw [mem_distinct_iff, and_iff_left List.not_mem_nil]
  ordered := pairwise_distinct [] items

/-! ### The declared universe -/

/-- An element that a node lists in one of its attributes. -/
def Lists (node : Node) (element : Text) : Prop :=
  element ∈ listed node "gen" ∨ element ∈ listed node "kill"

/-- The elements that are mentioned are those that some node lists. -/
theorem mem_mentioned_iff (graph : Graph) (element : Text) :
    element ∈ mentioned graph ↔ ∃ node ∈ graph.nodes, Lists node element := by
  simp only [mentioned, List.mem_flatMap, List.mem_append, Lists]

theorem declaredElements_of_some {text : Text}
    (htext : graph.attributes.get? "universe" = some text) :
    declaredElements graph = Elements.split text := by
  rw [declaredElements, htext]

/-- Without that attribute the universe is what the nodes mention, in order. -/
theorem firstOccurrences_of_none
    (hnone : graph.attributes.get? "universe" = none) :
    FirstOccurrences (mentioned graph) (declaredElements graph) := by
  rw [declaredElements, hnone]
  exact firstOccurrences_distinct (mentioned graph)

theorem isListable_of_mem_mentioned {element : Text}
    (hmem : element ∈ mentioned graph) :
    Elements.isListable element = true := by
  obtain ⟨node, -, hgen | hkill⟩ := (mem_mentioned_iff graph element).mp hmem
  · exact Elements.isListable_of_mem_split hgen
  · exact Elements.isListable_of_mem_split hkill

/-- All elements come from a split text. -/
theorem isListable_of_mem_declaredElements {element : Text}
    (hmem : element ∈ declaredElements graph) :
    Elements.isListable element = true := by
  cases huniverse : graph.attributes.get? "universe" with
  | none =>
      exact isListable_of_mem_mentioned
        (((firstOccurrences_of_none huniverse).mem_iff element).mp hmem)
  | some text =>
      rw [declaredElements_of_some huniverse] at hmem
      exact Elements.isListable_of_mem_split hmem

/-! ### Reading the attributes -/

/-- What a graph carries, before anything is checked. -/
def draft (graph : Graph) : Draft where
  name := graph.title
  elements := declaredElements graph
  initial := (graph.attributes.get? "initial").getD []
  direction := declaredDirection graph
  graph := .ok graph
  gen := (declaredLists · "gen")
  kill := (declaredLists · "kill")

theorem ofGraph_eq_draft (ident : Nat) (graph : Graph) :
    ofGraph ident graph = (draft graph).problem ident := rfl

/-- What the attributes of a graph have to say for it to carry a problem. -/
structure Carries (graph : Graph) : Prop where
  elements : ∀ text, graph.attributes.get? "universe" = some text →
    (Elements.split text).Nodup ∧
      ∀ node ∈ graph.nodes, ∀ element, Lists node element →
        element ∈ Elements.split text
  initial : ∀ text, graph.attributes.get? "initial" = some text →
    ∃ initial, Initial.ofText text = .ok initial
  direction : ∀ text, graph.attributes.get? "direction" = some text →
    ∃ direction, Direction.ofText text = .ok direction

/-- The attribute at fault, as the cause of an error names it. -/
inductive Faulty (graph : Graph) : Error → Prop
  | repeated {text element : Text}
      (htext : graph.attributes.get? "universe" = some text)
      (hrepeated : FirstRepeated (Elements.split text) element) :
      Faulty graph (.duplicateElement element)
  | outside {text element : Text} {node : Node}
      (htext : graph.attributes.get? "universe" = some text)
      (hnode : node ∈ graph.nodes)
      (hlists : Lists node element) (hmissing : element ∉ Elements.split text) :
      Faulty graph (.elementOutside element)
  | initial {text : Text} (htext : graph.attributes.get? "initial" = some text)
      (hrefused : ¬ ∃ initial, Initial.ofText text = .ok initial) :
      Faulty graph (.invalidInitial text)
  | direction {text : Text}
      (htext : graph.attributes.get? "direction" = some text)
      (hrefused : ¬ ∃ direction, Direction.ofText text = .ok direction) :
      Faulty graph (.invalidDirection text)

theorem Faulty.not_carries {cause : Error} (hfaulty : Faulty graph cause) :
    ¬ Carries graph := by
  intro hcarries
  cases hfaulty with
  | repeated htext hrepeated =>
      exact hrepeated.not_nodup (hcarries.elements _ htext).1
  | outside htext hnode hlists hmissing =>
      exact hmissing ((hcarries.elements _ htext).2 _ hnode _ hlists)
  | initial htext hrefused => exact hrefused (hcarries.initial _ htext)
  | direction htext hrefused => exact hrefused (hcarries.direction _ htext)

/-- The problem is what the attributes of the graph say. -/
structure IsCarried (graph : Graph) (problem : Problem) : Prop where
  unchanged : problem.graph = graph
  name : problem.name = graph.title
  declared : ∀ text, graph.attributes.get? "universe" = some text →
    problem.facts.elements = Elements.split text
  undeclared : graph.attributes.get? "universe" = none →
    FirstOccurrences (mentioned graph) problem.facts.elements
  initial : Initial.ofText ((graph.attributes.get? "initial").getD []) =
    .ok problem.initial
  direction : declaredDirection graph = .ok problem.direction
  system : ∃ system, problem.system = .ok system ∧
    ∀ index node, graph.nodes[index]? = some node →
      (system.gen.get (graph.site index)).Lists problem.facts
          (listed node "gen") ∧
        (system.kill.get (graph.site index)).Lists problem.facts
          (listed node "kill")

/-! ### Graphs without an attribute at fault -/

section Makes

variable (hmakes : (draft graph).Makes problem)

include hmakes

theorem graph_of_makes : problem.graph = graph :=
  (Except.ok.inj hmakes.graph).symm

theorem listAt_of_makes {index : Nat} {node : Node}
    (hnode : graph.nodes[index]? = some node) :
    listAt problem.gen (graph.site index) = listed node "gen" ∧
      listAt problem.kill (graph.site index) = listed node "kill" := by
  rw [hmakes.gen, hmakes.kill, graph_of_makes hmakes]
  exact ⟨listAt_declaredLists hnode "gen", listAt_declaredLists hnode "kill"⟩

/-- The lists of a node lie inside the universe exactly if the node lists
declared elements only. -/
theorem inside_iff_of_makes {index : Nat} {node : Node}
    (hnode : graph.nodes[index]? = some node) :
    problem.Inside (graph.site index) ↔
      ∀ element, Lists node element → element ∈ declaredElements graph := by
  obtain ⟨hgen, hkill⟩ := listAt_of_makes hmakes hnode
  rw [Inside, hgen, hkill, hmakes.elements]
  simp only [Lists, or_imp, forall_and]
  rfl

variable {system : System} (hsystem : problem.system = .ok system)

include hsystem

theorem carries_of_makes : Carries graph where
  elements text htext := by
    rw [← declaredElements_of_some htext]
    have helements : problem.facts.elements = declaredElements graph :=
      hmakes.elements
    refine ⟨helements ▸ problem.facts.nodup, fun node hmem => ?_⟩
    obtain ⟨index, hnode⟩ := List.mem_iff_getElem?.mp hmem
    rw [← inside_iff_of_makes hmakes hnode]
    apply (problem.exists_system_iff.mp ⟨system, hsystem⟩).2
    rw [graph_of_makes hmakes]
    exact site_mem_sites (List.getElem?_eq_some_iff.mp hnode).1
  initial text htext := by
    have hinitial := hmakes.initial
    rw [draft, htext] at hinitial
    exact ⟨problem.initial, hinitial⟩
  direction text htext := by
    have hdirection := hmakes.direction
    rw [draft, declaredDirection, htext] at hdirection
    exact ⟨problem.direction, hdirection⟩

/-- What is made of a graph is the problem that it carries. -/
theorem isCarried_of_makes : IsCarried graph problem where
  unchanged := graph_of_makes hmakes
  name := hmakes.name
  declared _ htext := hmakes.elements.trans (declaredElements_of_some htext)
  undeclared hnone := hmakes.elements ▸ firstOccurrences_of_none hnone
  initial := hmakes.initial
  direction := hmakes.direction
  system := by
    refine ⟨system, hsystem, fun index node hnode => ?_⟩
    obtain ⟨hgen, hkill⟩ := listAt_of_makes hmakes hnode
    rw [← hgen, ← hkill]
    apply lists_of_system hsystem
    rw [graph_of_makes hmakes]
    exact site_mem_sites (List.getElem?_eq_some_iff.mp hnode).1

end Makes

/-! ### Attributes at fault -/

theorem faulty_of_firstRepeated {element : Text}
    (hrepeated : FirstRepeated (declaredElements graph) element) :
    Faulty graph (.duplicateElement element) := by
  cases huniverse : graph.attributes.get? "universe" with
  | none =>
      exact absurd (firstOccurrences_of_none huniverse).nodup
        hrepeated.not_nodup
  | some text =>
      rw [declaredElements_of_some huniverse] at hrepeated
      exact .repeated huniverse hrepeated

theorem faulty_of_initial
    (hinitial : ¬ ∃ initial,
      Initial.ofText ((graph.attributes.get? "initial").getD []) =
        .ok initial) :
    Faulty graph
      (.invalidInitial ((graph.attributes.get? "initial").getD [])) := by
  cases htext : graph.attributes.get? "initial" with
  | none =>
      rw [htext] at hinitial
      exact absurd ⟨.empty, Initial.ofText_nil⟩ hinitial
  | some text =>
      rw [htext] at hinitial
      exact .initial htext hinitial

theorem faulty_of_direction {error : Error}
    (hdirection : declaredDirection graph = .error error) :
    Faulty graph error.cause := by
  rw [declaredDirection] at hdirection
  split at hdirection
  · rename_i text htext
    have hrefused := not_exists_of_eq_error hdirection
    rw [Direction.ofText_eq_error hdirection]
    exact .direction htext hrefused
  · cases hdirection

theorem faulty_of_blames {site : Site} {error : Error}
    (hmakes : (draft graph).Makes problem) (hsite : site ∈ problem.graph.sites)
    (hblames : problem.Blames site error) : Faulty graph error.cause := by
  obtain ⟨element, hlisted, hmissing, hcause⟩ := hblames.exists_cause
  rw [graph_of_makes hmakes] at hsite
  obtain ⟨index, hrange, rfl⟩ := List.mem_map.mp hsite
  have hindex : index < graph.nodes.length := List.mem_range.mp hrange
  have hnode : graph.nodes[index]? = some graph.nodes[index] :=
    List.getElem?_eq_getElem hindex
  obtain ⟨hgen, hkill⟩ := listAt_of_makes hmakes hnode
  rw [hgen, hkill] at hlisted
  have hmem := List.mem_of_getElem? hnode
  rw [hmakes.elements] at hmissing
  rw [hcause]
  cases huniverse : graph.attributes.get? "universe" with
  | none =>
      have hmentioned :=
        (mem_mentioned_iff graph element).mpr ⟨_, hmem, hlisted⟩
      exact absurd
        (((firstOccurrences_of_none huniverse).mem_iff element).mpr hmentioned)
        hmissing
  | some text =>
      have helements : (draft graph).elements = Elements.split text :=
        declaredElements_of_some huniverse
      rw [helements] at hmissing
      exact .outside huniverse hmem hlisted hmissing

/-- A graph gives the problem that it carries, or an attribute is at fault. -/
theorem ofGraph_cases (ident : Nat) (graph : Graph) :
    (∃ problem,
        ofGraph ident graph = .ok problem ∧ Carries graph ∧
          IsCarried graph problem) ∨
      ∃ error,
        ofGraph ident graph = .error error ∧ Faulty graph error.cause := by
  have houtcome := (draft graph).outcome ident
  rw [← ofGraph_eq_draft] at houtcome
  cases hresult : ofGraph ident graph with
  | ok problem =>
      rw [hresult] at houtcome
      cases houtcome with
      | made hmakes hsystem =>
          exact .inl ⟨problem, rfl, carries_of_makes hmakes hsystem,
            isCarried_of_makes hmakes hsystem⟩
  | error error =>
      rw [hresult] at houtcome
      refine .inr ⟨error, rfl, ?_⟩
      cases houtcome with
      | repeated hrepeated => exact faulty_of_firstRepeated hrepeated
      | initial _ hinitial => exact faulty_of_initial hinitial
      | direction _ _ hdirection => exact faulty_of_direction hdirection
      | graph _ _ _ hgraph => cases hgraph
      | unlistable _ hfirst =>
          exact absurd (isListable_of_mem_declaredElements hfirst.mem)
            hfirst.fails
      | outside hmakes _ hfirst hblames =>
          exact faulty_of_blames hmakes hfirst.mem hblames

/-- A graph carries a problem exactly if its universe, if it declares one, has
no element twice and all elements that its nodes list, and its initial value and
its direction can be read.  It is never refused for an element that cannot be
listed, and a graph that declares no universe is not refused for its elements at
all: they are those that its nodes mention.  The problem has a system with the
listed sets. -/
theorem ofGraph_exact (ident : Nat) (graph : Graph) :
    ((∃ problem, ofGraph ident graph = .ok problem) ↔ Carries graph) ∧
      (∀ problem, ofGraph ident graph = .ok problem → IsCarried graph problem) ∧
      ∀ error, ofGraph ident graph = .error error → Faulty graph error.cause ∧
        (∀ element, error.cause ≠ .invalidElement element) ∧
        (graph.attributes.get? "universe" = none →
          (∀ element, error.cause ≠ .duplicateElement element) ∧
          (∀ element, error.cause ≠ .elementOutside element) ∧
          ∀ set, error.cause ≠ .setOutside set) := by
  rcases ofGraph_cases ident graph with
    ⟨problem, hresult, hcarries, hcarried⟩ | ⟨error, hresult, hfaulty⟩
  · rw [hresult]
    refine ⟨iff_of_true ⟨problem, rfl⟩ hcarries, fun other hother => ?_,
      fun error herror => ?_⟩
    · cases hother
      exact hcarried
    · cases herror
  · rw [hresult]
    refine ⟨iff_of_false ?_ hfaulty.not_carries, fun other hother => ?_,
      fun other hother => ?_⟩
    · exact not_exists_of_eq_error rfl
    · cases hother
    · cases hother
      generalize error.cause = cause at hfaulty
      refine ⟨hfaulty, ?_, fun hnone => ⟨?_, ?_, ?_⟩⟩
      · rintro element rfl
        cases hfaulty
      · rintro element rfl
        cases hfaulty with
        | repeated htext _ => cases hnone.symm.trans htext
      · rintro element rfl
        cases hfaulty with
        | outside htext _ _ _ => cases hnone.symm.trans htext
      · rintro set rfl
        cases hfaulty

/-- The nodes list elements with blanks, repetitions and empty places between
them, and no universe is declared. -/
def tagged : Graph where
  ident := 0
  attributes := Table.ofList [("initial", " FULL ")]
  nodes := [
    { name := "a", label := "a"
      attributes := Table.ofList [("gen", " y , x,,y"), ("kill", "z")] },
    { name := "b", label := ""
      attributes := Table.ofList [("gen", ","), ("kill", "x,w w")] }]
  labels_distinct := by decide

/-- A node lists an element that is missing from the universe. -/
def crowded : Graph where
  ident := 0
  attributes := Table.ofList [("universe", "x, ,y")]
  nodes :=
    [{ name := "a", label := "a"
       attributes := Table.ofList [("kill", "x,z")] }]
  labels_distinct := by decide

theorem ofGraph_exact_tagged :
    (∃ problem, ofGraph 1 tagged = .ok problem ∧
      problem.facts.elements = ["y", "x", "z", "w w"] ∧
      IsCarried tagged problem) ∧
    ¬ Carries crowded ∧ ¬ ∃ problem, ofGraph 1 crowded = .ok problem := by
  obtain ⟨problem, hresult, helements⟩ := exists_ok_of_any (ofGraph 1 tagged)
    (fun problem => problem.facts.elements = ["y", "x", "z", "w w"])
      (by decide +kernel)
  have hcrowded : ¬ Carries crowded := by
    intro hcarries
    have hinside := (hcarries.elements "x, ,y" (by decide +kernel)).2
    have hmissing : (Text.ofString "z") ∉ Elements.split "x, ,y" := by
      decide +kernel
    have hlisted : ∀ node ∈ crowded.nodes,
        Text.ofString "z" ∈ listed node "kill" := by decide +kernel
    have hmem : crowded.nodes[0] ∈ crowded.nodes := List.getElem_mem _
    exact hmissing (hinside _ hmem _ (.inr (hlisted _ hmem)))
  exact ⟨⟨problem, hresult, helements,
      (ofGraph_exact 1 tagged).2.1 problem hresult⟩,
    hcrowded, mt (ofGraph_exact 1 crowded).1.mp hcrowded⟩

end Problem

end GenKill
