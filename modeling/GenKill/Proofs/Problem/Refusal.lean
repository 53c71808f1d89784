import GenKill.Proofs.Failure
import GenKill.Proofs.Problem.System

/-!
# Why a problem is refused

A universe is refused for the first element that it lists twice.  A problem is
refused for the first element that cannot be listed, and then for the first node
that lists an element outside of the universe.  The error names that element.
Problems that are read from a text or from the attributes of a graph are put
together in the same steps, so that there is one list of the results they can
have.
-/

namespace GenKill

/-- The first element of a list that occurs before. -/
def FirstRepeated (elements : List Text) (element : Text) : Prop :=
  ∃ before after,
    elements = before ++ element :: after ∧ before.Nodup ∧ element ∈ before

theorem FirstRepeated.not_nodup {elements : List Text} {element : Text}
    (hrepeated : FirstRepeated elements element) : ¬ elements.Nodup := by
  obtain ⟨before, after, rfl, -, hmem⟩ := hrepeated
  intro hnodup
  exact (List.nodup_append.mp hnodup).2.2 element hmem element
    List.mem_cons_self rfl

theorem exists_split_of_firstRepeat? {seen elements : List Text}
    {element : Text} (hrepeat : firstRepeat? seen elements = some element) :
    ∃ before after, elements = before ++ element :: after ∧ before.Nodup ∧
      (∀ earlier ∈ before, earlier ∉ seen) ∧
      (element ∈ seen ∨ element ∈ before) := by
  induction elements generalizing seen with
  | nil => cases hrepeat
  | cons first rest ih =>
      rw [firstRepeat?] at hrepeat
      split at hrepeat
      · rename_i hseen
        cases hrepeat
        exact ⟨[], rest, rfl, List.nodup_nil,
          fun _ h => absurd h List.not_mem_nil, .inl hseen⟩
      · rename_i hfresh
        obtain ⟨before, after, rfl, hnodup, hbefore, hagain⟩ := ih hrepeat
        refine ⟨first :: before, after, rfl, ?_, ?_, ?_⟩
        · exact List.nodup_cons.mpr
            ⟨fun hmem => hbefore first hmem List.mem_cons_self, hnodup⟩
        · refine List.forall_mem_cons.mpr ⟨hfresh, fun earlier hmem hseen => ?_⟩
          exact hbefore earlier hmem (List.mem_cons_of_mem first hseen)
        · rcases hagain with hagain | hagain
          · rcases List.mem_cons.mp hagain with rfl | hseen
            · exact .inr List.mem_cons_self
            · exact .inl hseen
          · exact .inr (List.mem_cons_of_mem first hagain)

namespace Universe

/-- A list is a universe, or is refused for the first element that is repeated.
-/
theorem ofList_cases (ident : Nat) (elements : List Text) :
    (∃ hnodup, ofList ident elements = .ok ⟨ident, elements, hnodup⟩) ∨
      ∃ element, FirstRepeated elements element ∧
        ofList ident elements = .error (.duplicateElement element) := by
  rw [ofList]
  split
  · rename_i element hrepeat
    obtain ⟨before, after, heq, hnodup, -, hagain⟩ :=
      exists_split_of_firstRepeat? hrepeat
    exact .inr ⟨element,
      ⟨before, after, heq, hnodup, hagain.resolve_left List.not_mem_nil⟩, rfl⟩
  · rename_i hnone
    exact .inl ⟨(nodup_of_firstRepeat? hnone).1, rfl⟩

theorem bitsOf_eq_error {facts : Universe} {elements : List Text}
    {error : Error} (hbits : facts.bitsOf elements = .error error) :
    ∃ element, FirstFailing (· ∈ facts.elements) elements element ∧
      error = .elementOutside element := by
  induction elements with
  | nil => cases hbits
  | cons first rest ih =>
      cases hindex : facts.index? first with
      | none =>
          simp only [bitsOf, hindex] at hbits
          cases hbits
          exact ⟨first, .head (index?_eq_none_iff.mp hindex), rfl⟩
      | some index =>
          rw [bitsOf_cons hindex] at hbits
          cases hrest : facts.bitsOf rest with
          | ok bits =>
              rw [hrest] at hbits
              cases hbits
          | error refusal =>
              rw [hrest] at hbits
              cases hbits
              obtain ⟨element, hfirst, rfl⟩ := ih hrest
              exact ⟨element,
                hfirst.cons (List.mem_of_getElem? (getElem?_of_index? hindex)),
                rfl⟩

/-- A set is refused for the first element that is none of the universe. -/
theorem set_eq_error {facts : Universe} {elements : List Text} {error : Error}
    (hset : facts.set elements = .error error) :
    ∃ element, FirstFailing (· ∈ facts.elements) elements element ∧
      error = .elementOutside element := by
  rw [set] at hset
  split at hset
  · cases hset
  · rename_i hbits
    cases hset
    exact bitsOf_eq_error hbits

end Universe

theorem Initial.ofText_nil : Initial.ofText [] = .ok .empty := by
  have hlower : (Text.trim []).lower = [] := by decide +kernel
  exact if_pos (.inl hlower)

theorem Initial.ofText_eq_error {name : Text} {error : Error}
    (hread : Initial.ofText name = .error error) :
    error = .invalidInitial name := by
  simp only [Initial.ofText] at hread
  split at hread
  · cases hread
  · split at hread
    · cases hread
    · cases hread
      rfl

theorem Direction.ofText_eq_error {name : Text} {error : Error}
    (hread : Direction.ofText name = .error error) :
    error = .invalidDirection name := by
  simp only [Direction.ofText] at hread
  split at hread
  · cases hread
  · split at hread
    · cases hread
    · cases hread
      rfl

namespace Problem

variable {problem : Problem} {sites : List Site} {system : System} {site : Site}
  {error : Error}

/-- The check fails at the first element that cannot be listed. -/
theorem checkElements_eq_error {elements : List Text}
    (hcheck : checkElements elements = .error error) :
    ∃ element, FirstFailing (Elements.isListable · = true) elements element ∧
      error = .invalidElement element := by
  induction elements with
  | nil => cases hcheck
  | cons first rest ih =>
      rw [checkElements] at hcheck
      split at hcheck
      · rename_i hfirst
        obtain ⟨element, hlater, rfl⟩ := ih hcheck
        exact ⟨element, hlater.cons hfirst, rfl⟩
      · rename_i hfirst
        cases hcheck
        exact ⟨first, .head hfirst, rfl⟩

theorem checkElements_of_firstFailing {elements : List Text} {element : Text}
    (hfirst : FirstFailing (Elements.isListable · = true) elements element) :
    checkElements elements = .error (.invalidElement element) := by
  induction hfirst with
  | head hfails => rw [checkElements, if_neg hfails]
  | cons hholds _ ih => rw [checkElements, if_pos hholds, ih]

/-- The error names the first element outside of the universe that a node lists,
in its gen list if there is one, and else in its kill list. -/
def Blames (problem : Problem) (site : Site) (error : Error) : Prop :=
  (∃ element,
    FirstFailing (· ∈ problem.facts.elements) (listAt problem.gen site)
        element ∧
      error = .within (System.place "gen" site) (.elementOutside element)) ∨
    (∀ element ∈ listAt problem.gen site, element ∈ problem.facts.elements) ∧
      ∃ element,
        FirstFailing (· ∈ problem.facts.elements) (listAt problem.kill site)
            element ∧
          error = .within (System.place "kill" site) (.elementOutside element)

theorem Blames.not_inside (hblames : problem.Blames site error) :
    ¬ problem.Inside site := by
  rintro ⟨hgen, hkill⟩
  rcases hblames with ⟨element, hfirst, -⟩ | ⟨-, element, hfirst, -⟩
  · exact hfirst.not_forall hgen
  · exact hfirst.not_forall hkill

theorem Blames.exists_cause (hblames : problem.Blames site error) :
    ∃ element,
      (element ∈ listAt problem.gen site ∨ element ∈ listAt problem.kill site) ∧
        element ∉ problem.facts.elements ∧
        error.cause = .elementOutside element := by
  rcases hblames with ⟨element, hfirst, rfl⟩ | ⟨-, element, hfirst, rfl⟩
  · exact ⟨element, .inl hfirst.mem, hfirst.fails, rfl⟩
  · exact ⟨element, .inr hfirst.mem, hfirst.fails, rfl⟩

/-- A step fails at the gen list of the node, or else at its kill list. -/
theorem defineAt_eq_error
    (hdefine : problem.defineAt system site = .error error) :
    (∃ reason, system.facts.set (listAt problem.gen site) = .error reason ∧
        error = .within (System.place "gen" site) reason) ∨
      (∃ value, system.facts.set (listAt problem.gen site) = .ok value) ∧
        ∃ reason, system.facts.set (listAt problem.kill site) = .error reason ∧
          error = .within (System.place "kill" site) reason := by
  rw [defineAt] at hdefine
  rw [listAt, listAt]
  cases hgen : problem.gen.get? site with
  | none =>
      cases hkill : problem.kill.get? site with
      | none => simp [hgen, hkill] at hdefine
      | some kills =>
          simp only [hgen, hkill, System.defineKill, System.define] at hdefine
          split at hdefine
          · rename_i reason hset
            cases hdefine
            exact .inr ⟨⟨_, rfl⟩, reason, hset, rfl⟩
          · cases hdefine
  | some gens =>
      cases hset : system.facts.set gens with
      | error reason =>
          simp only [hgen, System.defineGen, System.define, hset] at hdefine
          cases hdefine
          exact .inl ⟨reason, hset, rfl⟩
      | ok value =>
          cases hkill : problem.kill.get? site with
          | none =>
              simp [hgen, System.defineGen, System.define, hset,
                hkill] at hdefine
          | some kills =>
              simp only [hgen, System.defineGen, System.define, hset, hkill,
                System.defineKill] at hdefine
              split at hdefine
              · rename_i reason hkills
                cases hdefine
                exact .inr ⟨⟨value, hset⟩, reason, hkills, rfl⟩
              · cases hdefine

/-- Defining the sets of a node fails with an error that blames it. -/
theorem blames_of_defineAt (hfacts : system.facts = problem.facts)
    (hdefine : problem.defineAt system site = .error error) :
    problem.Blames site error := by
  rw [Blames, ← hfacts]
  rcases defineAt_eq_error hdefine with
    ⟨reason, hgen, rfl⟩ | ⟨hgen, reason, hkill, rfl⟩
  · obtain ⟨element, hfirst, rfl⟩ := Universe.set_eq_error hgen
    exact .inl ⟨element, hfirst, rfl⟩
  · obtain ⟨element, hfirst, rfl⟩ := Universe.set_eq_error hkill
    exact .inr ⟨Universe.exists_set_iff.mp hgen, element, hfirst, rfl⟩

/-- The first node that lists an element outside of the universe. -/
theorem Defines.defineAll_eq_error (hdefines : Defines problem sites system)
    {more : List Site}
    (hdefine : problem.defineAll system more = .error error) :
    ∃ site,
      FirstFailing problem.Inside more site ∧ problem.Blames site error := by
  induction more generalizing system sites with
  | nil => cases hdefine
  | cons first more ih =>
      rw [Problem.defineAll] at hdefine
      split at hdefine
      · rename_i refusal hrefused
        cases hdefine
        have hblames := blames_of_defineAt hdefines.facts hrefused
        exact ⟨first, .head hblames.not_inside, hblames⟩
      · rename_i middle hmiddle
        have hfirst := (hdefines.exists_defineAt_iff first).mp ⟨middle, hmiddle⟩
        obtain ⟨site, hlater, hblames⟩ := ih (hdefines.defineAt hmiddle) hdefine
        exact ⟨site, hlater.cons hfirst, hblames⟩

/-- A problem without a system has an element that cannot be listed, or else a
node that lists an element outside of its universe. -/
theorem system_eq_error (hsystem : problem.system = .error error) :
    (∃ element,
      FirstFailing (Elements.isListable · = true) problem.facts.elements
          element ∧
        error = .invalidElement element) ∨
      (∀ element ∈ problem.facts.elements, Elements.isListable element = true) ∧
        ∃ site, FirstFailing problem.Inside problem.graph.sites site ∧
          problem.Blames site error := by
  obtain ⟨start, hstart, hdefines⟩ := problem.exists_start
  rw [system, hstart] at hsystem
  split at hsystem
  · rename_i refusal hcheck
    cases hsystem
    exact .inl (checkElements_eq_error hcheck)
  · rename_i hcheck
    exact .inr ⟨(checkElements_eq_ok_iff _).mp hcheck,
      hdefines.defineAll_eq_error hsystem⟩

/-- Elements that cannot be listed are refused before the nodes are looked
at. -/
theorem system_eq_invalidElement_iff (problem : Problem) (element : Text) :
    problem.system = .error (.invalidElement element) ↔
      FirstFailing (Elements.isListable · = true) problem.facts.elements
        element := by
  constructor
  · intro hsystem
    rcases system_eq_error hsystem with
      ⟨other, hfirst, heq⟩ | ⟨-, site, -, hblames⟩
    · cases heq
      exact hfirst
    · -- the cause would be an element outside of the universe
      obtain ⟨other, -, -, hcause⟩ := hblames.exists_cause
      cases hcause
  · intro hfirst
    rw [system, checkElements_of_firstFailing hfirst]

theorem forall_system_ne_invalidElement_iff (problem : Problem) :
    (∀ element, problem.system ≠ .error (.invalidElement element)) ↔
      ∀ element ∈ problem.facts.elements,
        Elements.isListable element = true := by
  constructor
  · intro hsystem
    cases hcheck : checkElements problem.facts.elements with
    | ok valid => exact (checkElements_eq_ok_iff _).mp hcheck
    | error error =>
        obtain ⟨element, hfirst, -⟩ := checkElements_eq_error hcheck
        exact absurd ((problem.system_eq_invalidElement_iff element).mpr hfirst)
          (hsystem element)
  · intro hlistable element hsystem
    exact ((problem.system_eq_invalidElement_iff element).mp hsystem).not_forall
      hlistable

end Problem

/-! ### Putting a problem together -/

/-- What a problem is put together from.  The direction and the graph may have
been refused. -/
structure Draft where
  name : Text
  elements : List Text
  initial : Text
  direction : Except Error Direction
  graph : Except Error Graph
  gen : Graph → Table Site (List Text)
  kill : Graph → Table Site (List Text)

namespace Draft

/-- Reads one part after the other, and sets up the system last. -/
def problem (draft : Draft) (ident : Nat) : Except Error Problem :=
  match Universe.ofList ident draft.elements with
  | .error error => .error error
  | .ok facts =>
      match Initial.ofText draft.initial with
      | .error error => .error error
      | .ok initial =>
          match draft.direction with
          | .error error => .error error
          | .ok direction =>
              match draft.graph with
              | .error error => .error error
              | .ok graph =>
                  Problem.checked {
                    name := draft.name
                    graph, facts, initial, direction
                    gen := draft.gen graph
                    kill := draft.kill graph }

structure Makes (draft : Draft) (problem : Problem) : Prop where
  name : problem.name = draft.name
  elements : problem.facts.elements = draft.elements
  initial : Initial.ofText draft.initial = .ok problem.initial
  direction : draft.direction = .ok problem.direction
  graph : draft.graph = .ok problem.graph
  gen : problem.gen = draft.gen problem.graph
  kill : problem.kill = draft.kill problem.graph

/-- The results that a draft can have.  An error comes from the first part that
is wrong. -/
inductive Outcome (draft : Draft) : Except Error Problem → Prop
  | repeated {element : Text}
      (hrepeated : FirstRepeated draft.elements element) :
      Outcome draft (.error (.duplicateElement element))
  | initial (hnodup : draft.elements.Nodup)
      (hinitial : ¬ ∃ initial, Initial.ofText draft.initial = .ok initial) :
      Outcome draft (.error (.invalidInitial draft.initial))
  | direction {error : Error} (hnodup : draft.elements.Nodup)
      (hinitial : ∃ initial, Initial.ofText draft.initial = .ok initial)
      (hdirection : draft.direction = .error error) :
      Outcome draft (.error error)
  | graph {error : Error} (hnodup : draft.elements.Nodup)
      (hinitial : ∃ initial, Initial.ofText draft.initial = .ok initial)
      (hdirection : ∃ direction, draft.direction = .ok direction)
      (hgraph : draft.graph = .error error) : Outcome draft (.error error)
  | unlistable {problem : Problem} {element : Text}
      (hmakes : draft.Makes problem)
      (hfirst :
        FirstFailing (Elements.isListable · = true) draft.elements element) :
      Outcome draft (.error (.invalidElement element))
  | outside {problem : Problem} {site : Site} {error : Error}
      (hmakes : draft.Makes problem)
      (hlistable : ∀ element ∈ draft.elements,
        Elements.isListable element = true)
      (hfirst : FirstFailing problem.Inside problem.graph.sites site)
      (hblames : problem.Blames site error) : Outcome draft (.error error)
  | made {problem : Problem} {system : System} (hmakes : draft.Makes problem)
      (hsystem : problem.system = .ok system) : Outcome draft (.ok problem)

theorem Makes.outcome {draft : Draft} {problem : Problem}
    (hmakes : draft.Makes problem) : draft.Outcome problem.checked := by
  rw [Problem.checked]
  split
  · rename_i error hsystem
    have herror := Problem.system_eq_error hsystem
    rw [hmakes.elements] at herror
    rcases herror with
      ⟨element, hfirst, rfl⟩ | ⟨hlistable, site, hfirst, hblames⟩
    · exact .unlistable hmakes hfirst
    · exact .outside hmakes hlistable hfirst hblames
  · rename_i system hsystem
    exact .made hmakes hsystem

/-- A draft makes a problem, or fails with the error of the first thing that is
wrong. -/
theorem outcome (draft : Draft) (ident : Nat) :
    draft.Outcome (draft.problem ident) := by
  rw [Draft.problem]
  rcases Universe.ofList_cases ident draft.elements with
    ⟨hnodup, hfacts⟩ | ⟨element, hfirst, hfacts⟩
  · rw [hfacts]
    cases hinitial : Initial.ofText draft.initial with
    | error error =>
        rw [Initial.ofText_eq_error hinitial]
        exact .initial hnodup (not_exists_of_eq_error hinitial)
    | ok initial =>
        cases hdirection : draft.direction with
        | error error => exact .direction hnodup ⟨initial, hinitial⟩ hdirection
        | ok direction =>
            cases hgraph : draft.graph with
            | error error =>
                exact .graph hnodup ⟨initial, hinitial⟩ ⟨direction, hdirection⟩
                  hgraph
            | ok graph =>
                exact Makes.outcome
                  ⟨rfl, rfl, hinitial, hdirection, hgraph, rfl, rfl⟩
  · rw [hfacts]
    exact .repeated hfirst

end Draft

end GenKill
