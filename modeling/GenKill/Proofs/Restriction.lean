import GenKill.Proofs.Validity

/-!
# Analyses of some of the facts

Facts do not influence each other, so an analysis can be cut down to some of its
facts, in any order: pass by pass it finds for them what the whole analysis
finds.  What the facts have in common is the end of the run.  Passes go on as
long as any fact moves, so a run lasts as long as the run of its slowest fact.
-/

namespace GenKill

def Universe.only (ident : Nat) (fact : Text) : Universe :=
  ⟨ident, [fact], List.nodup_singleton fact⟩

/-- The members of a set that a universe has, as a set of that universe. -/
def FactSet.restrict (set : FactSet) (facts : Universe) : FactSet :=
  facts.ofBits
    ((BitVec.ofBoolListLE (facts.elements.map set.contains)).setWidth
      facts.size)

/-- Restricting a set drops the members outside of the smaller universe. -/
theorem FactSet.contains_restrict (set : FactSet) (facts : Universe)
    (fact : Text) :
    (set.restrict facts).contains fact =
      (decide (fact ∈ facts.elements) && set.contains fact) := by
  cases hindex : facts.index? fact with
  | none =>
      have hfact := Universe.index?_eq_none_iff.mp hindex
      rw [contains_of_index?_none rfl hindex, decide_eq_false hfact,
        Bool.false_and]
  | some index =>
      have hfact := Universe.getElem?_of_index? hindex
      rw [decide_eq_true (List.mem_of_getElem? hfact), restrict,
        contains_ofBits _ hindex, BitVec.getLsbD_setWidth,
        decide_eq_true (Universe.index?_lt hindex), BitVec.getLsbD_ofBoolListLE,
        List.getD_eq_getElem?_getD, List.getElem?_map, hfact]
      rfl

namespace System

/-- The analysis of the facts of another universe, with every set cut down to
them. -/
def restrict (system : System) (facts : Universe) : System :=
  system.mapSets facts fun set => set.restrict facts

variable {system : System} {graph : Graph} {direction : Direction}

theorem wellFormed_restrict (system : System) (facts : Universe) :
    (system.restrict facts).WellFormed := by
  have hwithin : ∀ property : Property,
      (property.mapSets fun set => set.restrict facts).Within facts :=
    fun property => Property.within_mapSets rfl fun site => rfl
  exact ⟨hwithin system.gen, hwithin system.kill, hwithin system.out⟩

section Strands

variable {facts : Universe} {fact : Text}

theorem strand_restrict (hfact : fact ∈ facts.elements) :
    (system.restrict facts).strand graph direction fact =
      system.strand graph direction fact := by
  simp only [strand, restrict, mapSets, Property.get_mapSets,
    FactSet.contains_restrict, decide_eq_true hfact, Bool.true_and]

theorem state_restrict (hfact : fact ∈ facts.elements) :
    (system.restrict facts).state graph fact = system.state graph fact := by
  funext index
  simp only [state, restrict, mapSets, Property.get_mapSets,
    FactSet.contains_restrict, decide_eq_true hfact, Bool.true_and]

end Strands

/-! ### Passes -/

/-- After any number of passes, the restricted analysis has the restricted out
sets. -/
theorem Valid.get_out_after_restrict (hvalid : system.Valid) (facts : Universe)
    (count : Nat) (site : Site) :
    (after graph direction count (system.restrict facts)).out.get site =
      ((after graph direction count system).out.get site).restrict facts := by
  have hwell := wellFormed_restrict system facts
  by_cases hsite : ∃ index < graph.size, graph.site index = site
  · obtain ⟨index, -, rfl⟩ := hsite
    have hfacts : ((after graph direction count (system.restrict facts)).out.get
        (graph.site index)).facts = some facts := by
      rw [(after_wellFormed hwell count).out.2, facts_after hwell]
      rfl
    apply FactSet.eq_of_contains hfacts rfl
    intro fact
    rw [FactSet.contains_restrict]
    by_cases hfact : fact ∈ facts.elements
    · have hstate :
          (after graph direction count (system.restrict facts)).state graph
              fact =
            (after graph direction count system).state graph fact := by
        rw [System.after_state hwell, hvalid.after_state, strand_restrict hfact,
          state_restrict hfact]
      rw [decide_eq_true hfact, Bool.true_and]
      exact congrFun hstate index
    · rw [decide_eq_false hfact, Bool.false_and]
      apply Bool.eq_false_of_not_eq_true
      exact mt (FactSet.mem_elements_of_contains hfacts) hfact
  · have hother : ∀ index < graph.size, graph.site index ≠ site :=
      fun index hindex heq => hsite ⟨index, hindex, heq⟩
    rw [get_out_after graph direction count _ hother,
      get_out_after graph direction count _ hother]
    exact Property.get_mapSets _ _ site

/-! ### Runs -/

namespace Fresh

theorem restrict (hfresh : system.Fresh graph) (facts : Universe) :
    (system.restrict facts).Fresh graph :=
  ⟨validate_eq_ok_iff.mpr (wellFormed_restrict system facts).valid,
    hfresh.untouched.mapSets facts _⟩

/-- Restricting a system before its run or after it gives the same out sets. -/
theorem get_out_solve_restrict (hfresh : system.Fresh graph) (facts : Universe)
    (direction : Direction) (site : Site) :
    ((system.restrict facts).solve graph direction).system.out.get site =
      ((system.solve graph direction).system.out.get site).restrict facts := by
  obtain ⟨hsettled, -, hpasses⟩ := hfresh.solve_ends direction
  obtain ⟨hsettled', -, hpasses'⟩ :=
    (hfresh.restrict facts).solve_ends direction
  rw [solve_eq_after hsettled hpasses, solve_eq_after hsettled' hpasses']
  exact hfresh.valid.get_out_after_restrict facts _ site

/-- A run has ended by a pass exactly if all its facts have come to rest before
it. -/
theorem passes_le_iff (hfresh : system.Fresh graph) (direction : Direction)
    (count : Nat) :
    (system.solve graph direction).passes ≤ count + 1 ↔
      ∀ fact ∈ system.facts.elements,
        (system.strand graph direction fact).Stable
          ((system.strand graph direction fact).sweep^[count]
            (system.state graph fact)) := by
  rw [System.passes_le_iff (hfresh.solve_ends direction).1,
    hfresh.valid.after_quiet_iff]

/-- The run for one fact alone ends when that fact is at rest. -/
theorem passes_only_le_iff (hfresh : system.Fresh graph) (direction : Direction)
    (ident : Nat) (fact : Text) (count : Nat) :
    ((system.restrict (.only ident fact)).solve graph direction).passes ≤
        count + 1 ↔
      (system.strand graph direction fact).Stable
        ((system.strand graph direction fact).sweep^[count]
          (system.state graph fact)) := by
  have hfact : fact ∈ (Universe.only ident fact).elements :=
    List.mem_singleton_self fact
  rw [(hfresh.restrict _).passes_le_iff]
  refine List.forall_mem_singleton.trans ?_
  rw [strand_restrict hfact, state_restrict hfact]

/-- A run lasts as long as the run of its slowest fact. -/
theorem passes_eq_max (hfresh : system.Fresh graph) (direction : Direction)
    (hfacts : system.facts.elements ≠ []) (ident : Nat) :
    (system.facts.elements.map fun fact =>
        ((system.restrict (.only ident fact)).solve graph
          direction).passes).max? =
      some (system.solve graph direction).passes := by
  let passes : Text → Nat := fun fact =>
    ((system.restrict (.only ident fact)).solve graph direction).passes
  have hbound : ∀ count, (system.solve graph direction).passes ≤ count + 1 ↔
      ∀ fact ∈ system.facts.elements, passes fact ≤ count + 1 := by
    intro count
    rw [hfresh.passes_le_iff]
    exact forall₂_congr fun fact _ =>
      (hfresh.passes_only_le_iff direction ident fact count).symm
  have hpos : ∀ {other : System}, other.Fresh graph →
      0 < (other.solve graph direction).passes :=
    fun hother => (ends_of_settled (hother.solve_ends direction).1).pos
  obtain ⟨most, hmost⟩ : ∃ most,
      (system.facts.elements.map passes).max? = some most := by
    apply Option.ne_none_iff_exists'.mp
    rw [Ne, List.max?_eq_none_iff, List.map_eq_nil_iff]
    exact hfacts
  obtain ⟨hmem, hle⟩ := List.max?_eq_some_iff.mp hmost
  obtain ⟨slowest, hslowest, rfl⟩ := List.mem_map.mp hmem
  have hwhole : (system.solve graph direction).passes ≤ passes slowest := by
    obtain ⟨count, hcount⟩ :=
      Nat.exists_eq_succ_of_ne_zero (hpos (hfresh.restrict _)).ne'
    rw [show passes slowest = count + 1 from hcount, hbound]
    intro fact hfact
    exact (hle _ (List.mem_map_of_mem hfact)).trans_eq hcount
  have hpart : passes slowest ≤ (system.solve graph direction).passes := by
    obtain ⟨count, hcount⟩ := Nat.exists_eq_succ_of_ne_zero (hpos hfresh).ne'
    rw [hcount]
    exact (hbound count).mp hcount.le slowest hslowest
  exact hmost.trans (congrArg some (Nat.le_antisymm hpart hwhole))

end Fresh

/-- Facts are analysed independently.  The analysis of the facts of any
universe, taken out of a larger one, has after each pass the out sets of the
larger one without the other facts.  A run over fresh nodes comes to the same
end without the other facts, and takes as many passes as the run of its slowest
fact alone. -/
theorem facts_independent (hvalid : system.validate = .ok ()) (graph : Graph)
    (direction : Direction) :
    (∀ (facts : Universe) (count : Nat) (site : Site),
      (after graph direction count (system.restrict facts)).out.get site =
        ((after graph direction count system).out.get site).restrict facts) ∧
      (system.Untouched graph →
        (system.solve graph direction).settled = true ∧
        (∀ facts : Universe,
          ((system.restrict facts).solve graph direction).settled = true ∧
            ∀ site,
              ((system.restrict facts).solve graph direction).system.out.get
                  site =
                ((system.solve graph direction).system.out.get site).restrict
                  facts) ∧
        (system.facts.elements ≠ [] → ∀ ident,
          (system.facts.elements.map fun fact =>
              ((system.restrict (.only ident fact)).solve graph
                direction).passes).max? =
            some (system.solve graph direction).passes)) := by
  refine ⟨(validate_eq_ok_iff.mp hvalid).get_out_after_restrict,
    fun huntouched => ?_⟩
  have hfresh : system.Fresh graph := ⟨hvalid, huntouched⟩
  refine ⟨(hfresh.solve_ends direction).1, fun facts => ⟨?_, ?_⟩,
    hfresh.passes_eq_max direction⟩
  · exact ((hfresh.restrict facts).solve_ends direction).1
  · exact hfresh.get_out_solve_restrict facts direction

def pairFacts : Universe := ⟨1, ["x", "y"], by decide⟩

/-- Two facts that are everywhere at first; the first node of the ring loses one
of them, and the second node the other. -/
def pairSystem : System where
  facts := pairFacts
  gen := { name := "gen", default := pairFacts.empty }
  kill := ({ name := "kill", default := pairFacts.empty } : Property)
    |>.set (ring.site 0) (pairFacts.ofBits 2#2) |>.set (ring.site 1)
      (pairFacts.ofBits 1#2)
  out := { name := "out", default := pairFacts.full }

/-- The fact that is lost at the first node takes two passes and the other one
three, so both together take three; seen in the other order they come to the
same end. -/
theorem facts_independent_pair :
    let turned : Universe := ⟨2, ["y", "x"], by decide⟩
    pairSystem.validate = .ok () ∧ pairSystem.Untouched ring ∧
      pairSystem.facts.elements ≠ [] ∧
      (pairSystem.facts.elements.map fun fact =>
        ((pairSystem.restrict (.only 3 fact)).solve ring .forward).passes) =
        [3, 2] ∧
      (pairSystem.solve ring .forward).passes = 3 ∧
      ∀ site,
        ((pairSystem.restrict turned).solve ring .forward).system.out.get site =
          ((pairSystem.solve ring .forward).system.out.get site).restrict
            turned := by
  intro turned
  have hvalid : pairSystem.validate = .ok () := rfl
  have huntouched : pairSystem.Untouched ring := fun _ _ => rfl
  have hfacts : pairSystem.facts.elements ≠ [] := by decide
  have hpasses : (pairSystem.facts.elements.map fun fact =>
      ((pairSystem.restrict (.only 3 fact)).solve ring .forward).passes) =
      [3, 2] := by
    decide +kernel
  obtain ⟨-, hends, hmax⟩ :=
    (facts_independent hvalid ring .forward).2 huntouched
  have hmost := hmax hfacts 3
  rw [hpasses] at hmost
  exact ⟨hvalid, huntouched, hfacts, hpasses, (Option.some.inj hmost).symm,
    (hends turned).2⟩

end System

end GenKill
