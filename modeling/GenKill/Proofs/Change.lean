import GenKill.Proofs.Validity
import Mathlib.Tactic.TFAE

/-!
# What a pass changes

A pass visits each node once, so what it wrote can be read off the systems
before and after it.  It writes at exactly the nodes whose out set comes out
different, and tells of these in the order of the nodes.  It writes nothing at
all exactly if the out sets solved the flow equations before.  Out sets are
compared by their members: the set of no universe stays where it is as long as
the equation of its node asks for the empty set.
-/

namespace GenKill

/-- The members of the out set of a node, before and after it was written. -/
structure Change where
  node : Text
  old : List Text
  new : List Text

def Event.change? : Event → Option Change
  | .met .. => none
  | .updated node old new => some ⟨node, old.elements, new.elements⟩

namespace System

/-- The change at a node, as the systems before and after it show. -/
def changeAt (before after : System) (site : Site) : Option Change :=
  if (after.out.get site).elements = (before.out.get site).elements then none
  else some ⟨site.name, (before.out.get site).elements,
    (after.out.get site).elements⟩

/-- What a pass over some nodes writes: a set of the universe where the out set
comes out different, and nothing elsewhere.  Its events tell of the same changes
as the systems before and after it. -/
structure Writes (system : System) (sites : List Site) (pass : Pass) :
    Prop where
  default : pass.system.out.default = system.out.default
  kept : ∀ site,
    (site ∈ sites →
        (pass.system.out.get site).elements = (system.out.get site).elements) →
      pass.system.out.values.get? site = system.out.values.get? site
  recorded : ∀ site,
    (pass.system.out.get site).elements ≠ (system.out.get site).elements →
      ∃ value,
        value.facts = some system.facts ∧
          pass.system.out.values.get? site = some value
  events : pass.events.filterMap Event.change? =
    sites.filterMap (changeAt system pass.system)

namespace Writes

variable {system : System} {site : Site} {rest : List Site} {pass : Pass}
  {events : List Event}

theorem get_of_not_mem (hwrites : Writes system rest pass)
    (hsite : site ∉ rest) : pass.system.out.get site = system.out.get site := by
  rw [Property.get, Property.get, hwrites.default,
    hwrites.kept site fun hmem => absurd hmem hsite]

/-- A visit that writes nothing adds nothing to what the rest of the pass
writes. -/
theorem of_none (hrest : Writes system rest pass) (hsite : site ∉ rest)
    (hevents : events.filterMap Event.change? = []) :
    Writes system (site :: rest)
      { pass with events := events ++ pass.events } where
  default := hrest.default
  kept other hother :=
    hrest.kept other fun hmem => hother (List.mem_cons_of_mem _ hmem)
  recorded := hrest.recorded
  events := by
    have hnone : changeAt system pass.system site = none :=
      if_pos (congrArg FactSet.elements (hrest.get_of_not_mem hsite))
    rw [List.filterMap_append, hevents, List.nil_append, hrest.events,
      List.filterMap_cons_none hnone]

/-- What a visit writes at its node is still there at the end of the pass. -/
theorem of_some {value : FactSet}
    (hrest : Writes { system with out := system.out.set site value } rest pass)
    (hsite : site ∉ rest) (hvalue : value.facts = some system.facts)
    (hdiffer : value.elements ≠ (system.out.get site).elements)
    (hevents : events.filterMap Event.change? =
      [⟨site.name, (system.out.get site).elements, value.elements⟩]) :
    Writes system (site :: rest)
      { pass with changed := true, events := events ++ pass.events } := by
  have hself : pass.system.out.get site = value := by
    rw [hrest.get_of_not_mem hsite, Property.get_set, if_pos rfl]
  have hothers : ∀ {other : Site}, site ≠ other →
      (system.out.set site value).get other = system.out.get other := by
    intro other hne
    rw [Property.get_set, if_neg hne]
  refine ⟨hrest.default, fun other hother => ?_, fun other hother => ?_, ?_⟩
  · have hne : site ≠ other := by
      rintro rfl
      rw [hself] at hother
      exact hdiffer (hother List.mem_cons_self)
    have hkept := hrest.kept other fun hmem =>
      (hother (List.mem_cons_of_mem _ hmem)).trans
        (congrArg FactSet.elements (hothers hne).symm)
    rw [hkept, Property.set, Table.get?_insert, if_neg hne]
  · by_cases heq : site = other
    · subst heq
      have hkept := hrest.kept site fun hmem => absurd hmem hsite
      rw [Property.set, Table.get?_insert, if_pos rfl] at hkept
      exact ⟨value, hvalue, hkept⟩
    · exact hrest.recorded other (by rwa [hothers heq])
  · have hchange : changeAt system pass.system site =
        some ⟨site.name, (system.out.get site).elements, value.elements⟩ := by
      rw [changeAt, hself, if_neg hdiffer]
    have hlater : ∀ other ∈ rest,
        changeAt { system with out := system.out.set site value } pass.system
            other =
          changeAt system pass.system other := by
      intro other hother
      rw [changeAt, changeAt, hothers fun heq => hsite (heq ▸ hother)]
    rw [List.filterMap_append, hevents, hrest.events,
      List.filterMap_congr hlater, List.filterMap_cons_some hchange]
    rfl

end Writes

section

variable {system : System} {graph : Graph}

/-- What a pass over a valid system writes is what its visits find different. -/
theorem Valid.passOver_writes (hvalid : system.Valid) (direction : Direction)
    {indices : List Nat} (hnodup : (indices.map graph.site).Nodup) :
    Writes system (indices.map graph.site)
      (passOver graph direction indices system) := by
  induction indices generalizing system with
  | nil => exact ⟨rfl, fun _ _ => rfl, fun _ hdiffer => absurd rfl hdiffer, rfl⟩
  | cons index rest ih =>
      obtain ⟨hindex, hrest⟩ := List.nodup_cons.mp hnodup
      obtain ⟨next, hresult, -, hnext⟩ :=
        hvalid.visit_adopted graph direction index
      obtain ⟨meet, new, ⟨rfl, hevents⟩ | ⟨hsame, hfacts, rfl, hevents⟩⟩ :=
        visit_cases hresult
      · rw [passOver_of_none hresult]
        exact (ih hvalid hrest).of_none hindex (by rw [hevents]; rfl)
      · have hdiffer : new.elements ≠
            (system.out.get (graph.site index)).elements := by
          rw [FactSet.sameElements_of_check (Universe.check_of_adopt hfacts)
              (hvalid.out.2 _)]
            at hsame
          exact of_decide_eq_false (Except.ok.inj hsame)
        rw [passOver_of_some hresult]
        refine (ih (hnext _ rfl) hrest).of_some hindex hfacts ?_ ?_
        · rwa [FactSet.elements_adopt]
        · rw [hevents, FactSet.elements_adopt]
          rfl

theorem Valid.pass_writes (hvalid : system.Valid) (graph : Graph)
    (direction : Direction) :
    Writes system graph.sites (system.pass graph direction) :=
  hvalid.passOver_writes direction <|
    List.nodup_range.map fun _ _ heq => Graph.site_inj.mp heq

/-! ### Passes that change nothing -/

/-- A pass over a valid system changes nothing exactly if all facts are at rest.
-/
theorem Valid.changed_eq_false_iff (hvalid : system.Valid) (graph : Graph)
    (direction : Direction) :
    (system.pass graph direction).changed = false ↔
      ∀ fact,
        (system.strand graph direction fact).Stable
          (system.state graph fact) := by
  rw [← (hvalid.pass_adopted graph direction).changed,
    pass_changed_eq_false_iff hvalid.wellFormed_adopted]
  simp only [strand_adopted, state_adopted]

/-- The out sets solve the flow equations exactly if the next pass changes
nothing. -/
theorem Valid.solves_outs_iff (hvalid : system.Valid) (graph : Graph)
    (direction : Direction) :
    system.Solves graph direction (system.outs graph) ↔
      (system.pass graph direction).changed = false := by
  rw [hvalid.changed_eq_false_iff, solves_iff]
  simp only [decide_mem_outs]

/-- A pass that leaves every node with the members that it had reports no
change. -/
theorem Valid.changed_eq_false_of_elements (hvalid : system.Valid)
    {direction : Direction}
    (hsame : ∀ site ∈ graph.sites,
      ((system.pass graph direction).system.out.get site).elements =
        (system.out.get site).elements) :
    (system.pass graph direction).changed = false := by
  have hpass := hvalid.pass_adopted graph direction
  have hfacts : (system.pass graph direction).system.facts = system.facts := by
    obtain ⟨values, hvalues, -⟩ :=
      passOver_records graph direction (List.range graph.size) system
    rw [pass, hvalues]
  rw [← hpass.changed, ← Bool.not_eq_true,
    pass_changed_iff hvalid.wellFormed_adopted]
  rintro ⟨index, hindex, hdiffer⟩
  have hsite : graph.site index ∈ graph.sites :=
    List.mem_map_of_mem (List.mem_range.mpr hindex)
  apply hdiffer
  rw [hpass.system, get_out_adopted, get_out_adopted, hfacts]
  exact (FactSet.adopt_eq_iff (hfacts ▸ hpass.valid.out.2 _)
    (hvalid.out.2 _)).mpr (hsame _ hsite)

/-- The flag of a pass is exact.  It is off if and only if the out sets solved
the flow equations before the pass, and if and only if the pass leaves every
node with the out set that it had; then the pass has left the system alone, and
so will all later ones.  In any case the pass has written a value exactly at the
nodes whose out set comes out different, and its events tell of these. -/
theorem pass_changes_exactly (hvalidate : system.validate = .ok ())
    (graph : Graph) (direction : Direction) :
    (system.pass graph direction).fault = none ∧
      List.TFAE [(system.pass graph direction).changed = false,
        system.Solves graph direction (system.outs graph),
        ∀ site ∈ graph.sites,
          ((system.pass graph direction).system.out.get site).elements =
            (system.out.get site).elements] ∧
      ((system.pass graph direction).changed = false →
        (system.pass graph direction).system = system ∧
          ∀ count,
            ((after graph direction count system).pass graph
              direction).changed = false) ∧
      (∀ site, (system.pass graph direction).system.out.values.get? site ≠
          system.out.values.get? site ↔
        site ∈ graph.sites ∧
          ((system.pass graph direction).system.out.get site).elements ≠
            (system.out.get site).elements) ∧
      (∀ site, ((system.pass graph direction).system.out.get site).elements ≠
          (system.out.get site).elements →
        ∃ value, value.facts = some system.facts ∧
          (system.pass graph direction).system.out.values.get? site =
            some value) ∧
      (system.pass graph direction).events.filterMap Event.change? =
        graph.sites.filterMap
          (changeAt system (system.pass graph direction).system) := by
  have hvalid := validate_eq_ok_iff.mp hvalidate
  have hwrites := hvalid.pass_writes graph direction
  refine ⟨(hvalid.pass_adopted graph direction).fault, ?_, fun hunchanged => ?_,
    fun site => ?_, hwrites.recorded, hwrites.events⟩
  · tfae_have 2 ↔ 1 := hvalid.solves_outs_iff graph direction
    tfae_have 3 → 1 := hvalid.changed_eq_false_of_elements
    tfae_have 1 → 3 := by
      intro hunchanged site _
      rw [pass_of_unchanged hunchanged]
    tfae_finish
  · refine ⟨pass_of_unchanged hunchanged, fun count => ?_⟩
    rwa [after_of_unchanged hunchanged]
  · constructor
    · intro hwritten
      by_contra hsame
      push Not at hsame
      exact hwritten (hwrites.kept site hsame)
    · rintro ⟨-, hdiffer⟩ hkept
      rw [Property.get, Property.get, hkept, hwrites.default] at hdiffer
      exact hdiffer rfl

/-- A pass over the ring writes at the nodes that have a fact to lose.  The
third node keeps the set of no universe, and the second pass finds nothing to
do. -/
theorem pass_changes_exactly_ring :
    bareRing.validate = .ok () ∧
      (bareRing.pass ring .forward).changed = true ∧
      ¬ bareRing.Solves ring .forward (bareRing.outs ring) ∧
      (bareRing.pass ring .forward).events.filterMap Event.change? =
        [⟨"a", ["x"], []⟩, ⟨"b", ["x"], []⟩] ∧
      (bareRing.pass ring .forward).system.out.values.get? (ring.site 2) =
        some .zero ∧
      (after ring .forward 1 bareRing).validate = .ok () ∧
      ((after ring .forward 1 bareRing).pass ring .forward).changed = false ∧
      ((after ring .forward 1 bareRing).pass ring .forward).system =
        after ring .forward 1 bareRing := by
  have hvalidate : bareRing.validate = .ok () := rfl
  have hlater : (after ring .forward 1 bareRing).validate = .ok () := rfl
  have hchanged : (bareRing.pass ring .forward).changed = true := by
    decide +kernel
  have hquiet : ((after ring .forward 1 bareRing).pass ring .forward).changed =
      false := by decide +kernel
  obtain ⟨-, hequivalent, -, hwritten, -, hevents⟩ :=
    pass_changes_exactly hvalidate ring .forward
  obtain ⟨-, -, hleft, -⟩ := pass_changes_exactly hlater ring .forward
  refine ⟨hvalidate, hchanged, fun hsolves => ?_, hevents.trans rfl, ?_, hlater,
    hquiet, (hleft hquiet).1⟩
  · have hunchanged := (hequivalent.out 0 1).mpr hsolves
    rw [hchanged] at hunchanged
    cases hunchanged
  · -- the equation of the third node asks for the empty set, which it has
    have hsame :
        ((bareRing.pass ring .forward).system.out.get (ring.site 2)).elements =
          (bareRing.out.get (ring.site 2)).elements := by decide +kernel
    have hkept := mt (hwritten (ring.site 2)).mp fun hboth => hboth.2 hsame
    exact (not_not.mp hkept).trans rfl

end

end System

end GenKill
