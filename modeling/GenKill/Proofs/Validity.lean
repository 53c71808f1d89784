import GenKill.Proofs.Ending
import GenKill.Proofs.Solution
import GenKill.Proofs.Table

/-!
# Valid systems

A value that is written directly into a property may also be the set of no
universe, which counts as empty.  A valid system has no other sets than this one
and the sets of its universe.  Passes take no notice of the difference: a valid
system runs like the well-formed system in which the empty set of the universe
stands in place of the set of no universe.
-/

namespace GenKill

namespace Universe

variable {facts : Universe} {set : FactSet}

/-- A universe accepts its own sets and the set of no universe. -/
theorem check_eq_ok_iff :
    facts.check set = .ok () ↔ set.facts = none ∨ set.facts = some facts := by
  rw [check]
  by_cases hfacts : set.facts = none ∨ set.facts = some facts
  · rw [if_pos hfacts]
    exact iff_of_true rfl hfacts
  · rw [if_neg hfacts]
    exact iff_of_false (by simp) hfacts

theorem check_of_adopt (hfacts : (facts.adopt set).facts = some facts) :
    facts.check set = .ok () := by
  rw [check_eq_ok_iff]
  by_cases hnone : set.facts = none
  · exact .inl hnone
  · rw [adopt, if_neg hnone] at hfacts
    exact .inr hfacts

theorem adopt_zero (facts : Universe) :
    facts.adopt FactSet.zero = facts.empty := if_pos rfl

end Universe

namespace FactSet

theorem eq_zero_of_facts {set : FactSet} (hfacts : set.facts = none) :
    set = zero := by
  obtain ⟨owner, bits⟩ := set
  subst hfacts
  exact congrArg (FactSet.mk none) BitVec.of_length_zero

theorem eq_zero_iff {set : FactSet} : set = zero ↔ set.facts = none :=
  ⟨fun hzero => congrArg facts hzero, eq_zero_of_facts⟩

theorem elements_adopt (facts : Universe) (set : FactSet) :
    (facts.adopt set).elements = set.elements := by
  by_cases hfacts : set.facts = none
  · obtain rfl := eq_zero_of_facts hfacts
    rw [Universe.adopt_zero, elements_eq_filter rfl]
    exact List.filter_eq_nil_iff.mpr fun fact _ => by simp
  · rw [Universe.adopt, if_neg hfacts]

/-- A set that a universe accepts is the set of no universe, or given by
bits. -/
theorem eq_zero_or_ofBits {set : FactSet} {facts : Universe}
    (hcheck : facts.check set = .ok ()) :
    set = zero ∨ ∃ bits, set = facts.ofBits bits :=
  (Universe.check_eq_ok_iff.mp hcheck).imp eq_zero_of_facts exists_ofBits

section Combine

variable (operation : ∀ {width : Nat}, BitVec width → BitVec width →
    BitVec width)
  (facts : Universe) (bits : BitVec facts.size)

theorem combine_zero_right :
    combine operation (facts.ofBits bits) zero =
      .ok (facts.ofBits (operation bits 0)) := by
  have hwidth : (BitVec.zero 0).setWidth facts.size = 0 :=
    BitVec.setWidth_zero _ _
  simp only [combine, Universe.ofBits, zero, width]
  rw [hwidth]

theorem combine_zero_left :
    combine operation zero (facts.ofBits bits) =
      .ok (facts.ofBits (operation 0 bits)) := by
  have hwidth : (BitVec.zero 0).setWidth facts.size = 0 :=
    BitVec.setWidth_zero _ _
  simp only [combine, Universe.ofBits, zero, width]
  rw [hwidth]

theorem combine_zero_zero : combine operation zero zero = .ok zero :=
  congrArg Except.ok (eq_zero_of_facts rfl)

end Combine

/-- Sets that a universe accepts combine as the sets that it makes of them. -/
theorem combine_adopt
    (operation : ∀ {width : Nat}, BitVec width → BitVec width → BitVec width)
    (hzero : ∀ {width : Nat}, operation (0 : BitVec width) 0 = 0)
    {facts : Universe} {left right : FactSet}
    (hleft : facts.check left = .ok ()) (hright : facts.check right = .ok ()) :
    ∃ set, combine operation left right = .ok set ∧ facts.check set = .ok () ∧
      combine operation (facts.adopt left) (facts.adopt right) =
        .ok (facts.adopt set) := by
  have hown : ∀ bits, facts.adopt (facts.ofBits bits) = facts.ofBits bits :=
    fun bits => Universe.adopt_of_facts rfl
  have hnone : facts.adopt zero = facts.ofBits 0 := facts.adopt_zero
  rcases eq_zero_or_ofBits hleft with rfl | ⟨leftBits, rfl⟩ <;>
    rcases eq_zero_or_ofBits hright with rfl | ⟨rightBits, rfl⟩
  · refine ⟨_, combine_zero_zero operation, hleft, ?_⟩
    rw [hnone, combine_ofBits, hzero]
  · refine ⟨_, combine_zero_left operation facts rightBits,
      Universe.check_of_facts rfl, ?_⟩
    rw [hnone, hown, hown, combine_ofBits]
  · refine ⟨_, combine_zero_right operation facts leftBits,
      Universe.check_of_facts rfl, ?_⟩
    rw [hnone, hown, hown, combine_ofBits]
  · refine ⟨_, combine_ofBits operation facts leftBits rightBits,
      Universe.check_of_facts rfl, ?_⟩
    rw [hown, hown, hown, combine_ofBits]

theorem isEmpty_adopt {facts : Universe} {set : FactSet}
    (hcheck : facts.check set = .ok ()) :
    (facts.adopt set).isEmpty = set.isEmpty := by
  rcases eq_zero_or_ofBits hcheck with rfl | ⟨bits, rfl⟩
  · rw [Universe.adopt_zero]
    exact decide_eq_true rfl
  · rw [Universe.adopt_of_facts rfl]

theorem sameElements_adopt {facts : Universe} {left right : FactSet}
    (hleft : facts.check left = .ok ()) (hright : facts.check right = .ok ()) :
    ∃ same, left.sameElements right = .ok same ∧
      (facts.adopt left).sameElements (facts.adopt right) = .ok same := by
  obtain ⟨set, hset, hcheck, hadopt⟩ :=
    combine_adopt (· ^^^ ·) BitVec.xor_self hleft hright
  refine ⟨set.isEmpty, ?_, ?_⟩
  · rw [sameElements, hset]
    rfl
  · rw [sameElements, hadopt, ← isEmpty_adopt hcheck]
    rfl

/-- Sets that are accepted become the same set exactly if they have the same
members. -/
theorem adopt_eq_iff {facts : Universe} {left right : FactSet}
    (hleft : facts.check left = .ok ()) (hright : facts.check right = .ok ()) :
    facts.adopt left = facts.adopt right ↔ left.elements = right.elements := by
  have hleftFacts := Universe.facts_adopt hleft
  have hrightFacts := Universe.facts_adopt hright
  rw [← elements_adopt facts left, ← elements_adopt facts right]
  constructor
  · exact congrArg elements
  · intro helements
    exact eq_of_contains hleftFacts hrightFacts
      (contains_congr hleftFacts hrightFacts helements)

/-- Sets that are accepted can be compared, and are the same if their members
are. -/
theorem sameElements_of_check {facts : Universe} {left right : FactSet}
    (hleft : facts.check left = .ok ()) (hright : facts.check right = .ok ()) :
    left.sameElements right =
      .ok (decide (left.elements = right.elements)) := by
  obtain ⟨same, hsame, hadopt⟩ := sameElements_adopt hleft hright
  rw [sameElements_eq (Universe.facts_adopt hleft)
    (Universe.facts_adopt hright)] at hadopt
  rw [hsame, ← hadopt]
  exact congrArg Except.ok (decide_eq_decide.mpr (adopt_eq_iff hleft hright))

end FactSet

/-! ### What validation accepts -/

namespace Property

/-- A universe accepts the default and all values of the property. -/
def Valid (facts : Universe) (property : Property) : Prop :=
  facts.check property.default = .ok () ∧
    ∀ site, facts.check (property.get site) = .ok ()

theorem Within.valid {facts : Universe} {property : Property}
    (hwithin : property.Within facts) : property.Valid facts :=
  ⟨Universe.check_of_facts hwithin.1,
    fun site => Universe.check_of_facts (hwithin.2 site)⟩

theorem valid_iff_values {facts : Universe} {property : Property} :
    property.Valid facts ↔ facts.check property.default = .ok () ∧
      ∀ site value, property.values.get? site = some value →
        facts.check value = .ok () := by
  constructor
  · rintro ⟨hdefault, hget⟩
    refine ⟨hdefault, fun site value hvalue => ?_⟩
    have hsite := hget site
    rwa [get, hvalue, Option.getD_some] at hsite
  · rintro ⟨hdefault, hvalues⟩
    refine ⟨hdefault, fun site => ?_⟩
    rw [get]
    cases hvalue : property.values.get? site with
    | none => exact hdefault
    | some value => exact hvalues site value hvalue

end Property

namespace System

theorem validateValues_eq_ok_iff {facts : Universe} {name : Text}
    {entries : List (Site × FactSet)} :
    validateValues facts name entries = .ok () ↔
      ∀ entry ∈ entries, facts.check entry.2 = .ok () := by
  induction entries with
  | nil => simp [validateValues]
  | cons entry entries ih =>
      rw [List.forall_mem_cons, ← ih, validateValues]
      cases facts.check entry.2 with
      | error error => simp
      | ok _ => simp

theorem validateProperty_eq_ok_iff {facts : Universe} {property : Property} :
    validateProperty facts property = .ok () ↔ property.Valid facts := by
  have hvalues : validateValues facts property.name property.values.entries =
      .ok () ↔
        ∀ site value, property.values.get? site = some value →
          facts.check value = .ok () := by
    rw [validateValues_eq_ok_iff]
    simp only [Prod.forall, Table.mem_entries_iff]
  rw [Property.valid_iff_values, ← hvalues, validateProperty]
  cases facts.check property.default with
  | error error => simp
  | ok _ => simp

/-- The universe of the system accepts every gen, kill and out set. -/
structure Valid (system : System) : Prop where
  gen : system.gen.Valid system.facts
  kill : system.kill.Valid system.facts
  out : system.out.Valid system.facts

theorem WellFormed.valid {system : System} (hwell : system.WellFormed) :
    system.Valid :=
  ⟨hwell.gen.valid, hwell.kill.valid, hwell.out.valid⟩

/-- A system passes validation exactly if it is valid. -/
theorem validate_eq_ok_iff {system : System} :
    system.validate = .ok () ↔ system.Valid := by
  have hparts : system.Valid ↔
      system.gen.Valid system.facts ∧ system.kill.Valid system.facts ∧
        system.out.Valid system.facts :=
    ⟨fun hvalid => ⟨hvalid.gen, hvalid.kill, hvalid.out⟩, fun h =>
      ⟨h.1, h.2.1, h.2.2⟩⟩
  rw [hparts, ← validateProperty_eq_ok_iff, ← validateProperty_eq_ok_iff,
    ← validateProperty_eq_ok_iff, validate]
  cases validateProperty system.facts system.gen with
  | error error => simp
  | ok _ =>
      cases validateProperty system.facts system.kill with
      | error error => simp
      | ok _ => simp

end System

/-! ### Systems with their sets changed -/

namespace Property

def mapSets (change : FactSet → FactSet) (property : Property) : Property :=
  { property with
    default := change property.default
    values :=
      Table.ofList
        (property.values.entries.map fun entry => (entry.1, change entry.2)) }

variable (change : FactSet → FactSet) (property : Property)

theorem get?_mapSets (site : Site) :
    (property.mapSets change).values.get? site =
      (property.values.get? site).map change :=
  Table.get?_ofList_map_entries property.values change site

@[simp]
theorem get_mapSets (site : Site) :
    (property.mapSets change).get site = change (property.get site) := by
  rw [get, get?_mapSets, get]
  cases property.values.get? site <;> rfl

theorem within_mapSets {change : FactSet → FactSet} {property : Property}
    {facts : Universe} (hdefault : (change property.default).facts = some facts)
    (hvalues : ∀ site, (change (property.get site)).facts = some facts) :
    (property.mapSets change).Within facts := by
  refine ⟨hdefault, fun site => ?_⟩
  rw [get_mapSets]
  exact hvalues site

theorem mapSets_set (site : Site) (value : FactSet) :
    (property.set site value).mapSets change =
      (property.mapSets change).set site (change value) := by
  have hvalues : ((property.set site value).mapSets change).values =
      ((property.mapSets change).set site (change value)).values := by
    ext other : 1
    rw [get?_mapSets, set, set, Table.get?_insert, Table.get?_insert,
      get?_mapSets]
    split <;> rfl
  exact congrArg (fun values => { property.mapSets change with values }) hvalues

end Property

namespace System

/-- The system over another universe, with all its sets changed. -/
def mapSets (system : System) (facts : Universe) (change : FactSet → FactSet) :
    System where
  facts
  gen := system.gen.mapSets change
  kill := system.kill.mapSets change
  out := system.out.mapSets change

variable {system : System} {graph : Graph} {direction : Direction}

theorem Untouched.mapSets (huntouched : system.Untouched graph)
    (facts : Universe) (change : FactSet → FactSet) :
    (system.mapSets facts change).Untouched graph := by
  intro index hindex
  have hvalue := Property.get?_mapSets change system.out (graph.site index)
  rw [huntouched index hindex] at hvalue
  exact hvalue

/-- The system in which the empty set of the universe stands for the set of no
universe. -/
def adopted (system : System) : System :=
  system.mapSets system.facts system.facts.adopt

theorem get_out_adopted (system : System) (site : Site) :
    system.adopted.out.get site = system.facts.adopt (system.out.get site) :=
  Property.get_mapSets system.facts.adopt system.out site

/-- A valid system is well formed once its sets are adopted. -/
theorem Valid.wellFormed_adopted (hvalid : system.Valid) :
    system.adopted.WellFormed := by
  have hwithin : ∀ {property : Property}, property.Valid system.facts →
      (property.mapSets system.facts.adopt).Within system.facts :=
    fun hproperty =>
    Property.within_mapSets (Universe.facts_adopt hproperty.1) fun site =>
      Universe.facts_adopt (hproperty.2 site)
  exact ⟨hwithin hvalid.gen, hwithin hvalid.kill, hwithin hvalid.out⟩

theorem strand_adopted (system : System) (graph : Graph) (direction : Direction)
    (fact : Text) :
    system.adopted.strand graph direction fact =
      system.strand graph direction fact := by
  simp only [strand, adopted, mapSets, Property.get_mapSets,
    Universe.contains_adopt]

theorem state_adopted (system : System) (graph : Graph) (fact : Text) :
    system.adopted.state graph fact = system.state graph fact := by
  funext index
  simp only [state, adopted, mapSets, Property.get_mapSets,
    Universe.contains_adopt]

/-! ### Passes over valid systems -/

theorem Valid.set_out (hvalid : system.Valid) (site : Site) {value : FactSet}
    (hvalue : system.facts.check value = .ok ()) :
    Valid { system with out := system.out.set site value } := by
  refine ⟨hvalid.gen, hvalid.kill, hvalid.out.1, fun other => ?_⟩
  rw [Property.get_set]
  split
  · exact hvalue
  · exact hvalid.out.2 other

theorem adopted_set_out (system : System) (site : Site) {value : FactSet}
    (hvalue : value.facts = some system.facts) :
    adopted { system with out := system.out.set site value } =
      { system.adopted with out := system.adopted.out.set site value } := by
  simp only [adopted, mapSets, Property.mapSets_set,
    Universe.adopt_of_facts hvalue]

/-- The meet of valid sets exists, and is adopted to the meet of the adopted
sets. -/
theorem Valid.meet_adopted (hvalid : system.Valid) (sites : List Site) :
    ∃ set, system.meet sites = .ok set ∧ system.facts.check set = .ok () ∧
      system.adopted.meet sites = .ok (system.facts.adopt set) := by
  have hfold : ∀ (rest : List Site) (start : FactSet),
      system.facts.check start = .ok () →
        ∃ set, rest.foldlM (fun meet site => meet.inter (system.out.get site))
            start = .ok set ∧
          system.facts.check set = .ok () ∧
          rest.foldlM
            (fun meet site => meet.inter (system.adopted.out.get site))
            (system.facts.adopt start) = .ok (system.facts.adopt set) := by
    intro rest
    induction rest with
    | nil => exact fun start hstart => ⟨start, rfl, hstart, rfl⟩
    | cons site rest ih =>
        intro start hstart
        obtain ⟨both, hboth, hcheck, hadopt⟩ :=
          FactSet.combine_adopt (· &&& ·) BitVec.and_self hstart
            (hvalid.out.2 site)
        obtain ⟨set, hset, hset', hrest⟩ := ih both hcheck
        refine ⟨set, ?_, hset', ?_⟩
        · rw [List.foldlM_cons, FactSet.inter, hboth]
          exact hset
        · rw [List.foldlM_cons, FactSet.inter, get_out_adopted, hadopt]
          exact hrest
  cases sites with
  | nil => exact ⟨system.facts.empty, rfl, Universe.check_of_facts rfl, rfl⟩
  | cons first rest =>
      rw [meet, meet, get_out_adopted]
      exact hfold rest _ (hvalid.out.2 first)

/-- What a node passes on exists, and is adopted to what it passes on with
adopted sets. -/
theorem Valid.transfer_adopted (hvalid : system.Valid) (site : Site)
    {meet : FactSet} (hmeet : system.facts.check meet = .ok ()) :
    ∃ set, system.transfer site meet = .ok set ∧
      system.facts.check set = .ok () ∧
      system.adopted.transfer site (system.facts.adopt meet) =
        .ok (system.facts.adopt set) := by
  obtain ⟨kept, hkept, hkeptCheck, hkeptAdopt⟩ :=
    FactSet.combine_adopt (· &&& ~~~ ·) BitVec.zero_and hmeet
      (hvalid.kill.2 site)
  obtain ⟨set, hset, hcheck, hadopt⟩ :=
    FactSet.combine_adopt (· ||| ·) BitVec.or_self hkeptCheck
      (hvalid.gen.2 site)
  refine ⟨set, ?_, hcheck, ?_⟩
  · rw [transfer, FactSet.diff, hkept]
    exact hset
  · have hgen : system.adopted.gen.get site =
        system.facts.adopt (system.gen.get site) :=
      Property.get_mapSets ..
    have hkill : system.adopted.kill.get site =
        system.facts.adopt (system.kill.get site) :=
      Property.get_mapSets ..
    rw [transfer, hgen, hkill, FactSet.diff, hkeptAdopt]
    exact hadopt

/-- A visit of a valid system does not fail, and comes out the same with adopted
sets. -/
theorem Valid.visit_adopted (hvalid : system.Valid) (graph : Graph)
    (direction : Direction) (index : Nat) :
    ∃ next : Option System,
      (system.visit graph direction index).result = .ok next ∧
        (system.adopted.visit graph direction index).result =
          .ok (next.map adopted) ∧
        ∀ later ∈ next, later.Valid := by
  let site := graph.site index
  obtain ⟨meet, hmeet, hmeetCheck, hmeetAdopt⟩ :=
    hvalid.meet_adopted ((direction.neighbors graph index).map graph.site)
  obtain ⟨new, hnew, hnewCheck, hnewAdopt⟩ :=
    hvalid.transfer_adopted site hmeetCheck
  obtain ⟨same, hsame, hsameAdopt⟩ :=
    FactSet.sameElements_adopt hnewCheck (hvalid.out.2 site)
  have hown := Universe.facts_adopt hnewCheck
  simp only [visit, hmeet, hmeetAdopt, hnew, hnewAdopt, update, hsame,
    get_out_adopted, hsameAdopt, site]
  cases same with
  | true => exact ⟨none, rfl, rfl, by simp⟩
  | false =>
      refine ⟨some
        { system with out := system.out.set site (system.facts.adopt new) }, ?_,
          ?_, ?_⟩
      · simp only [setOut, hnewCheck, site]
      · simp only [setOut_of_facts system.adopted (graph.site index) hown,
          Option.map_some]
        rw [adopted_set_out system site hown]
      · intro later hlater
        cases hlater
        exact hvalid.set_out site (Universe.check_of_facts hown)

/-- What the pass over a valid system and the pass with adopted sets have in
common. -/
structure Pass.Matches (pass adopted : Pass) : Prop where
  fault : pass.fault = none
  valid : pass.system.Valid
  system : adopted.system = pass.system.adopted
  changed : adopted.changed = pass.changed

/-- A pass over a valid system has no fault and matches the pass with adopted
sets, visit by visit. -/
theorem Valid.passOver_adopted (hvalid : system.Valid) (graph : Graph)
    (direction : Direction) (indices : List Nat) :
    (passOver graph direction indices system).Matches
      (passOver graph direction indices system.adopted) := by
  induction indices generalizing system with
  | nil => exact ⟨rfl, hvalid, rfl, rfl⟩
  | cons index rest ih =>
      obtain ⟨next, hresult, hadopted, hnext⟩ :=
        hvalid.visit_adopted graph direction index
      cases next with
      | none =>
          rw [passOver_of_none hresult, passOver_of_none hadopted]
          have hrest := ih hvalid
          exact ⟨hrest.fault, hrest.valid, hrest.system, hrest.changed⟩
      | some next =>
          rw [passOver_of_some hresult, passOver_of_some hadopted]
          have hrest := ih (hnext next rfl)
          exact ⟨hrest.fault, hrest.valid, hrest.system, rfl⟩

theorem Valid.pass_adopted (hvalid : system.Valid) (graph : Graph)
    (direction : Direction) :
    (system.pass graph direction).Matches
      (system.adopted.pass graph direction) :=
  hvalid.passOver_adopted graph direction _

/-- Any number of passes leaves the system valid, and adopting commutes with
them. -/
theorem Valid.after_adopted (hvalid : system.Valid) (graph : Graph)
    (direction : Direction) (count : Nat) :
    (after graph direction count system).Valid ∧
      after graph direction count system.adopted =
        (after graph direction count system).adopted := by
  induction count with
  | zero => exact ⟨hvalid, rfl⟩
  | succ count ih =>
      have hpass := ih.1.pass_adopted graph direction
      rw [after_succ, after_succ, ih.2]
      exact ⟨hpass.valid, hpass.system⟩

/-- A run over a valid system takes as many passes as the one with adopted
sets. -/
theorem Valid.run_adopted (hvalid : system.Valid) (graph : Graph)
    (direction : Direction) (budget : Nat) :
    (run graph direction budget system).fault = none ∧
      (run graph direction budget system.adopted).passes =
        (run graph direction budget system).passes ∧
      (run graph direction budget system.adopted).settled =
        (run graph direction budget system).settled := by
  induction budget generalizing system with
  | zero => exact ⟨rfl, rfl, rfl⟩
  | succ budget ih =>
      have hpass := hvalid.pass_adopted graph direction
      have hfault := (pass_spec hvalid.wellFormed_adopted graph direction).fault
      have hlast : (system.adopted.pass graph direction).IsLast ↔
          (system.pass graph direction).IsLast := by
        rw [Pass.IsLast, Pass.IsLast, hpass.fault, hpass.changed, hfault]
      by_cases hends : (system.pass graph direction).IsLast
      · rw [run_of_isLast budget hends, run_of_isLast budget (hlast.mpr hends),
          hpass.fault, hfault]
        exact ⟨rfl, rfl, rfl⟩
      · rw [run_of_not_isLast budget hends,
          run_of_not_isLast budget (mt hlast.mp hends), hpass.system]
        obtain ⟨hrun, hpasses, hsettled⟩ := ih hpass.valid
        exact ⟨hrun, congrArg Nat.succ hpasses, hsettled⟩

/-! ### Facts of valid systems -/

theorem Valid.after_state (hvalid : system.Valid) (count : Nat) (fact : Text) :
    (after graph direction count system).state graph fact =
      (system.strand graph direction fact).sweep^[count]
        (system.state graph fact) := by
  rw [← state_adopted, ← (hvalid.after_adopted graph direction count).2,
    System.after_state hvalid.wellFormed_adopted, strand_adopted, state_adopted]

/-- The next pass changes nothing if and only if every fact of the universe has
come to rest. -/
theorem Valid.after_quiet_iff (hvalid : system.Valid) (count : Nat) :
    ((after graph direction count system).pass graph direction).changed =
        false ↔
      ∀ fact ∈ system.facts.elements,
        (system.strand graph direction fact).Stable
          ((system.strand graph direction fact).sweep^[count]
            (system.state graph fact)) := by
  have hwell := hvalid.wellFormed_adopted
  obtain ⟨hafter, hadopted⟩ := hvalid.after_adopted graph direction count
  rw [← (hafter.pass_adopted graph direction).changed, ← hadopted,
    System.after_quiet_iff hwell]
  simp only [strand_adopted, state_adopted]
  refine ⟨fun hall fact _ => hall fact, fun hall fact => ?_⟩
  by_cases hfact : fact ∈ system.facts.elements
  · exact hall fact hfact
  · have hstable := stable_of_not_mem hwell graph direction hfact
    rw [strand_adopted, state_adopted] at hstable
    rw [Function.iterate_fixed hstable.sweep_eq]
    exact hstable

/-! ### What validation promises -/

/-- Validation accepts the set of no universe and the sets of the universe of
the system, at nodes of any graph, and nothing else.  Whatever it accepts runs
without a fault and stays accepted: pass by pass, it reports the same changes
and has the same out sets as the system in which the empty set of the universe
stands for the set of no universe. -/
theorem validate_guards_passes (system : System) (graph : Graph)
    (direction : Direction) :
    (system.validate = .ok () ↔
      ∀ property ∈ [system.gen, system.kill, system.out],
        (property.default = .zero ∨
            property.default.facts = some system.facts) ∧
          ∀ site value, property.values.get? site = some value →
            value = .zero ∨ value.facts = some system.facts) ∧
      (system.validate = .ok () → ∀ count,
        ((after graph direction count system).pass graph direction).fault =
            none ∧
          (after graph direction count system).validate = .ok () ∧
          ((after graph direction count system).pass graph
              direction).changed =
            ((after graph direction count system.adopted).pass graph
              direction).changed ∧
          ∀ site,
            ((after graph direction count system).out.get site).elements =
              ((after graph direction count system.adopted).out.get
                site).elements) := by
  constructor
  · simp only [FactSet.eq_zero_iff, ← Universe.check_eq_ok_iff,
      ← Property.valid_iff_values, List.forall_mem_cons, validate_eq_ok_iff]
    constructor
    · exact fun hvalid => ⟨hvalid.gen, hvalid.kill, hvalid.out, by simp⟩
    · exact fun hparts => ⟨hparts.1, hparts.2.1, hparts.2.2.1⟩
  · intro hvalidate count
    obtain ⟨hafter, hadopted⟩ :=
      (validate_eq_ok_iff.mp hvalidate).after_adopted graph direction count
    have hpass := hafter.pass_adopted graph direction
    rw [hadopted]
    refine ⟨hpass.fault, validate_eq_ok_iff.mpr hafter, hpass.changed.symm,
      fun site => ?_⟩
    rw [get_out_adopted, FactSet.elements_adopt]

/-- The ring with the set of no universe for the gen sets, for a kill set and
for an out set. -/
def bareRing : System :=
  { ringStart with
    gen := { name := "gen", default := .zero }
    kill := ringStart.kill.set (ring.site 1) .zero
    out := ringStart.out.set (ring.site 2) .zero }

/-- The out set of no universe is still there after a pass that changes the
other nodes.  A set of another universe with the same facts is not accepted. -/
theorem validate_guards_passes_ring :
    bareRing.validate = .ok () ∧
      (bareRing.pass ring .forward).fault = none ∧
      (bareRing.pass ring .forward).changed =
        (bareRing.adopted.pass ring .forward).changed ∧
      (bareRing.pass ring .forward).changed = true ∧
      (after ring .forward 1 bareRing).out.get (ring.site 2) = .zero ∧
      (∀ site, ((after ring .forward 1 bareRing).out.get site).elements =
        ((after ring .forward 1 bareRing.adopted).out.get site).elements) ∧
      System.validate { bareRing with
        gen := { bareRing.gen with
          default := Universe.full { ringFacts with ident := 1 } } } ≠
          .ok () := by
  have hvalidate : bareRing.validate = .ok () := rfl
  have hpasses := (validate_guards_passes bareRing ring .forward).2 hvalidate
  obtain ⟨hfault, -, hchanged, -⟩ := hpasses 0
  refine ⟨hvalidate, hfault, hchanged, by decide +kernel, by decide +kernel,
    (hpasses 1).2.2.2, fun hstray => ?_⟩
  have hdefault :=
    ((validate_guards_passes _ ring .forward).1.mp hstray _
      List.mem_cons_self).1
  revert hdefault
  decide +kernel

/-! ### Fresh nodes -/

/-- A valid system without out values at the nodes of a graph. -/
structure Fresh (system : System) (graph : Graph) : Prop where
  validate : system.validate = .ok ()
  untouched : system.Untouched graph

namespace Fresh

theorem valid (hfresh : system.Fresh graph) : system.Valid :=
  validate_eq_ok_iff.mp hfresh.validate

/-- A run over fresh nodes ends by itself, after one pass for each node and one
more at most. -/
theorem solve_ends (hfresh : system.Fresh graph) (direction : Direction) :
    (system.solve graph direction).settled = true ∧
      (system.solve graph direction).fault = none ∧
      (system.solve graph direction).passes ≤ graph.size + 1 := by
  obtain ⟨hfault, hpasses, hsettled⟩ :=
    hfresh.valid.run_adopted graph direction (system.passLimit graph)
  obtain ⟨hspec, hle, -⟩ :=
    (hfresh.untouched.mapSets _ _).solve_spec hfresh.valid.wellFormed_adopted
      direction
  exact ⟨hsettled.symm.trans hspec.settled, hfault, hpasses.symm.trans_le hle⟩

/-- A run over fresh nodes ends in the state after one sweep for each node. -/
theorem solve_state (hfresh : system.Fresh graph) (direction : Direction)
    (fact : Text) :
    (system.solve graph direction).system.state graph fact =
      (system.strand graph direction fact).sweep^[graph.size]
        (system.state graph fact) := by
  obtain ⟨hsettled, -, hpasses⟩ := hfresh.solve_ends direction
  have hstable := (hfresh.untouched.advancing direction fact).stable_iterate
  rw [solve_eq_after hsettled hpasses, hfresh.valid.after_state,
    Function.iterate_succ_apply']
  exact hstable.sweep_eq

end Fresh

theorem Reached.fresh {facts : Universe} {initial : FactSet}
    (hreached : Reached facts initial system)
    (huntouched : system.Untouched graph) : system.Fresh graph :=
  ⟨validate_eq_ok_iff.mpr hreached.wellFormed.valid, huntouched⟩

end System

end GenKill
