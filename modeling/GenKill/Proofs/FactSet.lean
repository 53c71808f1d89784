import GenKill.FactSet
import Mathlib.Data.List.Nodup

/-!
# Membership in sets of facts

Sets of one universe combine without a fault, and each fact decides by itself
whether it belongs to the result.  These lemmas are all that the theory of
passes uses of the bits behind a set.
-/

namespace GenKill

namespace Universe

theorem index?_lt {facts : Universe} {element : Text} {index : Nat}
    (hindex : facts.index? element = some index) : index < facts.size :=
  (List.findIdx?_eq_some_iff_findIdx_eq.mp hindex).1

theorem getElem?_of_index? {facts : Universe} {element : Text} {index : Nat}
    (hindex : facts.index? element = some index) :
    facts.elements[index]? = some element := by
  obtain ⟨hlt, hsame, -⟩ := List.findIdx?_eq_some_iff_getElem.mp hindex
  rw [List.getElem?_eq_getElem hlt, of_decide_eq_true hsame]

theorem index?_getElem (facts : Universe) {index : Nat}
    (hindex : index < facts.elements.length) :
    facts.index? facts.elements[index] = some index := by
  rw [index?, List.findIdx?_eq_some_iff_getElem]
  refine ⟨hindex, by simp, ?_⟩
  intro earlier hearlier
  have hne :=
    List.pairwise_iff_getElem.mp facts.nodup earlier index (by omega) hindex
      hearlier
  simpa using hne

/-- Only texts that are no elements have no number. -/
theorem index?_eq_none_iff {facts : Universe} {element : Text} :
    facts.index? element = none ↔ element ∉ facts.elements := by
  rw [index?, List.findIdx?_eq_none_iff]
  constructor
  · intro hnone hmem
    simpa using hnone element hmem
  · intro hmem other hother
    have hne : other ≠ element := fun heq => hmem (heq ▸ hother)
    simpa using hne

def ofBits (facts : Universe) (bits : BitVec facts.size) : FactSet :=
  ⟨some facts, bits⟩

theorem ofBits_inj {facts : Universe} {left right : BitVec facts.size} :
    facts.ofBits left = facts.ofBits right ↔ left = right := by
  constructor
  · intro heq
    injection heq with _ hbits
  · intro heq
    rw [heq]

end Universe

namespace FactSet

/-- Every set of a universe is given by bits, one for each element. -/
theorem exists_ofBits {set : FactSet} {facts : Universe}
    (hfacts : set.facts = some facts) : ∃ bits, set = facts.ofBits bits := by
  obtain ⟨owner, bits⟩ := set
  subst hfacts
  exact ⟨bits, rfl⟩

theorem contains_of_facts_none {set : FactSet} (hfacts : set.facts = none)
    (element : Text) : set.contains element = false := by
  obtain ⟨owner, bits⟩ := set
  subst hfacts
  rfl

theorem contains_of_index?_none {set : FactSet} {facts : Universe}
    {element : Text} (hfacts : set.facts = some facts)
    (hindex : facts.index? element = none) : set.contains element = false := by
  obtain ⟨bits, rfl⟩ := exists_ofBits hfacts
  simp [contains, Universe.ofBits, hindex]

theorem contains_ofBits {facts : Universe} {element : Text} {index : Nat}
    (bits : BitVec facts.size) (hindex : facts.index? element = some index) :
    (facts.ofBits bits).contains element = bits.getLsbD index := by
  simp only [contains, Universe.ofBits, hindex]
  rfl

theorem mem_elements_of_contains {set : FactSet} {facts : Universe}
    {element : Text} (hfacts : set.facts = some facts)
    (hcontains : set.contains element = true) : element ∈ facts.elements := by
  by_contra hmem
  rw [contains_of_index?_none hfacts
    (Universe.index?_eq_none_iff.mpr hmem)] at hcontains
  exact Bool.noConfusion hcontains

/-- Sets of one universe are equal if they have the same members. -/
theorem eq_of_contains {left right : FactSet} {facts : Universe}
    (hleft : left.facts = some facts) (hright : right.facts = some facts)
    (hcontains : ∀ element, left.contains element = right.contains element) :
    left = right := by
  obtain ⟨leftBits, rfl⟩ := exists_ofBits hleft
  obtain ⟨rightBits, rfl⟩ := exists_ofBits hright
  rw [Universe.ofBits_inj]
  apply BitVec.eq_of_getLsbD_eq
  intro index hindex
  have hposition := facts.index?_getElem hindex
  rw [← contains_ofBits leftBits hposition,
    ← contains_ofBits rightBits hposition]
  exact hcontains _

@[simp]
theorem contains_empty (facts : Universe) (element : Text) :
    facts.empty.contains element = false := by
  cases hindex : facts.index? element with
  | none => exact contains_of_index?_none rfl hindex
  | some index =>
      have hbit := contains_ofBits (BitVec.zero facts.size) hindex
      rw [BitVec.zero_eq, BitVec.getLsbD_zero] at hbit
      exact hbit

theorem contains_full (facts : Universe) (element : Text) :
    facts.full.contains element = decide (element ∈ facts.elements) := by
  cases hindex : facts.index? element with
  | none =>
      rw [contains_of_index?_none rfl hindex]
      simpa using Universe.index?_eq_none_iff.mp hindex
  | some index =>
      have hmem : element ∈ facts.elements := by
        by_contra hmem
        simp [Universe.index?_eq_none_iff.mpr hmem] at hindex
      have hbit := contains_ofBits (BitVec.allOnes facts.size) hindex
      rw [BitVec.getLsbD_allOnes,
        decide_eq_true (Universe.index?_lt hindex)] at hbit
      rw [decide_eq_true hmem]
      exact hbit

/-! ### Operations -/

/-- Sets of one universe are combined bit by bit, without a fault. -/
theorem combine_ofBits
    (operation : ∀ {width : Nat}, BitVec width → BitVec width → BitVec width)
    (facts : Universe) (left right : BitVec facts.size) :
    combine operation (facts.ofBits left) (facts.ofBits right) =
      .ok (facts.ofBits (operation left right)) := by
  have hwidth : right.setWidth facts.size = right := BitVec.setWidth_eq right
  simp only [combine, Universe.ofBits, width, if_pos]
  rw [hwidth]

/-- An operation that works bit by bit works fact by fact. -/
theorem combine_spec
    (operation : ∀ {width : Nat}, BitVec width → BitVec width → BitVec width)
    (connective : Bool → Bool → Bool)
    (hbits : ∀ {width : Nat} (left right : BitVec width) (index : Nat),
      index < width →
        (operation left right).getLsbD index =
          connective (left.getLsbD index) (right.getLsbD index))
    (hfalse : connective false false = false) {left right : FactSet}
    {facts : Universe} (hleft : left.facts = some facts)
    (hright : right.facts = some facts) :
    ∃ set, combine operation left right = .ok set ∧ set.facts = some facts ∧
      ∀ element, set.contains element =
        connective (left.contains element) (right.contains element) := by
  obtain ⟨leftBits, rfl⟩ := exists_ofBits hleft
  obtain ⟨rightBits, rfl⟩ := exists_ofBits hright
  refine ⟨facts.ofBits (operation leftBits rightBits),
    combine_ofBits operation facts leftBits rightBits, rfl, ?_⟩
  intro element
  cases hindex : facts.index? element with
  | none =>
      rw [contains_of_index?_none hleft hindex,
        contains_of_index?_none hright hindex, hfalse]
      exact contains_of_index?_none rfl hindex
  | some index =>
      rw [contains_ofBits _ hindex, contains_ofBits _ hindex,
        contains_ofBits _ hindex]
      exact hbits leftBits rightBits index (Universe.index?_lt hindex)

theorem union_spec {left right : FactSet} {facts : Universe}
    (hleft : left.facts = some facts) (hright : right.facts = some facts) :
    ∃ set, left.union right = .ok set ∧ set.facts = some facts ∧
      ∀ element,
        set.contains element =
          (left.contains element || right.contains element) :=
  combine_spec (· ||| ·) or (fun _ _ _ _ => BitVec.getLsbD_or) rfl hleft hright

theorem inter_spec {left right : FactSet} {facts : Universe}
    (hleft : left.facts = some facts) (hright : right.facts = some facts) :
    ∃ set, left.inter right = .ok set ∧ set.facts = some facts ∧
      ∀ element,
        set.contains element =
          (left.contains element && right.contains element) :=
  combine_spec (· &&& ·) and (fun _ _ _ _ => BitVec.getLsbD_and) rfl hleft
    hright

/-- The difference of sets of one universe exists, and has the members of the
first that the second lacks. -/
theorem diff_spec {left right : FactSet} {facts : Universe}
    (hleft : left.facts = some facts) (hright : right.facts = some facts) :
    ∃ set, left.diff right = .ok set ∧ set.facts = some facts ∧
      ∀ element,
        set.contains element =
          (left.contains element && !right.contains element) := by
  refine combine_spec (· &&& ~~~ ·) (fun left right => left && !right) ?_ rfl
    hleft hright
  intro width left right index hindex
  rw [BitVec.getLsbD_and, BitVec.getLsbD_not, decide_eq_true hindex,
    Bool.true_and]

/-- Sets of one universe have the same elements only if they are the same
set. -/
theorem sameElements_eq {left right : FactSet} {facts : Universe}
    (hleft : left.facts = some facts) (hright : right.facts = some facts) :
    left.sameElements right = .ok (decide (left = right)) := by
  obtain ⟨leftBits, rfl⟩ := exists_ofBits hleft
  obtain ⟨rightBits, rfl⟩ := exists_ofBits hright
  have hempty : (facts.ofBits (leftBits ^^^ rightBits)).isEmpty =
      decide (leftBits = rightBits) :=
    decide_eq_decide.mpr BitVec.xor_eq_zero_iff
  rw [sameElements, combine_ofBits, Except.map, hempty]
  exact congrArg Except.ok (decide_eq_decide.mpr Universe.ofBits_inj.symm)

end FactSet

/-! ### Lists of elements -/

/-- A list of elements makes a set of its universe, or names an element outside
of it. -/
theorem Universe.facts_of_set {facts : Universe} {elements : List Text}
    {set : FactSet} (hset : facts.set elements = .ok set) :
    set.facts = some facts := by
  simp only [Universe.set] at hset
  split at hset
  · cases hset
    rfl
  · simp at hset

namespace Universe

variable {facts : Universe} {elements : List Text}

theorem bitsOf_cons {element : Text} {rest : List Text} {index : Nat}
    (hindex : facts.index? element = some index) :
    facts.bitsOf (element :: rest) =
      (facts.bitsOf rest).map (BitVec.twoPow facts.size index ||| ·) := by
  simp only [bitsOf, hindex]
  cases facts.bitsOf rest <;> rfl

/-- Elements of the universe have bits, which are those of just these elements.
-/
theorem bitsOf_spec (hmem : ∀ element ∈ elements, element ∈ facts.elements) :
    ∃ bits, facts.bitsOf elements = .ok bits ∧
      ∀ element,
        (facts.ofBits bits).contains element = decide (element ∈ elements) := by
  induction elements with
  | nil => exact ⟨_, rfl, fun element => FactSet.contains_empty facts element⟩
  | cons first rest ih =>
      obtain ⟨bits, hbits, hcontains⟩ :=
        ih fun element h => hmem element (List.mem_cons_of_mem _ h)
      obtain ⟨position, hposition, hfirst⟩ :=
        List.getElem_of_mem (hmem first List.mem_cons_self)
      have hindex : facts.index? first = some position :=
        hfirst ▸ facts.index?_getElem hposition
      refine ⟨BitVec.twoPow facts.size position ||| bits, ?_, ?_⟩
      · rw [bitsOf_cons hindex, hbits]
        rfl
      intro element
      have hrest := hcontains element
      cases hother : facts.index? element with
      | none =>
          have hout := index?_eq_none_iff.mp hother
          rw [FactSet.contains_of_index?_none rfl hother, eq_comm,
            decide_eq_false_iff_not]
          exact fun h => hout (hmem element h)
      | some other =>
          have hsame : position = other ↔ element = first := by
            constructor
            · rintro rfl
              have hleft := getElem?_of_index? hother
              rw [getElem?_of_index? hindex] at hleft
              exact (Option.some.inj hleft).symm
            · rintro rfl
              exact Option.some.inj (hindex.symm.trans hother)
          rw [FactSet.contains_ofBits _ hother] at hrest ⊢
          rw [BitVec.getLsbD_or, hrest, BitVec.getLsbD_twoPow,
            decide_eq_true (index?_lt hindex)]
          simp [hsame]

/-- Texts have bits only if all of them are elements of the universe. -/
theorem mem_of_bitsOf {bits : BitVec facts.size}
    (hbits : facts.bitsOf elements = .ok bits) :
    ∀ element ∈ elements, element ∈ facts.elements := by
  induction elements generalizing bits with
  | nil => exact fun _ h => absurd h List.not_mem_nil
  | cons first rest ih =>
      cases hindex : facts.index? first with
      | none =>
          simp only [bitsOf, hindex] at hbits
          cases hbits
      | some index =>
          rw [bitsOf_cons hindex] at hbits
          cases hrest : facts.bitsOf rest with
          | error error =>
              rw [hrest] at hbits
              cases hbits
          | ok others =>
              intro element hmem
              rcases List.mem_cons.mp hmem with rfl | hmem
              · exact List.mem_of_getElem? (getElem?_of_index? hindex)
              · exact ih hrest element hmem

/-- A list makes a set exactly if all its elements are in the universe. -/
theorem exists_set_iff :
    (∃ set, facts.set elements = .ok set) ↔
      ∀ element ∈ elements, element ∈ facts.elements := by
  constructor
  · rintro ⟨set, hset⟩
    rw [Universe.set] at hset
    split at hset
    · rename_i bits hbits
      exact mem_of_bitsOf hbits
    · cases hset
  · intro hmem
    obtain ⟨bits, hbits, -⟩ := bitsOf_spec hmem
    exact ⟨facts.ofBits bits, by rw [Universe.set, hbits]; rfl⟩

/-- The set of some elements has these members and no others. -/
theorem contains_of_set {set : FactSet} (hset : facts.set elements = .ok set)
    (element : Text) : set.contains element = decide (element ∈ elements) := by
  obtain ⟨bits, hbits, hcontains⟩ := bitsOf_spec (exists_set_iff.mp ⟨set, hset⟩)
  rw [Universe.set, hbits] at hset
  cases hset
  exact hcontains element

end Universe

/-- The members of a set, in the order of its universe. -/
theorem FactSet.elements_eq_filter {set : FactSet} {facts : Universe}
    (hfacts : set.facts = some facts) :
    set.elements = facts.elements.filter set.contains := by
  obtain ⟨bits, rfl⟩ := exists_ofBits hfacts
  have hbit : ∀ pair ∈ facts.elements.zipIdx,
      (if bits.getLsbD pair.2 then some pair.1 else none) =
        Option.guard (facts.ofBits bits).contains pair.1 := by
    intro pair hpair
    obtain ⟨hlt, helement⟩ :=
      List.getElem?_eq_some_iff.mp (List.mem_zipIdx_iff_getElem?.mp hpair)
    have hindex := facts.index?_getElem hlt
    rw [helement] at hindex
    rw [Option.guard, contains_ofBits bits hindex]
  calc (facts.ofBits bits).elements
      = facts.elements.zipIdx.filterMap
          (Option.guard (facts.ofBits bits).contains ∘ Prod.fst) :=
            List.filterMap_congr hbit
    _ = (facts.elements.zipIdx.map Prod.fst).filter
        (facts.ofBits bits).contains := by
        rw [← List.filterMap_map, List.filterMap_eq_filter]
    _ = facts.elements.filter (facts.ofBits bits).contains := by
        rw [List.zipIdx_map_fst]

theorem FactSet.mem_elements_iff {set : FactSet} {facts : Universe}
    (hfacts : set.facts = some facts) (element : Text) :
    element ∈ set.elements ↔ set.contains element = true := by
  rw [elements_eq_filter hfacts, List.mem_filter]
  exact and_iff_right_of_imp (mem_elements_of_contains hfacts)

/-- Sets that list the same members contain the same facts, whichever universes
they belong to. -/
theorem FactSet.contains_congr {left right : FactSet}
    {leftFacts rightFacts : Universe} (hleft : left.facts = some leftFacts)
    (hright : right.facts = some rightFacts)
    (helements : left.elements = right.elements) (element : Text) :
    left.contains element = right.contains element := by
  rw [Bool.eq_iff_iff, ← mem_elements_iff hleft, ← mem_elements_iff hright,
    helements]

end GenKill
