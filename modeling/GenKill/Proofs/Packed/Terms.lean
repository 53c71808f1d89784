import GenKill.Proofs.Packed.Sets
import GenKill.Proofs.Problem.Refusal

/-!
# Bit vectors as finite sets

Sets are made from universes and from each other, in any nesting.  Kept in words
or not, a set that comes out is a finite set: it shows each fact of its universe
that it contains once and in order, and operations and comparisons of sets are
those of finite sets.  The set of no universe is the empty one, and nothing but
sets of two different universes cannot be combined.
-/

namespace GenKill

/-! ### Terms -/

/-- How sets of some kind are made. -/
structure SetKind (Sets : Type) where
  zero : Sets
  empty : Universe → Sets
  full : Universe → Sets
  ofList : Universe → List Text → Except Error Sets
  apply : SetOperation → Sets → Sets → Except Fault Sets

def FactSet.kind : SetKind FactSet where
  zero := zero
  empty := Universe.empty
  full := Universe.full
  ofList := Universe.set
  apply := apply

def StoredSet.kind {Bits : Type} (package : BitPackage Bits) :
    SetKind (StoredSet Bits) where
  zero := zero
  empty facts := empty package facts.catalog
  full facts := full package facts.catalog
  ofList facts := ofList package facts.catalog
  apply := apply package

/-- A description of how a set is made. -/
inductive SetTerm where
  | zero
  | empty (facts : Universe)
  | full (facts : Universe)
  | list (facts : Universe) (elements : List Text)
  | apply (operation : SetOperation) (left right : SetTerm)

namespace SetTerm

inductive Failure where
  | refused (error : Error)
  | broken (fault : Fault)

def eval {Sets : Type} (kind : SetKind Sets) : SetTerm → Except Failure Sets
  | zero => .ok kind.zero
  | empty facts => .ok (kind.empty facts)
  | full facts => .ok (kind.full facts)
  | list facts elements => (kind.ofList facts elements).mapError .refused
  | apply operation left right =>
      match left.eval kind with
      | .error failure => .error failure
      | .ok first =>
          match right.eval kind with
          | .error failure => .error failure
          | .ok second => (kind.apply operation first second).mapError .broken

end SetTerm

/-- A term fails with stored sets as it does with sets of facts, and otherwise
the stored set represents the set of facts. -/
theorem SetTerm.eval_paired {Bits : Type} {package : BitPackage Bits}
    (hlawful : package.Lawful) (term : SetTerm) :
    Paired (StoredSet.Represents package) (term.eval (StoredSet.kind package))
      (term.eval FactSet.kind) := by
  induction term with
  | zero => exact .ok .zero
  | empty facts => exact .ok (StoredSet.represents_empty hlawful facts)
  | full facts => exact .ok (StoredSet.represents_full hlawful facts)
  | list facts elements =>
      exact (StoredSet.ofList_paired hlawful facts elements).mapError _
  | apply operation left right ihLeft ihRight =>
      simp only [eval]
      generalize left.eval (StoredSet.kind package) = first at ihLeft ⊢
      generalize left.eval FactSet.kind = leftSet at ihLeft ⊢
      generalize right.eval (StoredSet.kind package) = second at ihRight ⊢
      generalize right.eval FactSet.kind = rightSet at ihRight ⊢
      cases ihLeft with
      | error failure => exact .error failure
      | ok hleft =>
          cases ihRight with
          | error failure => exact .error failure
          | ok hright =>
              exact (hleft.apply_paired hlawful hright operation).mapError _

/-! ### Finite sets -/

namespace FactSet

variable {left right set : FactSet} {facts : Universe}

/-- The members of a set are facts of its universe, each of which is shown once
and in order. -/
structure Shows (set : FactSet) : Prop where
  elements_eq : set.elements =
    (set.facts.elim [] Universe.elements).filter set.contains
  mem_elements_iff : ∀ element, element ∈ set.elements ↔
    set.contains element = true
  nodup : set.elements.Nodup
  size_eq : set.size = set.elements.length
  isEmpty_iff : set.isEmpty = true ↔ set.elements = []

/-- The sets belong to two different universes. -/
def Mixed (left right : FactSet) : Prop :=
  ∃ facts others,
    left.facts = some facts ∧ right.facts = some others ∧ facts ≠ others

/-- Operations on two sets are those of finite sets, unless the sets belong to
two universes. -/
structure Combines (left right : FactSet) : Prop where
  apply_fault_iff : ∀ operation,
    (∃ fault, left.apply operation right = .error fault) ↔ Mixed left right
  facts_apply : ∀ operation set, left.apply operation right = .ok set →
    set.facts = left.facts.or right.facts
  contains_apply : ∀ operation set, left.apply operation right = .ok set →
    ∀ element,
      set.contains element =
        operation.connective (left.contains element) (right.contains element)
  same_fault_iff : (∃ fault, left.sameElements right = .error fault) ↔
    Mixed left right
  same_iff : ∀ same, left.sameElements right = .ok same →
    (same = true ↔ left.elements = right.elements)
  subset_fault_iff : (∃ fault, left.subset right = .error fault) ↔
    Mixed left right
  subset_iff : ∀ within, left.subset right = .ok within →
    (within = true ↔ ∀ element ∈ left.elements, element ∈ right.elements)

theorem elements_zero : zero.elements = [] := rfl

theorem mem_elements_iff_contains (set : FactSet) (element : Text) :
    element ∈ set.elements ↔ set.contains element = true := by
  cases hfacts : set.facts with
  | none =>
      rw [eq_zero_of_facts hfacts, elements_zero]
      exact iff_of_false List.not_mem_nil Bool.false_ne_true
  | some facts => exact mem_elements_iff hfacts element

theorem isEmpty_iff_elements (set : FactSet) :
    set.isEmpty = true ↔ set.elements = [] := by
  cases hfacts : set.facts with
  | none =>
      rw [eq_zero_of_facts hfacts]
      exact iff_of_true rfl rfl
  | some facts =>
      obtain ⟨bits, rfl⟩ := exists_ofBits hfacts
      rw [isEmpty_ofBits, decide_eq_true_iff, ← List.length_eq_zero_iff,
        (elements_ofBits facts bits).length_eq, List.length_eq_zero_iff]

/-- All ways to look at a set tell of the same members. -/
theorem shows (set : FactSet) : Shows set := by
  have helements : set.elements =
      (set.facts.elim [] Universe.elements).filter set.contains := by
    cases hfacts : set.facts with
    | none =>
        rw [eq_zero_of_facts hfacts]
        rfl
    | some facts => exact elements_eq_filter hfacts
  refine ⟨helements, set.mem_elements_iff_contains, ?_, rfl,
    set.isEmpty_iff_elements⟩
  rw [helements]
  apply List.Nodup.filter
  cases set.facts with
  | none => exact List.nodup_nil
  | some facts => exact facts.nodup

/-- Sets that do not belong to two universes have one that accepts them both. -/
theorem exists_check_of_not_mixed (hmixed : ¬ Mixed left right) :
    ∃ facts : Universe,
      facts.check left = .ok () ∧ facts.check right = .ok () := by
  simp only [Universe.check_eq_ok_iff]
  cases hleft : left.facts with
  | none =>
      cases hright : right.facts with
      | none => exact ⟨⟨0, [], List.nodup_nil⟩, .inl rfl, .inl rfl⟩
      | some facts => exact ⟨facts, .inl rfl, .inr rfl⟩
  | some facts =>
      cases hright : right.facts with
      | none => exact ⟨facts, .inr rfl, .inl rfl⟩
      | some others =>
          have heq : facts = others := by
            by_contra hne
            exact hmixed ⟨facts, others, hleft, hright, hne⟩
          exact ⟨facts, .inr rfl, .inr (by rw [heq])⟩

theorem combine_of_mixed
    (operation : ∀ {width : Nat}, BitVec width → BitVec width → BitVec width)
    (hmixed : Mixed left right) :
    ∃ fault, combine operation left right = .error fault := by
  obtain ⟨facts, others, hleft, hright, hne⟩ := hmixed
  obtain ⟨bits, rfl⟩ := exists_ofBits hleft
  obtain ⟨otherBits, rfl⟩ := exists_ofBits hright
  exact ⟨_, combine_of_ne operation hne bits otherBits⟩

theorem facts_combine
    {operation : ∀ {width : Nat}, BitVec width → BitVec width → BitVec width}
    (hset : combine operation left right = .ok set) :
    set.facts = left.facts.or right.facts := by
  rw [combine] at hset
  split at hset
  · rename_i hleft hright
    split at hset
    · cases hset
      rw [hleft]
      rfl
    · cases hset
  · rename_i hleft hright
    cases hset
    rw [hleft]
    rfl
  · rename_i hleft
    cases hset
    change right.facts = left.facts.or right.facts
    rw [hleft]
    rfl

/-- Sets that a universe accepts are combined fact by fact. -/
theorem apply_of_check (operation : SetOperation)
    (hleft : facts.check left = .ok ()) (hright : facts.check right = .ok ()) :
    ∃ set, left.apply operation right = .ok set ∧
      ∀ element, set.contains element =
        operation.connective (left.contains element)
          (right.contains element) := by
  have hzero : ∀ {width : Nat},
      operation.onBits (BitVec.ofNat width 0) (BitVec.ofNat width 0) =
        BitVec.ofNat width 0 := by
    intro width
    cases operation with
    | union => exact BitVec.or_self
    | inter => exact BitVec.and_self
    | diff => exact BitVec.zero_and
  obtain ⟨set, hset, -, hadopt⟩ :=
    combine_adopt operation.onBits hzero hleft hright
  obtain ⟨result, hresult, -, hcontains⟩ :=
    combine_spec operation.onBits operation.connective
      operation.getLsbD_onBits operation.connective_false
      (Universe.facts_adopt hleft) (Universe.facts_adopt hright)
  rw [hresult] at hadopt
  cases hadopt
  refine ⟨set, (operation.apply_eq_combine left right).trans hset,
    fun element => ?_⟩
  rw [← Universe.contains_adopt facts set, hcontains, Universe.contains_adopt,
    Universe.contains_adopt]

/-- A set lies within another if nothing is left of it without the other. -/
theorem subset_of_check (hleft : facts.check left = .ok ())
    (hright : facts.check right = .ok ()) :
    left.subset right =
      .ok (decide (∀ element ∈ left.elements, element ∈ right.elements)) := by
  obtain ⟨rest, hrest, hcontains⟩ := apply_of_check .diff hleft hright
  have hdiff : left.diff right = .ok rest := hrest
  rw [subset, hdiff, Except.map]
  congr 1
  rw [Bool.eq_iff_iff, rest.isEmpty_iff_elements, decide_eq_true_iff,
    List.eq_nil_iff_forall_not_mem]
  simp only [mem_elements_iff_contains, hcontains, SetOperation.connective,
    Bool.and_eq_true, Bool.not_eq_true', not_and, Bool.not_eq_false]

/-- Sets of one universe, and the set of no universe, combine element by
element. -/
theorem apply_of_not_mixed (hmixed : ¬ Mixed left right)
    (operation : SetOperation) :
    ∃ set, left.apply operation right = .ok set ∧
      ∀ element, set.contains element =
        operation.connective (left.contains element)
          (right.contains element) := by
  obtain ⟨facts, hleft, hright⟩ := exists_check_of_not_mixed hmixed
  exact apply_of_check operation hleft hright

theorem same_of_not_mixed (hmixed : ¬ Mixed left right) :
    left.sameElements right =
      .ok (decide (left.elements = right.elements)) := by
  obtain ⟨facts, hleft, hright⟩ := exists_check_of_not_mixed hmixed
  exact sameElements_of_check hleft hright

theorem subset_of_not_mixed (hmixed : ¬ Mixed left right) :
    left.subset right =
      .ok (decide (∀ element ∈ left.elements, element ∈ right.elements)) := by
  obtain ⟨facts, hleft, hright⟩ := exists_check_of_not_mixed hmixed
  exact subset_of_check hleft hright

theorem apply_of_mixed (hmixed : Mixed left right) (operation : SetOperation) :
    ∃ fault, left.apply operation right = .error fault := by
  rw [operation.apply_eq_combine]
  exact combine_of_mixed operation.onBits hmixed

theorem same_of_mixed (hmixed : Mixed left right) :
    ∃ fault, left.sameElements right = .error fault := by
  obtain ⟨fault, hfault⟩ := combine_of_mixed (· ^^^ ·) hmixed
  exact ⟨fault, by rw [sameElements, hfault]; rfl⟩

theorem subset_of_mixed (hmixed : Mixed left right) :
    ∃ fault, left.subset right = .error fault := by
  obtain ⟨fault, hfault⟩ := combine_of_mixed (· &&& ~~~ ·) hmixed
  exact ⟨fault, by rw [subset, diff, hfault]; rfl⟩

/-- What is a fault for mixed sets, and a value for others, is a fault just for
mixed sets. -/
theorem exists_fault_iff {α : Type} {result : Except Fault α}
    (hfault : Mixed left right → ∃ fault, result = .error fault)
    (hvalue : ¬ Mixed left right → ∃ value, result = .ok value) :
    (∃ fault, result = .error fault) ↔ Mixed left right := by
  refine ⟨fun ⟨fault, herror⟩ => ?_, hfault⟩
  by_contra hmixed
  obtain ⟨value, hok⟩ := hvalue hmixed
  rw [herror] at hok
  cases hok

theorem not_mixed_of_ok {α : Type} {result : Except Fault α} {value : α}
    (hfault : Mixed left right → ∃ fault, result = .error fault)
    (hok : result = .ok value) : ¬ Mixed left right := by
  intro hmixed
  obtain ⟨fault, herror⟩ := hfault hmixed
  rw [herror] at hok
  cases hok

/-- Two sets combine, compare and include each other as sets of elements do,
unless they are mixed. -/
theorem combines (left right : FactSet) : Combines left right where
  apply_fault_iff operation :=
    exists_fault_iff (fun hmixed => apply_of_mixed hmixed operation)
      fun hmixed =>
        (apply_of_not_mixed hmixed operation).imp fun _ hset => hset.1
  facts_apply operation set hset := by
    rw [operation.apply_eq_combine] at hset
    exact facts_combine hset
  contains_apply operation set hset := by
    have hmixed :=
      not_mixed_of_ok (fun hmixed => apply_of_mixed hmixed operation) hset
    obtain ⟨result, hresult, hcontains⟩ := apply_of_not_mixed hmixed operation
    rw [hset] at hresult
    cases hresult
    exact hcontains
  same_fault_iff :=
    exists_fault_iff same_of_mixed fun hmixed => ⟨_, same_of_not_mixed hmixed⟩
  same_iff same hsame := by
    rw [same_of_not_mixed (not_mixed_of_ok same_of_mixed hsame)] at hsame
    cases hsame
    exact decide_eq_true_iff
  subset_fault_iff :=
    exists_fault_iff subset_of_mixed fun hmixed =>
      ⟨_, subset_of_not_mixed hmixed⟩
  subset_iff within hwithin := by
    rw [subset_of_not_mixed
      (not_mixed_of_ok subset_of_mixed hwithin)] at hwithin
    cases hwithin
    exact decide_eq_true_iff

/-! ### The set of no universe -/

/-- In operations with a set of a universe, the set of no universe is as good as
the empty set of that universe. -/
structure ZeroActs (facts : Universe) (set : FactSet) : Prop where
  apply_left : ∀ operation,
    zero.apply operation set = facts.empty.apply operation set
  apply_right : ∀ operation,
    set.apply operation zero = set.apply operation facts.empty
  same_left : zero.sameElements set = facts.empty.sameElements set
  same_right : set.sameElements zero = set.sameElements facts.empty
  subset_left : zero.subset set = facts.empty.subset set
  subset_right : set.subset zero = set.subset facts.empty

/-- The set of no universe acts like the empty set of any. -/
theorem zeroActs (hfacts : set.facts = some facts) : ZeroActs facts set := by
  obtain ⟨bits, rfl⟩ := exists_ofBits hfacts
  have hleft : ∀ operation :
      (∀ {width : Nat}, BitVec width → BitVec width → BitVec width),
        combine operation zero (facts.ofBits bits) =
          combine operation facts.empty (facts.ofBits bits) := by
    intro operation
    rw [combine_zero_left]
    exact (combine_ofBits operation facts 0 bits).symm
  have hright : ∀ operation :
      (∀ {width : Nat}, BitVec width → BitVec width → BitVec width),
        combine operation (facts.ofBits bits) zero =
          combine operation (facts.ofBits bits) facts.empty := by
    intro operation
    rw [combine_zero_right]
    exact (combine_ofBits operation facts bits 0).symm
  refine ⟨fun operation => ?_, fun operation => ?_, ?_, ?_, ?_, ?_⟩
  · rw [operation.apply_eq_combine, operation.apply_eq_combine, hleft]
  · rw [operation.apply_eq_combine, operation.apply_eq_combine, hright]
  · rw [sameElements, sameElements, hleft]
  · rw [sameElements, sameElements, hright]
  · rw [subset, subset, diff, diff, hleft]
  · rw [subset, subset, diff, diff, hright]

end FactSet

/-! ### Refinement -/

namespace Universe

/-- A list is a universe exactly if no element is repeated. -/
theorem exists_ofList_iff (ident : Nat) (elements : List Text) :
    (∃ facts, ofList ident elements = .ok facts) ↔ elements.Nodup := by
  rcases ofList_cases ident elements with
    ⟨hnodup, hok⟩ | ⟨element, hrepeated, herror⟩
  · exact iff_of_true ⟨_, hok⟩ hnodup
  · exact iff_of_false (not_exists_of_eq_error herror) hrepeated.not_nodup

theorem elements_of_ofList {ident : Nat} {elements : List Text}
    {facts : Universe} (hfacts : ofList ident elements = .ok facts) :
    facts.elements = elements := by
  rcases ofList_cases ident elements with ⟨hnodup, hok⟩ | ⟨element, -, herror⟩
  · rw [hok] at hfacts
    cases hfacts
    rfl
  · rw [herror] at hfacts
    cases hfacts

/-- A set is refused exactly if one of its elements is none of the universe. -/
theorem exists_set_error_iff (facts : Universe) (elements : List Text) :
    (∃ error, facts.set elements = .error error) ↔
      ∃ element ∈ elements, element ∉ facts.elements := by
  have hok : (∃ set, facts.set elements = .ok set) ↔
      ∀ element ∈ elements, element ∈ facts.elements := exists_set_iff
  cases hset : facts.set elements with
  | error error =>
      have houtside := mt hok.mpr (not_exists_of_eq_error hset)
      push Not at houtside
      exact iff_of_true ⟨error, rfl⟩ houtside
  | ok set =>
      have hinside := hok.mp ⟨set, hset⟩
      refine iff_of_false (fun ⟨_, herror⟩ => ?_)
        fun ⟨element, hmem, houtside⟩ => houtside (hinside element hmem)
      cases herror

/-- An element is kept at its place in the list from which the universe was
made. -/
theorem index_of_ofList {ident : Nat} {elements : List Text} {facts : Universe}
    (hfacts : ofList ident elements = .ok facts) (index : Nat)
    (element : Text) :
    facts.catalog.index.get? element = some index ↔
      elements[index]? = some element := by
  rw [get?_index_catalog, index?_eq_some_iff, elements_of_ofList hfacts]

end Universe

/-- A stored set and a set of facts show the same. -/
structure StoredSet.ShowsAs {Bits : Type} (package : BitPackage Bits)
    (stored : StoredSet Bits) (set : FactSet) : Prop where
  contains_eq : ∀ element,
    stored.contains package element = set.contains element
  lists_iff : ∀ elements, stored.Lists package elements ↔
    elements = set.elements
  size_eq : stored.size package = set.size
  isEmpty_eq : stored.isEmpty package = set.isEmpty

theorem StoredSet.Represents.showsAs {Bits : Type} {package : BitPackage Bits}
    {stored : StoredSet Bits} {set : FactSet} (hlawful : package.Lawful)
    (hset : Represents package stored set) : stored.ShowsAs package set where
  contains_eq := hset.contains_eq hlawful
  lists_iff := hset.lists_iff hlawful
  size_eq := hset.size_eq hlawful
  isEmpty_eq := hset.isEmpty_eq hlawful

open StoredSet in
/-- Universes are lists without repetition, in which the place of an element is
its bit.  However a set is made from universes and other sets, kept in words it
fails or comes out as the set of facts does, shows the same, and compares the
same.  Sets of facts are finite sets of elements of their universe, the set of
no universe is as good as the empty one, and operations are at fault just for
sets of two universes. -/
theorem sets_refine_finite_sets {Bits : Type} {package : BitPackage Bits}
    (hlawful : package.Lawful) :
    (∀ (ident : Nat) (elements : List Text),
      ((∃ facts, Universe.ofList ident elements = .ok facts) ↔ elements.Nodup) ∧
      Catalog.ofList ident elements =
        (Universe.ofList ident elements).map Universe.catalog ∧
      ∀ facts, Universe.ofList ident elements = .ok facts →
        facts.elements = elements ∧
          ∀ index element, facts.catalog.index.get? element = some index ↔
            elements[index]? = some element) ∧
    (∀ term : SetTerm,
      Paired (Represents package) (term.eval (StoredSet.kind package))
        (term.eval FactSet.kind)) ∧
    (∀ stored set, Represents package stored set → stored.ShowsAs package set) ∧
    (∀ first second left right, Represents package first left →
      Represents package second right →
      first.sameElements package second = left.sameElements right ∧
        first.subset package second = left.subset right) ∧
    (∀ set : FactSet, set.Shows) ∧
    (∀ left right : FactSet, left.Combines right) ∧
    (∀ facts : Universe, (∀ element, facts.empty.contains element = false) ∧
      (∀ element,
        facts.full.contains element = decide (element ∈ facts.elements)) ∧
      ∀ elements, ((∃ error, facts.set elements = .error error) ↔
          ∃ element ∈ elements, element ∉ facts.elements) ∧
        ∀ set, facts.set elements = .ok set →
          ∀ element, set.contains element = decide (element ∈ elements)) ∧
    (∀ element, FactSet.zero.contains element = false) ∧
    ∀ (facts : Universe) (set : FactSet), set.facts = some facts →
      FactSet.ZeroActs facts set := by
  refine ⟨fun ident elements => ?_, SetTerm.eval_paired hlawful,
    fun _ _ hset => hset.showsAs hlawful, fun _ _ _ _ hfirst hsecond => ?_,
    FactSet.shows, FactSet.combines, fun facts => ?_, fun _ => rfl,
    fun _ _ => FactSet.zeroActs⟩
  · refine ⟨Universe.exists_ofList_iff ident elements,
      Catalog.ofList_eq ident elements, ?_⟩
    intro facts hfacts
    exact ⟨Universe.elements_of_ofList hfacts, Universe.index_of_ofList hfacts⟩
  · exact ⟨hfirst.sameElements_eq hlawful hsecond,
      hfirst.subset_eq hlawful hsecond⟩
  · refine ⟨FactSet.contains_empty facts, FactSet.contains_full facts,
      fun elements => ?_⟩
    exact ⟨facts.exists_set_error_iff elements,
      fun _ => Universe.contains_of_set⟩

/-- Seventy facts, which take more than one word. -/
def wideFacts (ident : Nat) : Universe where
  ident := ident
  elements := (List.range 70).map fun number => [number.toUInt8]
  nodup := by decide +kernel

/-- Facts of both words in another order and one of them twice, joined with
nothing, less a fact. -/
def wideTerm : SetTerm :=
  .apply .diff
    (.apply .union (.list (wideFacts 0) [[64], [3], [69], [64]]) .zero)
    (.list (wideFacts 0) [[69], [5]])

theorem sets_refine_wide :
    WordVector.package.Lawful ∧
      (∃ stored,
        wideTerm.eval (StoredSet.kind WordVector.package) = .ok stored ∧
          stored.Lists WordVector.package [[3], [64]] ∧
          stored.size WordVector.package = 2 ∧
          stored.contains WordVector.package [69] = false) ∧
      ∃ failure, (SetTerm.apply .inter wideTerm (.full (wideFacts 1))).eval
        (StoredSet.kind WordVector.package) = .error failure := by
  obtain ⟨-, heval, hshows, -, -, hcombines, -⟩ :=
    sets_refine_finite_sets WordVector.package_lawful
  obtain ⟨set, hset, hfacts, helements, hsize, hcontains⟩ : ∃ set,
      wideTerm.eval FactSet.kind = .ok set ∧ set.facts = some (wideFacts 0) ∧
        set.elements = [[3], [64]] ∧ set.size = 2 ∧ set.contains [69] = false :=
    exists_ok_of_any _ _ (by decide +kernel)
  have hpaired := heval wideTerm
  rw [hset] at hpaired
  obtain ⟨stored, hstored, hrepresents⟩ := hpaired.exists_ok
  have hshown := hshows stored set hrepresents
  refine ⟨WordVector.package_lawful, ⟨stored, hstored, ?_, ?_, ?_⟩, ?_⟩
  · exact (hshown.lists_iff _).mpr helements.symm
  · rw [hshown.size_eq, hsize]
  · rw [hshown.contains_eq, hcontains]
  · obtain ⟨fault, hfault⟩ :=
      ((hcombines set (wideFacts 1).full).apply_fault_iff .inter).mpr
        ⟨wideFacts 0, wideFacts 1, hfacts, rfl, by decide⟩
    have hfailure :
        (SetTerm.apply .inter wideTerm (.full (wideFacts 1))).eval
            FactSet.kind =
          .error (.broken fault) := by
      rw [SetTerm.eval, hset]
      change (set.apply .inter (wideFacts 1).full).mapError
        SetTerm.Failure.broken = _
      rw [hfault]
      rfl
    have hmixed := heval (.apply .inter wideTerm (.full (wideFacts 1)))
    rw [hfailure] at hmixed
    exact ⟨_, hmixed.eq_error⟩

end GenKill
