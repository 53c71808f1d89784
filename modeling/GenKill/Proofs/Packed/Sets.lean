import GenKill.Proofs.Failure
import GenKill.Proofs.Packed.Words
import GenKill.Proofs.Table
import GenKill.Proofs.Validity

/-!
# Sets of facts in packed words

A universe can keep its facts with a table of their bits, and a set can keep its
bits in the words of a package.  Then the members of a set are found by scanning
for the next bit, and counted word by word, and two sets are compared by
counting the bits in which they differ.  What such a set shows is what the set
of facts shows that it represents.
-/

namespace GenKill

/-! ### Catalogs -/

/-- The facts of a universe in the order of their bits, and the bit of each
fact. -/
structure Catalog where
  ident : Nat
  elements : List Text := []
  index : Table Text Nat := .empty
  deriving DecidableEq

namespace Catalog

/-- Gives the next bits to the elements of a list, the first of which that has
one is refused. -/
def addAll (catalog : Catalog) : List Text → Except Error Catalog
  | [] => .ok catalog
  | element :: rest =>
      if (catalog.index.get? element).isSome then
        .error (.duplicateElement element)
      else addAll { catalog with
        elements := catalog.elements ++ [element]
        index := catalog.index.insert element catalog.elements.length } rest

def ofList (ident : Nat) (elements : List Text) : Except Error Catalog :=
  addAll { ident } elements

def text (catalog : Catalog) : Text := showElements catalog.elements

theorem isSome_index_insert {index : Table Text Nat} {seen : List Text}
    (hseen : ∀ element, (index.get? element).isSome = true ↔ element ∈ seen)
    (added : Text) (place : Nat) (element : Text) :
    ((index.insert added place).get? element).isSome = true ↔
      element ∈ added :: seen := by
  rw [Table.get?_insert, List.mem_cons, ← hseen element]
  by_cases heq : added = element
  · simp [heq]
  · simp [heq, Ne.symm heq]

theorem addAll_of_none {catalog : Catalog} {seen elements : List Text}
    (hseen : ∀ element, (catalog.index.get? element).isSome = true ↔
      element ∈ seen)
    (hnone : firstRepeat? seen elements = none) :
    catalog.addAll elements = .ok { catalog with
      elements := catalog.elements ++ elements
      index := catalog.index.insertAll
        (elements.zipIdx catalog.elements.length) } := by
  induction elements generalizing catalog seen with
  | nil =>
      rw [addAll, List.append_nil]
      rfl
  | cons element rest ih =>
      rw [firstRepeat?] at hnone
      split at hnone
      · cases hnone
      · rename_i hfresh
        rw [addAll, if_neg (mt (hseen element).mp hfresh),
          ih (isSome_index_insert hseen element _) hnone]
        simp only [List.append_assoc, List.singleton_append, List.length_append,
          List.length_singleton, List.zipIdx_cons]
        rfl

theorem addAll_of_some {catalog : Catalog} {seen elements : List Text}
    {repeated : Text}
    (hseen : ∀ element, (catalog.index.get? element).isSome = true ↔
      element ∈ seen)
    (hsome : firstRepeat? seen elements = some repeated) :
    catalog.addAll elements = .error (.duplicateElement repeated) := by
  induction elements generalizing catalog seen with
  | nil => cases hsome
  | cons element rest ih =>
      rw [firstRepeat?] at hsome
      split at hsome
      · rename_i hagain
        cases hsome
        rw [addAll, if_pos ((hseen repeated).mpr hagain)]
      · rename_i hfresh
        rw [addAll, if_neg (mt (hseen element).mp hfresh),
          ih (isSome_index_insert hseen element _) hsome]

end Catalog

namespace Universe

def catalog (facts : Universe) : Catalog where
  ident := facts.ident
  elements := facts.elements
  index := Table.ofList facts.elements.zipIdx

theorem catalog_inj {facts other : Universe} :
    facts.catalog = other.catalog ↔ facts = other := by
  constructor
  · intro heq
    have hident : facts.ident = other.ident := congrArg Catalog.ident heq
    have helements : facts.elements = other.elements :=
      congrArg Catalog.elements heq
    cases facts
    cases other
    cases hident
    cases helements
    rfl
  · exact congrArg catalog

theorem index?_eq_some_iff {facts : Universe} {element : Text} {index : Nat} :
    facts.index? element = some index ↔
      facts.elements[index]? = some element := by
  constructor
  · exact getElem?_of_index?
  · intro helement
    obtain ⟨hlt, rfl⟩ := List.getElem?_eq_some_iff.mp helement
    exact facts.index?_getElem hlt

/-- The index of a catalog gives each element its place in the universe. -/
theorem get?_index_catalog (facts : Universe) (element : Text) :
    facts.catalog.index.get? element = facts.index? element := by
  have hkeys : (facts.elements.zipIdx.map Prod.fst).Nodup := by
    rw [List.zipIdx_map_fst]
    exact facts.nodup
  apply Option.ext
  intro index
  rw [catalog, Table.get?_ofList_eq_some_iff hkeys,
    List.mem_zipIdx_iff_getElem?, index?_eq_some_iff]

end Universe

/-- A catalog is refused or made as the universe of its list is. -/
theorem Catalog.ofList_eq (ident : Nat) (elements : List Text) :
    Catalog.ofList ident elements =
      (Universe.ofList ident elements).map Universe.catalog := by
  have hseen : ∀ element : Text,
      (({ ident } : Catalog).index.get? element).isSome = true ↔
        element ∈ ([] : List Text) := fun element => by simp
  rw [ofList, Universe.ofList]
  split
  · rename_i repeated hsome
    rw [addAll_of_some hseen hsome]
    rfl
  · rename_i hnone
    rw [addAll_of_none hseen hnone]
    rfl

/-! ### Stored sets -/

/-- A set as it is stored: bits and what they stand for, or neither. -/
inductive StoredSet (Bits : Type) where
  | zero
  | held (catalog : Catalog) (bits : Bits)

inductive SetOperation where
  | union
  | inter
  | diff

/-- What an operation does with each fact. -/
def SetOperation.connective : SetOperation → Bool → Bool → Bool
  | union, left, right => left || right
  | inter, left, right => left && right
  | diff, left, right => left && !right

def SetOperation.onBits {width : Nat} :
    SetOperation → BitVec width → BitVec width → BitVec width
  | union, left, right => left ||| right
  | inter, left, right => left &&& right
  | diff, left, right => left &&& ~~~right

def BitPackage.apply {Bits : Type} (package : BitPackage Bits) :
    SetOperation → Bits → Bits → Bits
  | .union => package.union
  | .inter => package.inter
  | .diff => package.diff

def FactSet.apply : SetOperation → FactSet → FactSet → Except Fault FactSet
  | .union => union
  | .inter => inter
  | .diff => diff

namespace StoredSet

variable {Bits : Type} (package : BitPackage Bits)

def empty (catalog : Catalog) : StoredSet Bits :=
  held catalog (package.new catalog.elements.length)

def full (catalog : Catalog) : StoredSet Bits :=
  held catalog ((List.range catalog.elements.length).foldl package.set
    (package.new catalog.elements.length))

/-- Sets the bits of the elements of a list, or says which is the first that has
none. -/
def addAll (catalog : Catalog) (bits : Bits) :
    List Text → Except Error (StoredSet Bits)
  | [] => .ok (held catalog bits)
  | element :: rest =>
      match catalog.index.get? element with
      | none => .error (.elementOutside element)
      | some index => addAll catalog (package.set bits index) rest

def ofList (catalog : Catalog) (elements : List Text) :
    Except Error (StoredSet Bits) :=
  addAll package catalog (package.new catalog.elements.length) elements

def size : StoredSet Bits → Nat
  | zero => 0
  | held _ bits => package.count bits

def isEmpty (set : StoredSet Bits) : Bool := set.size package = 0

def contains : StoredSet Bits → Text → Bool
  | zero, _ => false
  | held catalog bits, element =>
      match catalog.index.get? element with
      | none => false
      | some index => package.test bits index

/-- The scan of the bits ends, and each bit stands for an element of the
list. -/
def Lists : StoredSet Bits → List Text → Prop
  | zero, elements => elements = []
  | held catalog bits, elements => ∃ indices, package.Scans bits 0 indices ∧
      List.Forall₂
        (fun index element => catalog.elements[index]? = some element)
        indices elements

/-- The bits of two sets, and what they stand for; a set without bits has those
of an empty set. -/
def operands :
    StoredSet Bits → StoredSet Bits →
      Except Fault (Option (Catalog × Bits × Bits))
  | zero, zero => .ok none
  | held catalog bits, zero =>
      .ok (some (catalog, bits, package.new catalog.elements.length))
  | zero, held catalog bits =>
      .ok (some (catalog, package.new catalog.elements.length, bits))
  | held catalog left, held catalog' right =>
      if catalog = catalog' then .ok (some (catalog, left, right))
      else .error (.universeMismatch catalog.text catalog'.text)

def apply (operation : SetOperation) (left right : StoredSet Bits) :
    Except Fault (StoredSet Bits) :=
  (operands package left right).map fun found =>
    match found with
    | none => zero
    | some (catalog, first, second) =>
        held catalog (package.apply operation first second)

def sameElements (left right : StoredSet Bits) : Except Fault Bool :=
  (operands package left right).map fun found =>
    match found with
    | none => true
    | some (_, first, second) => package.differing first second = 0

def subset (left right : StoredSet Bits) : Except Fault Bool :=
  (apply package .diff left right).map (isEmpty package)

end StoredSet

/-! ### What stored sets represent -/

namespace FactSet

/-- The members stand at the places of the bits that are set. -/
theorem elements_ofBits (facts : Universe) (bits : BitVec facts.size) :
    List.Forall₂ (fun index element => facts.elements[index]? = some element)
      (positions bits) (facts.ofBits bits).elements := by
  let chosen := facts.elements.zipIdx.filter fun pair => bits.getLsbD pair.2
  have hplaces : positions bits = chosen.map Prod.snd := by
    have hrange : List.range facts.size =
        facts.elements.zipIdx.map Prod.snd := by
      rw [List.zipIdx_map_snd, List.range_eq_range', Universe.size]
    rw [positions, hrange, List.filter_map]
    rfl
  have helements : (facts.ofBits bits).elements = chosen.map Prod.fst := by
    calc (facts.ofBits bits).elements
        = facts.elements.zipIdx.filterMap
            fun pair => if bits.getLsbD pair.2 then some pair.1 else none := rfl
      _ = chosen.map Prod.fst := by
          rw [← List.filterMap_eq_map, List.filterMap_filter]
          rfl
  rw [hplaces, helements, List.forall₂_map_left_iff, List.forall₂_map_right_iff,
    List.forall₂_same]
  intro pair hpair
  exact List.mem_zipIdx_iff_getElem?.mp (List.mem_of_mem_filter hpair)

theorem combine_of_ne
    (operation : ∀ {width : Nat}, BitVec width → BitVec width → BitVec width)
    {facts other : Universe} (hne : facts ≠ other) (left : BitVec facts.size)
    (right : BitVec other.size) :
    combine operation (facts.ofBits left) (other.ofBits right) =
      .error (.universeMismatch facts.text other.text) := by
  simp only [combine, Universe.ofBits, if_neg hne]

theorem isEmpty_ofBits (facts : Universe) (bits : BitVec facts.size) :
    (facts.ofBits bits).isEmpty = decide (positions bits = []) :=
  decide_eq_decide.mpr positions_eq_nil_iff.symm

end FactSet

namespace StoredSet

variable {Bits : Type}

/-- A stored set and the set of facts with the same bits. -/
inductive Represents (package : BitPackage Bits) :
    StoredSet Bits → FactSet → Prop where
  | zero : Represents package .zero FactSet.zero
  | held {facts : Universe} {vector : Bits} {bits : BitVec facts.size}
      (hkeeps : package.Keeps vector bits) :
      Represents package (.held facts.catalog vector) (facts.ofBits bits)

variable {package : BitPackage Bits}

/-! ### Making sets -/

theorem represents_empty (hlawful : package.Lawful) (facts : Universe) :
    Represents package (empty package facts.catalog) facts.empty :=
  .held (.new hlawful facts.size)

/-- Setting bits one after the other sets those and no others. -/
theorem keeps_foldl_set (hlawful : package.Lawful) {length : Nat}
    {vector : Bits} {bits : BitVec length} (hkeeps : package.Keeps vector bits)
    {indices : List Nat} (hindices : ∀ index ∈ indices, index < length) :
    ∃ result : BitVec length,
      package.Keeps (indices.foldl package.set vector) result ∧
        ∀ index,
          result.getLsbD index =
            (decide (index ∈ indices) || bits.getLsbD index) := by
  induction indices generalizing vector bits with
  | nil => exact ⟨bits, hkeeps, fun index => by simp⟩
  | cons first rest ih =>
      obtain ⟨hfirst, hrest⟩ := List.forall_mem_cons.mp hindices
      obtain ⟨result, hresult, hbits⟩ := ih (hkeeps.set hlawful hfirst) hrest
      refine ⟨result, hresult, fun index => ?_⟩
      rw [hbits, BitVec.getLsbD_or, BitVec.getLsbD_twoPow,
        decide_eq_true hfirst, Bool.true_and, ← Bool.or_assoc, ← Bool.decide_or]
      congr 1
      rw [decide_eq_decide, List.mem_cons, or_comm, eq_comm]

theorem represents_full (hlawful : package.Lawful) (facts : Universe) :
    Represents package (full package facts.catalog) facts.full := by
  obtain ⟨bits, hkeeps, hbits⟩ :=
    keeps_foldl_set hlawful (.new hlawful facts.size)
      (fun index hindex => List.mem_range.mp hindex)
  have hall : bits = BitVec.allOnes facts.size := by
    apply BitVec.eq_of_getLsbD_eq
    intro index hindex
    rw [hbits, decide_eq_true (List.mem_range.mpr hindex), Bool.true_or,
      BitVec.getLsbD_allOnes, decide_eq_true hindex]
  rw [hall] at hkeeps
  exact .held hkeeps

/-- Setting the bits of elements one after the other makes the set of these
elements, or fails where that does. -/
theorem addAll_paired (hlawful : package.Lawful) {facts : Universe}
    {vector : Bits} {bits : BitVec facts.size}
    (hkeeps : package.Keeps vector bits) (elements : List Text) :
    Paired (Represents package) (addAll package facts.catalog vector elements)
      ((facts.bitsOf elements).map fun more =>
        facts.ofBits (more ||| bits)) := by
  induction elements generalizing vector bits with
  | nil =>
      rw [addAll, Universe.bitsOf, Except.map, BitVec.zero_eq, BitVec.zero_or]
      exact .ok (.held hkeeps)
  | cons element rest ih =>
      simp only [addAll, Universe.bitsOf, Universe.get?_index_catalog]
      cases hindex : facts.index? element with
      | none => exact .error _
      | some index =>
          have hrest := ih (hkeeps.set hlawful (Universe.index?_lt hindex))
          cases hmore : facts.bitsOf rest with
          | error error =>
              rw [hmore] at hrest
              exact hrest
          | ok more =>
              rw [hmore] at hrest
              have hbits : BitVec.twoPow facts.size index ||| more ||| bits =
                  more ||| (BitVec.twoPow facts.size index ||| bits) := by
                rw [BitVec.or_comm _ more, BitVec.or_assoc]
              simp only [Except.map, hbits]
              exact hrest

theorem ofList_paired (hlawful : package.Lawful) (facts : Universe)
    (elements : List Text) :
    Paired (Represents package) (ofList package facts.catalog elements)
      (facts.set elements) := by
  have hall := addAll_paired hlawful (.new hlawful facts.size) elements
  have hset : facts.set elements =
      (facts.bitsOf elements).map fun more =>
        facts.ofBits (more ||| .ofNat facts.size 0) := by
    rw [Universe.set]
    cases facts.bitsOf elements with
    | error error => rfl
    | ok bits => simp only [Except.map, BitVec.or_zero, Universe.ofBits]
  rw [hset]
  exact hall

/-! ### What sets show -/

namespace Represents

variable {stored : StoredSet Bits} {set : FactSet}

theorem contains_eq (hlawful : package.Lawful)
    (hset : Represents package stored set) (element : Text) :
    stored.contains package element = set.contains element := by
  cases hset with
  | zero => rfl
  | held hkeeps =>
      rename_i facts vector bits
      rw [StoredSet.contains, Universe.get?_index_catalog]
      cases hindex : facts.index? element with
      | none => exact (FactSet.contains_of_index?_none rfl hindex).symm
      | some index =>
          rw [FactSet.contains_ofBits bits hindex]
          exact hkeeps.test_eq hlawful (Universe.index?_lt hindex)

theorem size_eq (hlawful : package.Lawful)
    (hset : Represents package stored set) :
    stored.size package = set.size := by
  cases hset with
  | zero => rfl
  | held hkeeps =>
      rw [StoredSet.size, hkeeps.count_eq hlawful, FactSet.size]
      exact (FactSet.elements_ofBits _ _).length_eq

theorem isEmpty_eq (hlawful : package.Lawful)
    (hset : Represents package stored set) :
    stored.isEmpty package = set.isEmpty := by
  cases hset with
  | zero => rfl
  | held hkeeps =>
      rw [StoredSet.isEmpty, StoredSet.size, hkeeps.count_eq hlawful,
        FactSet.isEmpty_ofBits, decide_eq_decide, List.length_eq_zero_iff]

/-- The scan ends, and lists the members in the order of the universe. -/
theorem lists_iff (hlawful : package.Lawful)
    (hset : Represents package stored set) (elements : List Text) :
    stored.Lists package elements ↔ elements = set.elements := by
  cases hset with
  | zero => rfl
  | held hkeeps =>
      rename_i facts vector bits
      have hall := FactSet.elements_ofBits facts bits
      constructor
      · rintro ⟨indices, hscans, hlisted⟩
        rw [hkeeps.scans_iff hlawful] at hscans
        subst hscans
        refine List.right_unique_forall₂'
          (fun index first second hfirst hsecond => ?_) hlisted hall
        exact Option.some.inj (hfirst.symm.trans hsecond)
      · rintro rfl
        exact ⟨positions bits, (hkeeps.scans_iff hlawful).mpr rfl, hall⟩

end Represents

end StoredSet

/-! ### Two sets -/

namespace SetOperation

theorem getLsbD_onBits (operation : SetOperation) {width : Nat}
    (left right : BitVec width) (index : Nat) (hindex : index < width) :
    (operation.onBits left right).getLsbD index =
      operation.connective (left.getLsbD index) (right.getLsbD index) := by
  cases operation with
  | union => exact BitVec.getLsbD_or
  | inter => exact BitVec.getLsbD_and
  | diff =>
      rw [onBits, BitVec.getLsbD_and, BitVec.getLsbD_not, decide_eq_true hindex,
        Bool.true_and]
      rfl

theorem connective_false (operation : SetOperation) :
    operation.connective false false = false := by
  cases operation <;> rfl

theorem apply_eq_combine (operation : SetOperation) (left right : FactSet) :
    FactSet.apply operation left right =
      FactSet.combine operation.onBits left right := by
  cases operation <;> rfl

end SetOperation

namespace StoredSet.Represents

variable {Bits : Type} {package : BitPackage Bits}
  {first second : StoredSet Bits} {left right : FactSet}

/-- Operations on vectors are operations on the bits that they keep. -/
theorem keeps_apply (hlawful : package.Lawful) {length : Nat}
    {vector other : Bits} {bits otherBits : BitVec length}
    (hkeeps : package.Keeps vector bits)
    (hother : package.Keeps other otherBits) (operation : SetOperation) :
    package.Keeps (package.apply operation vector other)
      (operation.onBits bits otherBits) := by
  have hwordWise :
      package.WordWise (package.apply operation) operation.onBits := by
    cases operation with
    | union => exact hlawful.union
    | inter => exact hlawful.inter
    | diff => exact hlawful.diff
  exact .wordWise operation.onBits operation.connective operation.getLsbD_onBits
    operation.connective_false hwordWise hkeeps hother

/-- Two stored sets have operands, or fail, as the sets do that they represent;
and no universe is found for them only if both have none. -/
theorem operands_cases (hlawful : package.Lawful)
    (hfirst : Represents package first left)
    (hsecond : Represents package second right) :
    (∃ fault, operands package first second = .error fault ∧
      ∀ operation :
        (∀ {width : Nat}, BitVec width → BitVec width → BitVec width),
          FactSet.combine operation left right = .error fault) ∨
    (operands package first second = .ok none ∧
      ∀ operation :
        (∀ {width : Nat}, BitVec width → BitVec width → BitVec width),
          FactSet.combine operation left right = .ok .zero) ∨
    ∃ (facts : Universe) (vector other : Bits)
      (bits otherBits : BitVec facts.size),
      operands package first second =
        .ok (some (facts.catalog, vector, other)) ∧
      package.Keeps vector bits ∧ package.Keeps other otherBits ∧
      ∀ operation :
        (∀ {width : Nat}, BitVec width → BitVec width → BitVec width),
          FactSet.combine operation left right =
            .ok (facts.ofBits (operation bits otherBits)) := by
  cases hfirst with
  | zero =>
      cases hsecond with
      | zero =>
          exact .inr
            (.inl ⟨rfl, fun operation => FactSet.combine_zero_zero operation⟩)
      | held hkeeps =>
          rename_i facts vector bits
          exact .inr (.inr ⟨facts, _, vector, .ofNat facts.size 0, bits, rfl,
            .new hlawful _, hkeeps,
            fun operation => FactSet.combine_zero_left operation facts bits⟩)
  | held hkeeps =>
      rename_i facts vector bits
      cases hsecond with
      | zero =>
          exact .inr (.inr ⟨facts, vector, _, bits, .ofNat facts.size 0, rfl,
            hkeeps, .new hlawful _,
            fun operation => FactSet.combine_zero_right operation facts bits⟩)
      | held hother =>
          rename_i others other otherBits
          by_cases heq : facts = others
          · subst heq
            exact .inr (.inr ⟨facts, vector, other, bits, otherBits, if_pos rfl,
              hkeeps, hother, fun operation =>
                FactSet.combine_ofBits operation facts bits otherBits⟩)
          · exact .inl ⟨_, if_neg (mt Universe.catalog_inj.mp heq),
              fun operation =>
                FactSet.combine_of_ne operation heq bits otherBits⟩

/-- Operations on stored sets represent those on sets, faults included. -/
theorem apply_paired (hlawful : package.Lawful)
    (hfirst : Represents package first left)
    (hsecond : Represents package second right) (operation : SetOperation) :
    Paired (Represents package) (first.apply package operation second)
      (left.apply operation right) := by
  rw [StoredSet.apply, operation.apply_eq_combine]
  rcases hfirst.operands_cases hlawful hsecond with
    ⟨fault, hoperands, hcombine⟩ | ⟨hoperands, hcombine⟩ |
    ⟨facts, _, _, _, _, hoperands, hkeeps, hother, hcombine⟩
  · rw [hoperands, hcombine]
    exact .error fault
  · rw [hoperands, hcombine]
    exact .ok .zero
  · rw [hoperands, hcombine]
    exact .ok (.held (keeps_apply hlawful hkeeps hother operation))

/-- Comparing stored sets compares what they represent. -/
theorem sameElements_eq (hlawful : package.Lawful)
    (hfirst : Represents package first left)
    (hsecond : Represents package second right) :
    first.sameElements package second = left.sameElements right := by
  rw [StoredSet.sameElements, FactSet.sameElements]
  rcases hfirst.operands_cases hlawful hsecond with
    ⟨fault, hoperands, hcombine⟩ | ⟨hoperands, hcombine⟩ |
    ⟨facts, _, _, _, _, hoperands, hkeeps, hother, hcombine⟩
  · rw [hoperands, hcombine]
    rfl
  · rw [hoperands, hcombine]
    rfl
  · rw [hoperands, hcombine, Except.map, Except.map, FactSet.isEmpty_ofBits]
    simp only [hkeeps.differing_eq hlawful hother, List.length_eq_zero_iff]

theorem subset_eq (hlawful : package.Lawful)
    (hfirst : Represents package first left)
    (hsecond : Represents package second right) :
    first.subset package second = left.subset right := by
  have hdiff : Paired (Represents package) (first.apply package .diff second)
      (left.diff right) := hfirst.apply_paired hlawful hsecond .diff
  rw [StoredSet.subset, FactSet.subset]
  generalize first.apply package .diff second = stored at hdiff ⊢
  generalize left.diff right = set at hdiff ⊢
  cases hdiff with
  | error fault => rfl
  | ok hset => exact congrArg Except.ok (hset.isEmpty_eq hlawful)

end StoredSet.Represents

end GenKill
