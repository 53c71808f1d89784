import GenKill.Universe

/-!
# Sets of facts

A set belongs to a universe, or to none: the set of no universe is empty and
combines with sets of every universe.  A set has one bit for each fact, so one
set of a universe has one representation.  Sets of two different universes do
not combine.
-/

namespace GenKill

/-- The number of bits that sets of a universe have; none without a universe. -/
def width : Option Universe → Nat
  | some facts => facts.size
  | none => 0

structure FactSet where
  facts : Option Universe
  bits : BitVec (width facts)
  deriving DecidableEq

namespace Universe

def empty (facts : Universe) : FactSet := ⟨some facts, BitVec.zero facts.size⟩

def full (facts : Universe) : FactSet := ⟨some facts, BitVec.allOnes facts.size⟩

/-- The bits of a list of elements, or the first element outside of the
universe. -/
def bitsOf (facts : Universe) : List Text → Except Error (BitVec facts.size)
  | [] => .ok (BitVec.zero facts.size)
  | element :: rest =>
      match facts.index? element with
      | none => .error (.elementOutside element)
      | some index =>
          match facts.bitsOf rest with
          | .error error => .error error
          | .ok bits => .ok (BitVec.twoPow facts.size index ||| bits)

/-- The set of the given elements, all of which have to be in the universe. -/
def set (facts : Universe) (elements : List Text) : Except Error FactSet :=
  match facts.bitsOf elements with
  | .ok bits => .ok ⟨some facts, bits⟩
  | .error error => .error error

end Universe

namespace FactSet

/-- The empty set that belongs to no universe. -/
def zero : FactSet := ⟨none, BitVec.zero 0⟩

def contains (set : FactSet) (element : Text) : Bool :=
  match set.facts with
  | none => false
  | some facts =>
      match facts.index? element with
      | none => false
      | some index => set.bits.getLsbD index

/-- The members in the order of the universe. -/
def elements (set : FactSet) : List Text :=
  match set.facts with
  | none => []
  | some facts =>
      facts.elements.zipIdx.filterMap fun (element, index) =>
        if set.bits.getLsbD index then some element else none

def size (set : FactSet) : Nat := set.elements.length

def isEmpty (set : FactSet) : Bool := set.bits = BitVec.zero (width set.facts)

def text (set : FactSet) : Text := showElements set.elements

/-- Combines the bits of two sets of one universe. -/
def combine
    (operation : ∀ {width : Nat}, BitVec width → BitVec width → BitVec width)
    (left right : FactSet) : Except Fault FactSet :=
  match left.facts, right.facts with
  | some facts, some facts' =>
      if facts = facts' then
        .ok ⟨left.facts,
          operation left.bits (right.bits.setWidth (width left.facts))⟩
      else .error (.universeMismatch facts.text facts'.text)
  | some _, none =>
      .ok ⟨left.facts,
        operation left.bits (right.bits.setWidth (width left.facts))⟩
  | none, _ =>
      .ok ⟨right.facts,
        operation (left.bits.setWidth (width right.facts)) right.bits⟩

def union (left right : FactSet) : Except Fault FactSet :=
  combine (· ||| ·) left right

def inter (left right : FactSet) : Except Fault FactSet :=
  combine (· &&& ·) left right

/-- The members of the first set that are not in the second. -/
def diff (left right : FactSet) : Except Fault FactSet :=
  combine (· &&& ~~~ ·) left right

/-- Whether two sets have the same elements. -/
def sameElements (left right : FactSet) : Except Fault Bool :=
  (combine (· ^^^ ·) left right).map isEmpty

def subset (left right : FactSet) : Except Fault Bool :=
  (left.diff right).map isEmpty

end FactSet

end GenKill
