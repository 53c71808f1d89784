import GenKill.Error

/-!
# Universes

A universe is a finite list of facts without repetition.  The position of a fact
is the bit that stands for it in the sets of the universe.
-/

namespace GenKill

/-- The first element that has occurred before. -/
def firstRepeat? : List Text → List Text → Option Text
  | _, [] => none
  | seen, head :: tail =>
      if head ∈ seen then some head else firstRepeat? (head :: seen) tail

theorem nodup_of_firstRepeat? {seen elements : List Text}
    (hnone : firstRepeat? seen elements = none) :
    elements.Nodup ∧ ∀ element ∈ elements, element ∉ seen := by
  induction elements generalizing seen with
  | nil => simp
  | cons head tail ih =>
      simp only [firstRepeat?] at hnone
      split at hnone
      · simp at hnone
      · rename_i hhead
        obtain ⟨hnodup, hfresh⟩ := ih hnone
        refine ⟨List.nodup_cons.mpr
          ⟨fun hmem => hfresh head hmem (by simp), hnodup⟩, ?_⟩
        intro element hmem
        rcases List.mem_cons.mp hmem with rfl | hmem
        · exact hhead
        · exact fun hseen => hfresh element hmem (List.mem_cons_of_mem _ hseen)

/-- A universe; `ident` tells universes with equal elements apart. -/
structure Universe where
  ident : Nat
  elements : List Text
  nodup : elements.Nodup
  deriving DecidableEq

namespace Universe

/-- Refuses a list with repetitions. -/
def ofList (ident : Nat) (elements : List Text) : Except Error Universe :=
  match hrepeat : firstRepeat? [] elements with
  | some element => .error (.duplicateElement element)
  | none => .ok ⟨ident, elements, (nodup_of_firstRepeat? hrepeat).1⟩

def size (facts : Universe) : Nat := facts.elements.length

/-- The bit of an element. -/
def index? (facts : Universe) (element : Text) : Option Nat :=
  facts.elements.findIdx? (· = element)

def contains (facts : Universe) (element : Text) : Bool :=
  element ∈ facts.elements

end Universe

/-- Elements in set brackets. -/
def showElements (elements : List Text) : Text :=
  "\x7b" ++ Text.join ", " elements ++ "\x7d"

def Universe.text (facts : Universe) : Text := showElements facts.elements

end GenKill
