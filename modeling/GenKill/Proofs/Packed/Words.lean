import Mathlib.Algebra.Order.Ring.Nat
import Mathlib.Data.List.Basic

/-!
# Bits in words

A vector of bits of any length is kept in machine words, and the operations on
it work word by word.  The package that does this may come from elsewhere; what
it is relied on for is said about its words.  Everything that is said here about
single bits follows, at the bounds of words as well as inside of them.
-/

namespace GenKill

abbrev Word := BitVec 64

namespace Word

def popCount (word : Word) : Nat := (List.range 64).countP word.getLsbD

end Word

/-! ### Lists of words -/

namespace Words

/-- A bit of a list of words; there are no bits beyond the list. -/
def bitAt (words : List Word) (index : Nat) : Bool :=
  (words.getD (index / 64) 0#64).getLsbD (index % 64)

/-- The number of words that it takes to keep a number of bits. -/
def needed (length : Nat) : Nat := (length + 63) / 64

/-- The words keep the bits in order, and nothing but zeros after them. -/
structure Keeps {length : Nat} (words : List Word) (bits : BitVec length) :
    Prop where
  length_eq : words.length = needed length
  bitAt_eq : ∀ index, bitAt words index = bits.getLsbD index

theorem bitAt_nil (index : Nat) : bitAt [] index = false := BitVec.getLsbD_zero

theorem bitAt_cons_of_lt {index : Nat} (hindex : index < 64) (word : Word)
    (words : List Word) : bitAt (word :: words) index = word.getLsbD index := by
  rw [bitAt, Nat.div_eq_of_lt hindex, Nat.mod_eq_of_lt hindex,
    List.getD_cons_zero]

theorem bitAt_cons_add (word : Word) (words : List Word) (index : Nat) :
    bitAt (word :: words) (64 + index) = bitAt words index := by
  have hword : (64 + index) / 64 = index / 64 + 1 := by omega
  rw [bitAt, hword, Nat.add_mod_left, List.getD_cons_succ, bitAt]

theorem bitAt_of_le {words : List Word} {index : Nat}
    (hindex : 64 * words.length ≤ index) : bitAt words index = false := by
  have hword : words.length ≤ index / 64 := by omega
  rw [bitAt, List.getD_eq_getElem?_getD, List.getElem?_eq_none hword,
    Option.getD_none, BitVec.getLsbD_zero]

theorem bitAt_replicate (count index : Nat) :
    bitAt (List.replicate count 0#64) index = false := by
  induction count generalizing index with
  | zero => exact bitAt_nil index
  | succ count ih =>
      rw [List.replicate_succ]
      by_cases hindex : index < 64
      · rw [bitAt_cons_of_lt hindex, BitVec.getLsbD_zero]
      · obtain ⟨later, rfl⟩ := Nat.exists_eq_add_of_le (Nat.not_lt.mp hindex)
        rw [bitAt_cons_add, ih]

/-- Two indices mean one bit only if they agree on its word and on its place
there. -/
theorem bitAt_modify (words : List Word) {index : Nat}
    (hindex : index < 64 * words.length) (other : Nat) :
    bitAt (words.modify (index / 64) (BitVec.twoPow 64 (index % 64) ||| ·))
        other =
      (decide (index = other) || bitAt words other) := by
  have hplace : index % 64 < 64 := Nat.mod_lt index (by decide)
  simp only [bitAt, List.getD_eq_getElem?_getD, List.getElem?_modify]
  by_cases hword : index / 64 = other / 64
  · have hlt : other / 64 < words.length := by omega
    have hsame : index % 64 = other % 64 ↔ index = other := by omega
    simp [hword, List.getElem?_eq_getElem hlt, BitVec.getLsbD_twoPow, hplace,
      hsame]
  · have hne : index ≠ other := fun heq => hword (by rw [heq])
    cases words[other / 64]? <;> simp [hword, hne]

/-- Words that are combined one by one combine the bits in them. -/
theorem bitAt_zipWith {operation : Word → Word → Word}
    {connective : Bool → Bool → Bool}
    (hbits : ∀ left right : Word, ∀ index < 64,
      (operation left right).getLsbD index =
        connective (left.getLsbD index) (right.getLsbD index))
    (hfalse : connective false false = false) {left right : List Word}
    (hlength : left.length = right.length) (index : Nat) :
    bitAt (List.zipWith operation left right) index =
      connective (bitAt left index) (bitAt right index) := by
  induction left generalizing right index with
  | nil =>
      rw [List.zipWith_nil_left, List.eq_nil_of_length_eq_zero hlength.symm,
        bitAt_nil, hfalse]
  | cons first left ih =>
      obtain ⟨second, right, rfl⟩ :=
        List.exists_cons_of_length_eq_add_one hlength.symm
      rw [List.zipWith_cons_cons]
      by_cases hindex : index < 64
      · rw [bitAt_cons_of_lt hindex, bitAt_cons_of_lt hindex,
          bitAt_cons_of_lt hindex]
        exact hbits first second index hindex
      · obtain ⟨later, rfl⟩ := Nat.exists_eq_add_of_le (Nat.not_lt.mp hindex)
        rw [bitAt_cons_add, bitAt_cons_add, bitAt_cons_add]
        exact ih (Nat.succ.inj hlength) later

/-- Counting word by word counts all bits. -/
theorem sum_popCount (words : List Word) :
    (words.map Word.popCount).sum =
      (List.range (64 * words.length)).countP (bitAt words) := by
  induction words with
  | nil => rfl
  | cons word words ih =>
      have hfirst : (List.range 64).countP (bitAt (word :: words)) =
          word.popCount := by
        apply List.countP_congr
        intro index hindex
        rw [bitAt_cons_of_lt (List.mem_range.mp hindex)]
      have hrest : bitAt (word :: words) ∘ (64 + ·) = bitAt words :=
        funext (bitAt_cons_add word words)
      rw [List.map_cons, List.sum_cons, ih, List.length_cons, Nat.mul_succ,
        Nat.add_comm _ 64, List.range_add, List.countP_append, List.countP_map,
        hfirst, hrest]

end Words

/-! ### Positions -/

def positions {length : Nat} (bits : BitVec length) : List Nat :=
  (List.range length).filter bits.getLsbD

theorem positions_eq_nil_iff {length : Nat} {bits : BitVec length} :
    positions bits = [] ↔ bits = .ofNat length 0 := by
  rw [positions, List.filter_eq_nil_iff]
  constructor
  · intro hnone
    apply BitVec.eq_of_getLsbD_eq
    intro index hindex
    rw [BitVec.getLsbD_zero]
    exact Bool.eq_false_of_not_eq_true (hnone index (List.mem_range.mpr hindex))
  · rintro rfl index -
    rw [BitVec.getLsbD_zero]
    exact Bool.false_ne_true

namespace Words

theorem le_needed (length : Nat) : length ≤ 64 * needed length := by
  rw [needed]
  omega

namespace Keeps

variable {length : Nat} {words left right : List Word}
  {bits leftBits rightBits : BitVec length}

theorem zero (length : Nat) :
    Keeps (List.replicate (needed length) 0#64) (BitVec.ofNat length 0) := by
  refine ⟨List.length_replicate, fun index => ?_⟩
  rw [bitAt_replicate, BitVec.getLsbD_zero]

/-- Setting a bit of one word sets the bit at its place, and no other. -/
theorem insert (hkeeps : Keeps words bits) {index : Nat}
    (hindex : index < length) :
    Keeps (words.modify (index / 64) (BitVec.twoPow 64 (index % 64) ||| ·))
      (BitVec.twoPow length index ||| bits) := by
  have hplace : index < 64 * words.length := by
    rw [hkeeps.length_eq]
    exact Nat.lt_of_lt_of_le hindex (le_needed length)
  refine ⟨(List.length_modify ..).trans hkeeps.length_eq, fun other => ?_⟩
  rw [bitAt_modify words hplace, hkeeps.bitAt_eq, BitVec.getLsbD_or,
    BitVec.getLsbD_twoPow, decide_eq_true hindex, Bool.true_and]

/-- An operation on words is the operation on bits, if it sets no bit by itself.
-/
theorem zipWith (hleft : Keeps left leftBits) (hright : Keeps right rightBits)
    (operation : ∀ {width : Nat}, BitVec width → BitVec width → BitVec width)
    (connective : Bool → Bool → Bool)
    (hbits : ∀ {width : Nat} (left right : BitVec width) (index : Nat),
      index < width →
        (operation left right).getLsbD index =
          connective (left.getLsbD index) (right.getLsbD index))
    (hfalse : connective false false = false) :
    Keeps (List.zipWith operation left right)
      (operation leftBits rightBits) := by
  have hlength : left.length = right.length :=
    hleft.length_eq.trans hright.length_eq.symm
  refine ⟨?_, fun index => ?_⟩
  · rw [List.length_zipWith, hlength, Nat.min_self]
    exact hright.length_eq
  · rw [bitAt_zipWith (fun first second => hbits first second) hfalse hlength,
      hleft.bitAt_eq, hright.bitAt_eq]
    by_cases hindex : index < length
    · exact (hbits leftBits rightBits index hindex).symm
    · -- beyond the length both sides are zero, whatever the words have there
      have hge : length ≤ index := Nat.not_lt.mp hindex
      rw [BitVec.getLsbD_of_ge _ _ hge, BitVec.getLsbD_of_ge _ _ hge,
        BitVec.getLsbD_of_ge _ _ hge, hfalse]

theorem sum_popCount (hkeeps : Keeps words bits) :
    (words.map Word.popCount).sum = (positions bits).length := by
  obtain ⟨beyond, hbeyond⟩ := Nat.exists_eq_add_of_le (le_needed length)
  have hbits : bitAt words = bits.getLsbD := funext hkeeps.bitAt_eq
  have hnone : (bits.getLsbD ∘ (length + ·)) = fun _ => false := by
    funext index
    exact BitVec.getLsbD_of_ge bits _ (Nat.le_add_right length index)
  rw [Words.sum_popCount, hkeeps.length_eq, hbits, hbeyond, List.range_add,
    List.countP_append, List.countP_map, hnone, List.countP_false, positions,
    ← List.countP_eq_length_filter]
  rfl

end Keeps

end Words

/-! ### Packages of bit vectors -/

structure BitPackage (Bits : Type) where
  /-- A vector of some length without a bit that is set. -/
  new : Nat → Bits
  set : Bits → Nat → Bits
  test : Bits → Nat → Bool
  /-- The first bit that is set, from the given one on. -/
  next : Bits → Nat → Option Nat
  count : Bits → Nat
  union : Bits → Bits → Bits
  inter : Bits → Bits → Bits
  diff : Bits → Bits → Bits
  /-- The number of bits that are set in just one of two vectors. -/
  differing : Bits → Bits → Nat
  length : Bits → Nat
  words : Bits → List Word

namespace BitPackage

variable {Bits : Type}

/-- An operation that takes the words of two vectors of one length one by
one. -/
def WordWise (package : BitPackage Bits) (operation : Bits → Bits → Bits)
    (onWords : Word → Word → Word) : Prop :=
  ∀ left right, package.length left = package.length right →
    package.length (operation left right) = package.length left ∧
      package.words (operation left right) =
        List.zipWith onWords (package.words left) (package.words right)

/-- What the package is documented to do, as far as it is used: bits are asked
for within the length of a vector, and vectors are combined that have one
length. -/
structure Lawful (package : BitPackage Bits) : Prop where
  length_new : ∀ length, package.length (package.new length) = length
  words_new : ∀ length,
    package.words (package.new length) =
      List.replicate (Words.needed length) 0#64
  length_set : ∀ bits index, index < package.length bits →
    package.length (package.set bits index) = package.length bits
  words_set : ∀ bits index, index < package.length bits →
    package.words (package.set bits index) =
      (package.words bits).modify (index / 64)
        (BitVec.twoPow 64 (index % 64) ||| ·)
  test_eq : ∀ bits index, index < package.length bits →
    package.test bits index = Words.bitAt (package.words bits) index
  next_some : ∀ bits start index, package.next bits start = some index →
    start ≤ index ∧ Words.bitAt (package.words bits) index = true ∧
      ∀ between, start ≤ between → between < index →
        Words.bitAt (package.words bits) between = false
  next_none : ∀ bits start, package.next bits start = none →
    ∀ index, start ≤ index → Words.bitAt (package.words bits) index = false
  count_eq : ∀ bits,
    package.count bits = ((package.words bits).map Word.popCount).sum
  union : package.WordWise package.union (· ||| ·)
  inter : package.WordWise package.inter (· &&& ·)
  diff : package.WordWise package.diff (· &&& ~~~ ·)
  differing_eq : ∀ left right, package.length left = package.length right →
    package.differing left right =
      ((List.zipWith (· ^^^ ·) (package.words left) (package.words right)).map
        Word.popCount).sum

/-- The bits that are found by asking for the next one again and again. -/
inductive Scans (package : BitPackage Bits) (bits : Bits) :
    Nat → List Nat → Prop where
  | done {start : Nat} (hnext : package.next bits start = none) :
      Scans package bits start []
  | found {start index : Nat} {rest : List Nat}
      (hnext : package.next bits start = some index)
      (hrest : Scans package bits (index + 1) rest) :
      Scans package bits start (index :: rest)

/-- A vector of the package that keeps the given bits. -/
structure Keeps {length : Nat} (package : BitPackage Bits) (vector : Bits)
    (bits : BitVec length) : Prop where
  length_eq : package.length vector = length
  words : Words.Keeps (package.words vector) bits

variable {package : BitPackage Bits} {length : Nat} {vector left right : Bits}
  {bits leftBits rightBits : BitVec length}

theorem Scans.unique {start : Nat} {indices others : List Nat}
    (hscans : package.Scans vector start indices)
    (hothers : package.Scans vector start others) : indices = others := by
  induction hscans generalizing others with
  | done hnone =>
      cases hothers with
      | done => rfl
      | found hnext =>
          rw [hnone] at hnext
          cases hnext
  | found hnext _ ih =>
      cases hothers with
      | done hnone =>
          rw [hnone] at hnext
          cases hnext
      | found hother hrest =>
          cases hnext.symm.trans hother
          exact congrArg _ (ih hrest)

namespace Keeps

theorem new (hlawful : package.Lawful) (length : Nat) :
    package.Keeps (package.new length) (.ofNat length 0) := by
  refine ⟨hlawful.length_new length, ?_⟩
  rw [hlawful.words_new]
  exact Words.Keeps.zero length

theorem set (hlawful : package.Lawful) (hkeeps : package.Keeps vector bits)
    {index : Nat} (hindex : index < length) :
    package.Keeps (package.set vector index)
      (BitVec.twoPow length index ||| bits) := by
  have hlt : index < package.length vector := by rwa [hkeeps.length_eq]
  refine ⟨(hlawful.length_set vector index hlt).trans hkeeps.length_eq, ?_⟩
  rw [hlawful.words_set vector index hlt]
  exact hkeeps.words.insert hindex

theorem test_eq (hlawful : package.Lawful) (hkeeps : package.Keeps vector bits)
    {index : Nat} (hindex : index < length) :
    package.test vector index = bits.getLsbD index := by
  rw [hlawful.test_eq vector index (by rwa [hkeeps.length_eq]),
    hkeeps.words.bitAt_eq]

theorem count_eq (hlawful : package.Lawful)
    (hkeeps : package.Keeps vector bits) :
    package.count vector = (positions bits).length := by
  rw [hlawful.count_eq, hkeeps.words.sum_popCount]

/-- An operation that goes word by word goes bit by bit. -/
theorem wordWise {onBits : Bits → Bits → Bits}
    (operation : ∀ {width : Nat}, BitVec width → BitVec width → BitVec width)
    (connective : Bool → Bool → Bool)
    (hbits : ∀ {width : Nat} (left right : BitVec width) (index : Nat),
      index < width →
        (operation left right).getLsbD index =
          connective (left.getLsbD index) (right.getLsbD index))
    (hfalse : connective false false = false)
    (hwordWise : package.WordWise onBits operation)
    (hleft : package.Keeps left leftBits)
    (hright : package.Keeps right rightBits) :
    package.Keeps (onBits left right) (operation leftBits rightBits) := by
  obtain ⟨hlength, hwords⟩ :=
    hwordWise left right (hleft.length_eq.trans hright.length_eq.symm)
  refine ⟨hlength.trans hleft.length_eq, ?_⟩
  rw [hwords]
  exact hleft.words.zipWith hright.words operation connective hbits hfalse

theorem differing_eq (hlawful : package.Lawful)
    (hleft : package.Keeps left leftBits)
    (hright : package.Keeps right rightBits) :
    package.differing left right =
      (positions (leftBits ^^^ rightBits)).length := by
  have hwords := hleft.words.zipWith hright.words (· ^^^ ·) xor
    (fun _ _ _ _ => BitVec.getLsbD_xor) rfl
  rw [hlawful.differing_eq left right
    (hleft.length_eq.trans hright.length_eq.symm), hwords.sum_popCount]

/-- The scan from a bit on ends, and finds the bits that are set from there
on. -/
theorem scans_from (hlawful : package.Lawful)
    (hkeeps : package.Keeps vector bits) (start : Nat) :
    package.Scans vector start
      ((List.range' start (length - start)).filter bits.getLsbD) := by
  induction hleft : length - start using Nat.strong_induction_on
      generalizing start with
  | h left ih =>
      have hbit := hkeeps.words.bitAt_eq
      cases hnext : package.next vector start with
      | none =>
          have hnone : (List.range' start left).filter bits.getLsbD = [] := by
            rw [List.filter_eq_nil_iff]
            intro index hindex
            have hfalse := hlawful.next_none vector start hnext index
              (List.mem_range'_1.mp hindex).1
            rw [hbit] at hfalse
            rw [hfalse]
            exact Bool.false_ne_true
          rw [hnone]
          exact .done hnext
      | some index =>
          obtain ⟨hle, htrue, hbetween⟩ :=
            hlawful.next_some vector start index hnext
          rw [hbit] at htrue
          have hindex : index < length := BitVec.lt_of_getLsbD htrue
          -- nothing is set before the bit that was found
          have hsplit : List.range' start left =
              List.range' start (index - start) ++ index ::
                List.range' (index + 1)
                  (length - (index + 1)) := by
            rw [← List.range'_succ, ← Nat.add_sub_cancel' hle,
              Nat.add_sub_cancel_left, List.range'_append_1]
            congr 1
            omega
          have hearlier :
              (List.range' start (index - start)).filter bits.getLsbD = [] := by
            rw [List.filter_eq_nil_iff]
            intro earlier hearlier
            obtain ⟨hstart, hlt⟩ := List.mem_range'_1.mp hearlier
            rw [← hbit, hbetween earlier hstart (by omega)]
            exact Bool.false_ne_true
          rw [hsplit, List.filter_append, hearlier, List.nil_append,
            List.filter_cons_of_pos htrue]
          exact .found hnext (ih _ (by omega) (index + 1) rfl)

/-- A scan finds just the positions that are set, in order. -/
theorem scans_iff (hlawful : package.Lawful)
    (hkeeps : package.Keeps vector bits) {indices : List Nat} :
    package.Scans vector 0 indices ↔ indices = positions bits := by
  have hall : package.Scans vector 0 (positions bits) := by
    rw [positions, List.range_eq_range']
    exact hkeeps.scans_from hlawful 0
  constructor
  · intro hscans
    exact hscans.unique hall
  · rintro rfl
    exact hall

end Keeps

end BitPackage

/-! ### A package of lists of words -/

/-- A vector that lists its words, no more than it needs. -/
structure WordVector where
  length : Nat
  words : List Word
  length_words : words.length = Words.needed length

namespace WordVector

/-- The vector with zeros behind it, if it has not got the length. -/
def extend (vector : WordVector) (length : Nat) : WordVector where
  length := max vector.length length
  words := vector.words ++ List.replicate
    (Words.needed (max vector.length length) - vector.words.length) 0#64
  length_words := by
    have hle : Words.needed vector.length ≤
        Words.needed (max vector.length length) :=
      Nat.div_le_div_right (Nat.add_le_add_right (Nat.le_max_left ..) 63)
    rw [List.length_append, List.length_replicate, vector.length_words]
    omega

def set (vector : WordVector) (index : Nat) : WordVector where
  length := max vector.length (index + 1)
  words := (vector.extend (index + 1)).words.modify (index / 64)
    (BitVec.twoPow 64 (index % 64) ||| ·)
  length_words :=
    (List.length_modify ..).trans (vector.extend (index + 1)).length_words

def combine (onWords : Word → Word → Word) (left right : WordVector) :
    WordVector where
  length := max left.length right.length
  words :=
    List.zipWith onWords (left.extend right.length).words
      (right.extend left.length).words
  length_words := by
    have hright : (right.extend left.length).length =
        max left.length right.length :=
      Nat.max_comm ..
    rw [List.length_zipWith, length_words, length_words, hright]
    exact Nat.min_self _

def count (vector : WordVector) : Nat := (vector.words.map Word.popCount).sum

theorem extend_of_le {vector : WordVector} {length : Nat}
    (hlength : length ≤ vector.length) : vector.extend length = vector := by
  simp [extend, Nat.max_eq_left hlength, vector.length_words]

theorem words_combine (onWords : Word → Word → Word) {left right : WordVector}
    (hlength : left.length = right.length) :
    (combine onWords left right).words =
      List.zipWith onWords left.words right.words := by
  simp only [combine, extend_of_le hlength.ge, extend_of_le hlength.le]

def package : BitPackage WordVector where
  new length :=
    ⟨length, List.replicate (Words.needed length) 0#64, List.length_replicate⟩
  set := set
  test vector index :=
    decide (index < vector.length) && Words.bitAt vector.words index
  next vector start :=
    (List.range' start (64 * vector.words.length - start)).find?
      (Words.bitAt vector.words)
  count := count
  union := combine (· ||| ·)
  inter := combine (· &&& ·)
  diff := combine (· &&& ~~~ ·)
  differing left right := (combine (· ^^^ ·) left right).count
  length := length
  words := words

theorem wordWise_combine (onWords : Word → Word → Word) :
    package.WordWise (combine onWords) onWords :=
  fun _ _ hlength => ⟨Nat.max_eq_left hlength.ge, words_combine onWords hlength⟩

/-- Vectors of words keep the laws of a bit package. -/
theorem package_lawful : package.Lawful where
  length_new _ := rfl
  words_new _ := rfl
  length_set vector index hindex := Nat.max_eq_left hindex
  words_set vector index hindex :=
    congrArg (fun vector : WordVector => vector.words.modify (index / 64)
      (BitVec.twoPow 64 (index % 64) ||| ·)) (extend_of_le hindex)
  test_eq vector index hindex := by
    have hinside : decide (index < vector.length) = true :=
      decide_eq_true hindex
    change
      (decide (index < vector.length) && Words.bitAt vector.words index) = _
    rw [hinside, Bool.true_and]
    rfl
  next_some vector start index hnext := by
    obtain ⟨htrue, hmem, hearlier⟩ := List.find?_range'_eq_some.mp hnext
    refine ⟨(List.mem_range'_1.mp hmem).1, htrue, fun between hstart hlt => ?_⟩
    exact Bool.not_eq_true' _ ▸ hearlier between hstart hlt
  next_none vector start hnext index hstart := by
    by_cases hindex : index < 64 * vector.words.length
    · have hnone :=
        List.find?_eq_none.mp hnext index (List.mem_range'_1.mpr (by omega))
      exact Bool.eq_false_of_not_eq_true hnone
    · exact Words.bitAt_of_le (Nat.not_lt.mp hindex)
  count_eq _ := rfl
  union := wordWise_combine _
  inter := wordWise_combine _
  diff := wordWise_combine _
  differing_eq _ _ hlength :=
    congrArg (fun words => (words.map Word.popCount).sum)
      (words_combine _ hlength)

end WordVector

end GenKill
