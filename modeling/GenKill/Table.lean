/-!
# Finite tables in key order

Attributes, explicit set values and configuration entries are all finite maps
whose listing order shows in the output.  A `Table` keeps its entries sorted by
key, so one map has one representation: two tables with the same look-ups are
equal (`Table.ext`).
-/

namespace GenKill

/-- Keys come with a decidable strict linear order. -/
class Key (κ : Type) [DecidableEq κ] where
  before : κ → κ → Bool
  before_irrefl : ∀ key, before key key = false
  before_trans : ∀ {first second third},
    before first second = true → before second third = true →
      before first third = true
  before_total : ∀ {left right}, left ≠ right → before left right = false →
    before right left = true

instance : Key Nat where
  before left right := decide (left < right)
  before_irrefl := by simp
  before_trans := by simp only [decide_eq_true_eq]; omega
  before_total := by
    simp only [decide_eq_true_eq, decide_eq_false_iff_not]; omega

namespace Entries

variable {κ α : Type} [DecidableEq κ] [Key κ]

/-- Strictly increasing keys. -/
def Sorted (entries : List (κ × α)) : Prop :=
  entries.Pairwise fun left right => Key.before left.1 right.1 = true

def get? (key : κ) : List (κ × α) → Option α
  | [] => none
  | (head, value) :: tail => if head = key then some value else get? key tail

/-- Replaces the value of a key that is present, and otherwise puts the entry in
its place. -/
def insert (key : κ) (value : α) : List (κ × α) → List (κ × α)
  | [] => [(key, value)]
  | (head, old) :: tail =>
      if head = key then (key, value) :: tail
      else if Key.before key head then (key, value) :: (head, old) :: tail
      else (head, old) :: insert key value tail

def erase (key : κ) (entries : List (κ × α)) : List (κ × α) :=
  entries.filter fun entry => entry.1 ≠ key

theorem mem_insert {key : κ} {value : α} {entry : κ × α}
    {entries : List (κ × α)} (hentry : entry ∈ insert key value entries) :
    entry = (key, value) ∨ entry ∈ entries := by
  induction entries with
  | nil => simpa [insert] using hentry
  | cons head tail ih =>
      obtain ⟨headKey, old⟩ := head
      simp only [insert] at hentry
      split at hentry
      · rcases List.mem_cons.mp hentry with h | h
        · exact .inl h
        · exact .inr (List.mem_cons_of_mem _ h)
      · split at hentry
        · rcases List.mem_cons.mp hentry with h | h
          · exact .inl h
          · exact .inr h
        · rcases List.mem_cons.mp hentry with h | h
          · exact .inr (h ▸ List.mem_cons_self)
          · rcases ih h with h | h
            · exact .inl h
            · exact .inr (List.mem_cons_of_mem _ h)

theorem sorted_insert (key : κ) (value : α) {entries : List (κ × α)}
    (hsorted : Sorted entries) : Sorted (insert key value entries) := by
  induction entries with
  | nil => simp [insert, Sorted]
  | cons head tail ih =>
      obtain ⟨headKey, old⟩ := head
      have hhead := (List.pairwise_cons.mp hsorted).1
      have htail := (List.pairwise_cons.mp hsorted).2
      simp only [insert]
      split
      · rename_i heq
        subst heq
        exact List.pairwise_cons.mpr ⟨hhead, htail⟩
      · rename_i hne
        split
        · rename_i hbefore
          refine List.pairwise_cons.mpr ⟨?_, hsorted⟩
          intro entry hentry
          rcases List.mem_cons.mp hentry with h | h
          · exact h ▸ hbefore
          · exact Key.before_trans hbefore (hhead entry h)
        · rename_i hafter
          refine List.pairwise_cons.mpr ⟨?_, ih htail⟩
          intro entry hentry
          rcases mem_insert hentry with h | h
          · subst h
            exact Key.before_total (Ne.symm hne) (by simpa using hafter)
          · exact hhead entry h

theorem sorted_erase (key : κ) {entries : List (κ × α)}
    (hsorted : Sorted entries) : Sorted (erase key entries) :=
  List.Pairwise.sublist List.filter_sublist hsorted

theorem get?_insert_self (key : κ) (value : α) (entries : List (κ × α)) :
    get? key (insert key value entries) = some value := by
  induction entries with
  | nil => simp [insert, get?]
  | cons head tail ih =>
      obtain ⟨headKey, old⟩ := head
      simp only [insert]
      split
      · simp [get?]
      · rename_i hne
        split
        · simp [get?]
        · simp [get?, hne, ih]

theorem get?_insert_ne {key other : κ} (value : α) (hne : key ≠ other)
    (entries : List (κ × α)) :
    get? other (insert key value entries) = get? other entries := by
  induction entries with
  | nil => simp [insert, get?, hne]
  | cons head tail ih =>
      obtain ⟨headKey, old⟩ := head
      simp only [insert]
      split
      · rename_i heq
        subst heq
        simp [get?, hne]
      · split
        · simp [get?, hne]
        · simp [get?, ih]

omit [Key κ] in
theorem get?_erase (key other : κ) (entries : List (κ × α)) :
    get? other (erase key entries) =
      if other = key then none else get? other entries := by
  induction entries with
  | nil => simp [erase, get?]
  | cons head tail ih =>
      obtain ⟨headKey, old⟩ := head
      simp only [erase] at ih
      by_cases hhead : headKey = key
      · subst hhead
        by_cases hother : other = headKey
        · subst hother
          simpa [erase, get?] using ih
        · simpa [erase, get?, hother, Ne.symm hother] using ih
      · by_cases hother : headKey = other
        · subst hother
          simp [erase, get?, hhead]
        · simpa [erase, get?, hhead, hother] using ih

theorem get?_eq_none_of_before {key : κ} {entries : List (κ × α)}
    (hbefore : ∀ entry ∈ entries, Key.before key entry.1 = true) :
    get? key entries = none := by
  induction entries with
  | nil => rfl
  | cons head tail ih =>
      obtain ⟨headKey, value⟩ := head
      have hne : headKey ≠ key := by
        intro heq
        have := hbefore (headKey, value) List.mem_cons_self
        simp [heq, Key.before_irrefl] at this
      simp only [get?, hne, if_false]
      exact ih fun entry hentry => hbefore entry (List.mem_cons_of_mem _ hentry)

theorem eq_of_get? {left right : List (κ × α)} (hleft : Sorted left)
    (hright : Sorted right) (hget : ∀ key, get? key left = get? key right) :
    left = right := by
  induction left generalizing right with
  | nil =>
      cases right with
      | nil => rfl
      | cons head tail =>
          obtain ⟨key, value⟩ := head
          have := hget key
          simp [get?] at this
  | cons head tail ih =>
      obtain ⟨key, value⟩ := head
      cases right with
      | nil =>
          have := hget key
          simp [get?] at this
      | cons other rest =>
          obtain ⟨otherKey, otherValue⟩ := other
          have hbefore := (List.pairwise_cons.mp hleft).1
          have hbefore' := (List.pairwise_cons.mp hright).1
          have hkey : key = otherKey := by
            by_cases heq : key = otherKey
            · exact heq
            · exfalso
              cases horder : Key.before key otherKey with
              | true =>
                  have hnone : get? key ((otherKey, otherValue) :: rest) =
                      none := by
                    apply get?_eq_none_of_before
                    intro entry hentry
                    rcases List.mem_cons.mp hentry with h | h
                    · exact h ▸ horder
                    · exact Key.before_trans horder (hbefore' entry h)
                  have := hget key
                  simp [hnone] at this
                  simp [get?] at this
              | false =>
                  have horder' := Key.before_total heq horder
                  have hnone : get? otherKey ((key, value) :: tail) = none := by
                    apply get?_eq_none_of_before
                    intro entry hentry
                    rcases List.mem_cons.mp hentry with h | h
                    · exact h ▸ horder'
                    · exact Key.before_trans horder' (hbefore entry h)
                  have := hget otherKey
                  simp [hnone] at this
                  simp [get?] at this
          subst hkey
          have hvalue : value = otherValue := by
            have := hget key
            simpa [get?] using this
          subst hvalue
          have htail : tail = rest := by
            apply ih (List.pairwise_cons.mp hleft).2
              (List.pairwise_cons.mp hright).2
            intro other
            by_cases heq : key = other
            · subst heq
              rw [get?_eq_none_of_before hbefore,
                get?_eq_none_of_before hbefore']
            · have := hget other
              simpa [get?, heq] using this
          rw [htail]

end Entries

/-- A finite map listed in increasing key order. -/
structure Table (κ α : Type) [DecidableEq κ] [Key κ] where
  entries : List (κ × α) := []
  sorted : Entries.Sorted entries := by exact List.Pairwise.nil

namespace Table

variable {κ α : Type} [DecidableEq κ] [Key κ]

def empty : Table κ α := {}

instance : EmptyCollection (Table κ α) := ⟨empty⟩

instance : Inhabited (Table κ α) := ⟨empty⟩

def get? (table : Table κ α) (key : κ) : Option α :=
  Entries.get? key table.entries

def insert (table : Table κ α) (key : κ) (value : α) : Table κ α where
  entries := Entries.insert key value table.entries
  sorted := Entries.sorted_insert key value table.sorted

def erase (table : Table κ α) (key : κ) : Table κ α where
  entries := Entries.erase key table.entries
  sorted := Entries.sorted_erase key table.sorted

/-- Later pairs replace earlier ones with the same key. -/
def ofList (pairs : List (κ × α)) : Table κ α :=
  pairs.foldl (fun table pair => table.insert pair.1 pair.2) empty

def size (table : Table κ α) : Nat := table.entries.length

instance [DecidableEq α] : DecidableEq (Table κ α) := fun left right =>
  decidable_of_iff (left.entries = right.entries) <| by
    cases left
    cases right
    simp

@[ext]
theorem ext {left right : Table κ α}
    (hget : ∀ key, left.get? key = right.get? key) : left = right := by
  have hentries := Entries.eq_of_get? left.sorted right.sorted hget
  cases left
  cases right
  simp only at hentries
  subst hentries
  rfl

@[simp]
theorem get?_empty (key : κ) : (empty : Table κ α).get? key = none := rfl

theorem get?_insert (table : Table κ α) (key other : κ) (value : α) :
    (table.insert key value).get? other =
      if key = other then some value else table.get? other := by
  by_cases heq : key = other
  · subst heq
    simpa [get?, insert] using Entries.get?_insert_self key value table.entries
  · simpa [get?, insert, heq] using
      Entries.get?_insert_ne value heq table.entries

theorem get?_erase (table : Table κ α) (key other : κ) :
    (table.erase key).get? other =
      if other = key then none else table.get? other :=
  Entries.get?_erase key other table.entries

end Table

end GenKill
