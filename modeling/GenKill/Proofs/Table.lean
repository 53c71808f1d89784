import GenKill.Table
import Mathlib.Data.List.Nodup

/-!
# Tables from lists of entries

A table that is filled from a list holds only entries of the list, and all of
them if no key occurs twice.  In particular a table filled from its own entries
is the same table.
-/

namespace GenKill

variable {κ α : Type} [DecidableEq κ] [Key κ]

namespace Entries

theorem Sorted.nodup_keys {entries : List (κ × α)} (hsorted : Sorted entries) :
    (entries.map Prod.fst).Nodup := by
  rw [List.Nodup, List.pairwise_map]
  refine hsorted.imp fun {left right} hbefore heq => ?_
  rw [heq, Key.before_irrefl] at hbefore
  cases hbefore

omit [Key κ] in
theorem get?_of_mem {entries : List (κ × α)}
    (hnodup : (entries.map Prod.fst).Nodup) {key : κ} {value : α}
    (hmem : (key, value) ∈ entries) : get? key entries = some value := by
  induction entries with
  | nil => cases hmem
  | cons head tail ih =>
      obtain ⟨headKey, headValue⟩ := head
      rw [List.map_cons, List.nodup_cons] at hnodup
      rw [get?]
      rcases List.mem_cons.mp hmem with heq | htail
      · cases heq
        rw [if_pos rfl]
      · have hkey : key ∈ tail.map Prod.fst := List.mem_map_of_mem htail
        have hne : headKey ≠ key := fun heq => hnodup.1 (heq ▸ hkey)
        rw [if_neg hne]
        exact ih hnodup.2 htail

omit [Key κ] in
theorem mem_of_get? {entries : List (κ × α)} {key : κ} {value : α}
    (hget : get? key entries = some value) : (key, value) ∈ entries := by
  induction entries with
  | nil => cases hget
  | cons head tail ih =>
      obtain ⟨headKey, headValue⟩ := head
      rw [get?] at hget
      split at hget
      · rename_i heq
        cases hget
        rw [heq]
        exact List.mem_cons_self
      · exact List.mem_cons_of_mem _ (ih hget)

omit [Key κ] in
theorem get?_eq_none_of_not_mem {entries : List (κ × α)} {key : κ}
    (hkey : key ∉ entries.map Prod.fst) : get? key entries = none := by
  cases hget : get? key entries with
  | none => rfl
  | some value => exact absurd (List.mem_map_of_mem (mem_of_get? hget)) hkey

end Entries

namespace Table

/-- The entries of a table are what is found under its keys. -/
theorem mem_entries_iff (table : Table κ α) (key : κ) (value : α) :
    (key, value) ∈ table.entries ↔ table.get? key = some value :=
  ⟨Entries.get?_of_mem table.sorted.nodup_keys, Entries.mem_of_get?⟩

/-- Puts in the pairs of a list, the later ones over the earlier ones. -/
def insertAll (table : Table κ α) (pairs : List (κ × α)) : Table κ α :=
  pairs.foldl (fun table pair => table.insert pair.1 pair.2) table

/-- Inserting pairs adds no entries besides these pairs. -/
theorem mem_insertAll {pairs : List (κ × α)} {table : Table κ α} {entry : κ × α}
    (hmem : entry ∈ (table.insertAll pairs).entries) :
    entry ∈ pairs ∨ entry ∈ table.entries := by
  induction pairs generalizing table with
  | nil => exact .inr hmem
  | cons pair pairs ih =>
      rcases ih hmem with htail | htable
      · exact .inl (List.mem_cons_of_mem _ htail)
      · rcases Entries.mem_insert htable with hpair | hold
        · exact .inl (hpair ▸ List.mem_cons_self)
        · exact .inr hold

/-- Pairs without repeated keys come before the entries of the table. -/
theorem get?_insertAll {pairs : List (κ × α)}
    (hnodup : (pairs.map Prod.fst).Nodup) (table : Table κ α) (key : κ) :
    (table.insertAll pairs).get? key =
      (Entries.get? key pairs).or (table.get? key) := by
  induction pairs generalizing table with
  | nil => rfl
  | cons pair pairs ih =>
      obtain ⟨first, value⟩ := pair
      rw [List.map_cons, List.nodup_cons] at hnodup
      have hrest := ih hnodup.2 (table.insert first value)
      rw [get?_insert] at hrest
      refine hrest.trans ?_
      rw [Entries.get?]
      by_cases hkey : first = key
      · rw [if_pos hkey, if_pos hkey,
          Entries.get?_eq_none_of_not_mem (hkey ▸ hnodup.1)]
        rfl
      · rw [if_neg hkey, if_neg hkey]

theorem get?_insertAll_of_not_mem (table : Table κ α) {pairs : List (κ × α)}
    {key : κ} (hkey : key ∉ pairs.map Prod.fst) :
    (table.insertAll pairs).get? key = table.get? key := by
  induction pairs generalizing table with
  | nil => rfl
  | cons pair pairs ih =>
      rw [List.map_cons, List.mem_cons, not_or] at hkey
      refine (ih (table.insert pair.1 pair.2) hkey.2).trans ?_
      rw [get?_insert, if_neg (Ne.symm hkey.1)]

/-- The last pair with a key decides. -/
theorem get?_insertAll_of_last (table : Table κ α) (earlier : List (κ × α))
    {later : List (κ × α)} {key : κ} (value : α)
    (hkey : key ∉ later.map Prod.fst) :
    (table.insertAll (earlier ++ (key, value) :: later)).get? key =
      some value := by
  have happend : table.insertAll (earlier ++ (key, value) :: later) =
      ((table.insertAll earlier).insert key value).insertAll later := by
    rw [insertAll, List.foldl_append]
    rfl
  rw [happend, get?_insertAll_of_not_mem _ hkey, get?_insert, if_pos rfl]

/-- A key that is put in, or was there, stays. -/
theorem isSome_get?_insertAll (table : Table κ α) {pairs : List (κ × α)}
    {key : κ}
    (hkey : key ∈ pairs.map Prod.fst ∨ (table.get? key).isSome = true) :
    ((table.insertAll pairs).get? key).isSome = true := by
  induction pairs generalizing table with
  | nil => exact hkey.resolve_left List.not_mem_nil
  | cons pair pairs ih =>
      apply ih (table.insert pair.1 pair.2)
      rw [List.map_cons, List.mem_cons] at hkey
      rw [get?_insert]
      by_cases heq : pair.1 = key
      · simp [heq]
      · rw [if_neg heq]
        rcases hkey with (rfl | htail) | htable
        · exact absurd rfl heq
        · exact .inl htail
        · exact .inr htable

theorem get?_insertAll_entries (table other : Table κ α) (key : κ) :
    (table.insertAll other.entries).get? key =
      (other.get? key).or (table.get? key) :=
  get?_insertAll other.sorted.nodup_keys table key

@[simp]
theorem insertAll_empty_entries (table : Table κ α) :
    empty.insertAll table.entries = table := by
  apply ext
  intro key
  rw [get?_insertAll_entries, get?_empty, Option.or_none]

/-- A table that is filled from pairs with different keys holds these pairs. -/
theorem get?_ofList_eq_some_iff {pairs : List (κ × α)}
    (hnodup : (pairs.map Prod.fst).Nodup) (key : κ) (value : α) :
    (ofList pairs).get? key = some value ↔ (key, value) ∈ pairs := by
  have hget := get?_insertAll hnodup empty key
  rw [get?_empty, Option.or_none] at hget
  have hofList : (ofList pairs).get? key = Entries.get? key pairs := hget
  rw [hofList]
  exact ⟨Entries.mem_of_get?, Entries.get?_of_mem hnodup⟩

/-- A table with its values replaced, entry by entry. -/
theorem get?_ofList_map_entries {β : Type} (table : Table κ α) (change : α → β)
    (key : κ) :
    (ofList (table.entries.map fun entry => (entry.1, change entry.2))).get?
        key =
      (table.get? key).map change := by
  have hkeys :
      (table.entries.map fun entry => (entry.1, change entry.2)).map Prod.fst =
        table.entries.map Prod.fst := by
    rw [List.map_map]
    rfl
  have hnodup := hkeys ▸ table.sorted.nodup_keys
  apply Option.ext
  intro value
  rw [get?_ofList_eq_some_iff hnodup, List.mem_map, Option.map_eq_some_iff]
  constructor
  · rintro ⟨⟨found, old⟩, hentry, heq⟩
    cases heq
    exact ⟨old, (table.mem_entries_iff found old).mp hentry, rfl⟩
  · rintro ⟨old, hget, rfl⟩
    exact ⟨(key, old), (table.mem_entries_iff key old).mpr hget, rfl⟩

end Table

end GenKill
