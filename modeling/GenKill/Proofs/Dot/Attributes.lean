import GenKill.Dot.Reader
import GenKill.Proofs.Dot.Grammar
import GenKill.Proofs.Table

/-!
# Attributes that are written and read

Reading fills a table twice: with the texts that the settings stand for, and
again when escaped quotes are resolved.  Each time keys can fall together and
texts can only get shorter, so the total length of a table is a measure that
tells whether anything was lost.
-/

namespace GenKill.Dot

open GenKill.Dot.Identifier

def recoveredEntry (entry : Text × Text) : Text × Text :=
  (recovered entry.1, recovered entry.2)

def unescapedEntry (entry : Text × Text) : Text × Text :=
  (unescape entry.1, unescape entry.2)

theorem assign_settingOf (attributes : Attributes)
    (entries : List (Text × Text)) :
    Sketch.assign attributes (entries.map settingOf) =
      attributes.insertAll (entries.map recoveredEntry) := by
  rw [Sketch.assign, Table.insertAll, List.foldl_map, List.foldl_map]
  rfl

theorem plain_eq (attributes : Attributes) :
    Sketch.plain attributes =
      Table.empty.insertAll (attributes.entries.map unescapedEntry) := by
  rw [Sketch.plain, Table.insertAll, List.foldl_map]
  rfl

/-- The attributes that reading makes of written ones. -/
def attributesOf (entries : List (Text × Text)) : Attributes :=
  Table.empty.insertAll (entries.map recoveredEntry)

/-! ### What is kept -/

abbrev EntriesKept := EntriesHave Kept

theorem attributesOf_of_kept {entries : List (Text × Text)}
    (hkept : EntriesKept entries) (hfaithful : EntriesFaithful entries) :
    attributesOf entries = Table.empty.insertAll entries := by
  rw [attributesOf]
  congr 1
  refine (List.map_congr_left fun entry hmem => ?_).trans (List.map_id entries)
  have hkey := (hkept entry hmem).1.recovered_eq (hfaithful entry hmem).1
  have hvalue := (hkept entry hmem).2.recovered_eq (hfaithful entry hmem).2
  rw [recoveredEntry, hkey, hvalue]
  rfl

theorem plain_of_kept {attributes : Attributes}
    (hkept : EntriesKept attributes.entries) :
    Sketch.plain attributes = attributes := by
  have hmap : attributes.entries.map unescapedEntry = attributes.entries := by
    refine (List.map_congr_left fun entry hmem => ?_).trans
      (List.map_id attributes.entries)
    rw [unescapedEntry, (hkept entry hmem).1.unescape_eq,
      (hkept entry hmem).2.unescape_eq]
    rfl
  rw [plain_eq, hmap, Table.insertAll_empty_entries]

/-- Filling a table keeps what is kept. -/
theorem entriesKept_insertAll {entries : List (Text × Text)}
    (hkept : EntriesKept entries) :
    EntriesKept (Table.empty.insertAll entries : Attributes).entries := by
  intro entry hmem
  rcases Table.mem_insertAll hmem with hentry | hempty
  · exact hkept entry hentry
  · cases hempty

/-- Kept and faithful attributes come back from the text. -/
theorem plain_attributesOf {attributes : Attributes}
    (hkept : EntriesKept attributes.entries)
    (hfaithful : EntriesFaithful attributes.entries) :
    Sketch.plain (attributesOf attributes.entries) = attributes := by
  rw [attributesOf_of_kept hkept hfaithful, Table.insertAll_empty_entries,
    plain_of_kept hkept]

/-! ### One attribute -/

theorem eq_of_unescape_eq {text key : Text} (hquote : 34 ∉ key)
    (htext : unescape text = key) : text = key := by
  have hself : unescape text = text :=
    unescape_eq_self_of_quote_not_mem (htext ▸ hquote)
  rw [← hself, htext]

/-- Where a key has no quotes, no other key can turn into it when escaped quotes
are resolved. -/
theorem get?_plain (attributes : Attributes) {key : Text} (hquote : 34 ∉ key) :
    (Sketch.plain attributes).get? key =
      (attributes.get? key).map unescape := by
  have hself : unescape key = key :=
    (unescape_eq_self_iff key).mpr fun hescape =>
      hquote (hescape.subset (by decide))
  have hfound : ∀ value, (Sketch.plain attributes).get? key = some value →
      ∃ old, attributes.get? key = some old ∧ value = unescape old := by
    intro value hvalue
    have hentry := (Table.mem_entries_iff _ _ _).mpr hvalue
    rw [plain_eq] at hentry
    rcases Table.mem_insertAll hentry with hentry | hempty
    · obtain ⟨⟨other, old⟩, hother, heq⟩ := List.mem_map.mp hentry
      obtain ⟨hkey, hold⟩ := Prod.mk.inj heq
      obtain rfl : other = key := eq_of_unescape_eq hquote hkey
      rw [Table.mem_entries_iff] at hother
      exact ⟨old, hother, hold.symm⟩
    · cases hempty
  cases hget : attributes.get? key with
  | none =>
      cases hplain : (Sketch.plain attributes).get? key with
      | none => rfl
      | some value =>
          obtain ⟨old, hold, -⟩ := hfound value hplain
          rw [hget] at hold
          cases hold
  | some old =>
      have hkey : key ∈
          (attributes.entries.map unescapedEntry).map Prod.fst := by
        rw [List.map_map]
        exact List.mem_map.mpr
          ⟨_, (Table.mem_entries_iff _ _ _).mpr hget, hself⟩
      have hsome := Table.isSome_get?_insertAll Table.empty (.inl hkey)
      rw [← plain_eq] at hsome
      obtain ⟨value, hvalue⟩ := Option.isSome_iff_exists.mp hsome
      obtain ⟨found, hfound, rfl⟩ := hfound value hvalue
      rw [hget] at hfound
      cases hfound
      exact hvalue

/-! ### The length of a table -/

def entryWeight (entry : Text × Text) : Nat :=
  entry.1.length + entry.2.length + 1

def weight : List (Text × Text) → Nat
  | [] => 0
  | entry :: entries => entryWeight entry + weight entries

theorem weight_cons (entry : Text × Text) (entries : List (Text × Text)) :
    weight (entry :: entries) = entryWeight entry + weight entries := rfl

theorem weight_insert_le (key value : Text) (entries : List (Text × Text)) :
    weight (Entries.insert key value entries) ≤
      entryWeight (key, value) + weight entries := by
  induction entries with
  | nil => exact Nat.le_refl _
  | cons head tail ih =>
      obtain ⟨headKey, old⟩ := head
      rw [Entries.insert]
      split
      · rw [weight_cons, weight_cons]
        omega
      · split
        · exact Nat.le_refl _
        · rw [weight_cons, weight_cons]
          omega

theorem weight_insertAll_le (pairs : List (Text × Text))
    (attributes : Attributes) :
    weight (attributes.insertAll pairs).entries ≤
      weight pairs + weight attributes.entries := by
  induction pairs generalizing attributes with
  | nil => exact Nat.le_add_left _ _
  | cons pair pairs ih =>
      obtain ⟨key, value⟩ := pair
      have hinsert := weight_insert_le key value attributes.entries
      calc
        weight ((attributes.insert key value).insertAll pairs).entries
          ≤ weight pairs +
              weight (Entries.insert key value attributes.entries) := ih _
        _ ≤ weight ((key, value) :: pairs) + weight attributes.entries := by
            rw [weight_cons]
            omega

theorem weight_map_le {change : Text × Text → Text × Text}
    {entries : List (Text × Text)}
    (hle : ∀ entry ∈ entries, entryWeight (change entry) ≤ entryWeight entry) :
    weight (entries.map change) ≤ weight entries := by
  induction entries with
  | nil => exact Nat.le_refl 0
  | cons entry entries ih =>
      have hhead := hle entry List.mem_cons_self
      have htail := ih fun other hmem => hle other (List.mem_cons_of_mem _ hmem)
      rw [List.map_cons, weight_cons, weight_cons]
      omega

/-- If the total does not shrink, no entry does. -/
theorem entryWeight_eq {change : Text × Text → Text × Text}
    {entries : List (Text × Text)}
    (hle : ∀ entry ∈ entries, entryWeight (change entry) ≤ entryWeight entry)
    (htotal : weight entries ≤ weight (entries.map change)) :
    ∀ entry ∈ entries, entryWeight (change entry) = entryWeight entry := by
  induction entries with
  | nil => intro entry hmem; cases hmem
  | cons entry entries ih =>
      have hhead := hle entry List.mem_cons_self
      have htail : ∀ other ∈ entries,
          entryWeight (change other) ≤ entryWeight other :=
        fun other hmem => hle other (List.mem_cons_of_mem _ hmem)
      have hsum := weight_map_le htail
      rw [List.map_cons, weight_cons, weight_cons] at htotal
      intro other hmem
      rcases List.mem_cons.mp hmem with rfl | hother
      · omega
      · exact ih htail (by omega) other hother

theorem entryWeight_recovered_le {entry : Text × Text} (hkey : Faithful entry.1)
    (hvalue : Faithful entry.2) :
    entryWeight (recoveredEntry entry) ≤ entryWeight entry := by
  have hkey := length_recovered_le hkey
  have hvalue := length_recovered_le hvalue
  simp only [entryWeight, recoveredEntry]
  omega

theorem entryWeight_unescaped_le (entry : Text × Text) :
    entryWeight (unescapedEntry entry) ≤ entryWeight entry := by
  have hkey := length_unescape_le entry.1
  have hvalue := length_unescape_le entry.2
  simp only [entryWeight, unescapedEntry]
  omega

/-- Filling an empty table with changed entries. -/
theorem weight_insertAll_map_le {change : Text × Text → Text × Text}
    {entries : List (Text × Text)}
    (hle : ∀ entry ∈ entries, entryWeight (change entry) ≤ entryWeight entry) :
    weight (Table.empty.insertAll (entries.map change) : Attributes).entries ≤
      weight entries :=
  calc
    weight (Table.empty.insertAll (entries.map change) : Attributes).entries
      ≤ weight (entries.map change) + 0 := weight_insertAll_le _ Table.empty
    _ ≤ weight entries := weight_map_le hle

/-- Reading attributes back never adds to their weight. -/
theorem weight_attributesOf_le {entries : List (Text × Text)}
    (hfaithful : EntriesFaithful entries) :
    weight (attributesOf entries).entries ≤ weight entries :=
  weight_insertAll_map_le fun entry hmem =>
    entryWeight_recovered_le (hfaithful entry hmem).1 (hfaithful entry hmem).2

theorem weight_plain_le (attributes : Attributes) :
    weight (Sketch.plain attributes).entries ≤ weight attributes.entries := by
  rw [plain_eq]
  exact weight_insertAll_map_le fun entry _ => entryWeight_unescaped_le entry

/-- If the weight is the same after reading, every entry came back as it was. -/
theorem recoveredEntry_eq_of_weight {entries : List (Text × Text)}
    (hfaithful : EntriesFaithful entries)
    (hweight : weight entries ≤ weight (attributesOf entries).entries) :
    ∀ entry ∈ entries, recoveredEntry entry = entry := by
  intro entry hmem
  have htotal : weight entries ≤ weight (entries.map recoveredEntry) :=
    Nat.le_trans hweight
      (weight_insertAll_le (entries.map recoveredEntry) Table.empty)
  have hentry := entryWeight_eq (fun other hother =>
    entryWeight_recovered_le (hfaithful other hother).1
      (hfaithful other hother).2)
      htotal entry hmem
  have hkey := length_recovered_le (hfaithful entry hmem).1
  have hvalue := length_recovered_le (hfaithful entry hmem).2
  simp only [entryWeight, recoveredEntry] at hentry
  rw [recoveredEntry,
    recovered_eq_of_length (hfaithful entry hmem).1 (by omega),
    recovered_eq_of_length (hfaithful entry hmem).2 (by omega)]

/-- If reading loses no weight, every text is kept. -/
theorem entriesKept_of_weight {entries : List (Text × Text)}
    (hfaithful : EntriesFaithful entries)
    (hscannable : EntriesHave Scannable entries)
    (hnodup : (entries.map Prod.fst).Nodup)
    (hweight : weight entries ≤
      weight (Sketch.plain (attributesOf entries)).entries) :
    EntriesKept entries := by
  have hplain := weight_plain_le (attributesOf entries)
  have hread :=
    recoveredEntry_eq_of_weight hfaithful (Nat.le_trans hweight hplain)
  have hattributes : attributesOf entries = Table.empty.insertAll entries := by
    rw [attributesOf, List.map_congr_left hread, List.map_id']
  have hle := weight_attributesOf_le hfaithful
  have htotal : weight (attributesOf entries).entries ≤
      weight ((attributesOf entries).entries.map unescapedEntry) := by
    have hfill :=
      weight_insertAll_le ((attributesOf entries).entries.map unescapedEntry)
        Table.empty
    rw [plain_eq] at hweight
    exact Nat.le_trans hle (Nat.le_trans hweight hfill)
  intro entry hmem
  have hpresent : entry ∈ (attributesOf entries).entries := by
    apply Entries.mem_of_get?
    have hget := Table.get?_insertAll hnodup Table.empty entry.1
    rw [Entries.get?_of_mem hnodup hmem, Option.some_or, ← hattributes] at hget
    exact hget
  have hunescaped :=
    entryWeight_eq (fun other _ => entryWeight_unescaped_le other) htotal entry
      hpresent
  have hkey := length_unescape_le entry.1
  have hvalue := length_unescape_le entry.2
  have hentry := hread entry hmem
  simp only [entryWeight, unescapedEntry] at hunescaped
  rw [recoveredEntry, Prod.ext_iff] at hentry
  exact ⟨kept_of_length (hfaithful entry hmem).1 (hscannable entry hmem).1
      (Nat.le_of_eq (congrArg List.length hentry.1.symm)) (by omega),
    kept_of_length (hfaithful entry hmem).2 (hscannable entry hmem).2
      (Nat.le_of_eq (congrArg List.length hentry.2.symm)) (by omega)⟩

/-! ### The name of a node -/

/-- The key of the attribute that holds the name of a node. -/
def labelKey : Text := Text.ofString "label"

theorem faithful_labelKey : Faithful labelKey := fun _ => by decide +kernel

theorem kept_labelKey : Kept labelKey where
  quotes_plain := by decide
  unquoted := fun _ hstart => absurd hstart (by decide)
  scannable := fun hquoted => absurd (by decide +kernel) hquoted

theorem recovered_labelKey : recovered labelKey = labelKey :=
  kept_labelKey.recovered_eq faithful_labelKey

theorem shownAttributes_of_ne {node : Node} (hname : node.name ≠ []) :
    node.shownAttributes =
      (labelKey, node.name) :: node.attributes.entries := by
  rw [Node.shownAttributes, if_neg hname]
  rfl

/-- The name does not repeat a key, as long as `label` is free for it. -/
theorem nodup_shownAttributes {node : Node}
    (hlabel : node.attributes.get? labelKey = none) :
    (node.shownAttributes.map Prod.fst).Nodup := by
  rw [Node.shownAttributes]
  split
  · exact node.attributes.sorted.nodup_keys
  · rw [List.map_cons, List.nodup_cons]
    refine ⟨fun hmem => ?_, node.attributes.sorted.nodup_keys⟩
    obtain ⟨⟨key, value⟩, hentry, hkey⟩ := List.mem_map.mp hmem
    obtain rfl : key = labelKey := hkey
    rw [Table.mem_entries_iff, hlabel] at hentry
    cases hentry

/-- A kept name and kept attributes are told apart again. -/
theorem named_node_of_kept {node : Node} (hname : node.name ≠ [])
    (hlabel : node.attributes.get? labelKey = none)
    (hkept : EntriesKept node.shownAttributes)
    (hfaithful : EntriesFaithful node.shownAttributes) :
    (attributesOf node.shownAttributes).get? labelKey = some node.name ∧
      (Sketch.plain (attributesOf node.shownAttributes)).erase labelKey =
        node.attributes := by
  have hplain := plain_of_kept (entriesKept_insertAll hkept)
  have hget := Table.get?_insertAll (nodup_shownAttributes hlabel) Table.empty
  rw [attributesOf_of_kept hkept hfaithful, hplain]
  rw [shownAttributes_of_ne hname] at hget ⊢
  refine ⟨?_, Table.ext fun key => ?_⟩
  · rw [hget, Entries.get?, if_pos rfl, Option.some_or]
  · rw [Table.get?_erase]
    split
    · rename_i hkey
      rw [hkey, hlabel]
    · rename_i hkey
      rw [hget, Entries.get?, if_neg (Ne.symm hkey), Table.get?_empty,
        Option.or_none]
      rfl

theorem weight_erase_cons (key : Text) (entry : Text × Text)
    (entries : List (Text × Text)) :
    weight (Entries.erase key (entry :: entries)) =
      (if entry.1 = key then 0 else entryWeight entry) +
        weight (Entries.erase key entries) := by
  rw [Entries.erase, List.filter_cons]
  by_cases hkey : entry.1 = key
  · simp [hkey, Entries.erase]
  · simp [hkey, Entries.erase, weight_cons]

theorem weight_erase_le (key : Text) (entries : List (Text × Text)) :
    weight (Entries.erase key entries) ≤ weight entries := by
  induction entries with
  | nil => exact Nat.le_refl 0
  | cons entry entries ih =>
      rw [weight_erase_cons, weight_cons]
      split <;> omega

theorem weight_erase_add_le {key value : Text} {entries : List (Text × Text)}
    (hmem : (key, value) ∈ entries) :
    weight (Entries.erase key entries) + entryWeight (key, value) ≤
      weight entries := by
  induction entries with
  | nil => cases hmem
  | cons entry entries ih =>
      have hle := weight_erase_le key entries
      rw [weight_erase_cons, weight_cons]
      rcases List.mem_cons.mp hmem with rfl | htail
      · rw [if_pos rfl]
        omega
      · have htail := ih htail
        split <;> omega

theorem name_of_some {node : Sketch.Node} {name : Text}
    (hget : node.attributes.get? labelKey = some name) :
    node.name = unescape name := by
  change node.attributes.get? (Text.ofString "label") = some name at hget
  rw [Sketch.Node.name, hget]

theorem name_of_none {node : Sketch.Node}
    (hget : node.attributes.get? labelKey = none) : node.name = node.label := by
  change node.attributes.get? (Text.ofString "label") = none at hget
  rw [Sketch.Node.name, hget]

/-- A kept node comes back as it was, except that the label stands in for a
missing name. -/
theorem node_of_kept {node : Node} {read : Sketch.Node}
    (hlabel : node.attributes.get? labelKey = none)
    (hfaithful : EntriesFaithful node.shownAttributes)
    (hkept : EntriesKept node.shownAttributes)
    (hattributes : read.attributes = attributesOf node.shownAttributes) :
    read.name = (if node.name = [] then read.label else node.name) ∧
      read.others = node.attributes := by
  by_cases hname : node.name = []
  · have hshown : node.shownAttributes = node.attributes.entries := if_pos hname
    rw [hshown] at hfaithful hkept
    have hsame : read.attributes = node.attributes := by
      rw [hattributes, hshown, attributesOf_of_kept hkept hfaithful,
        Table.insertAll_empty_entries]
    rw [if_pos hname]
    refine ⟨name_of_none (hsame ▸ hlabel), Table.ext fun key => ?_⟩
    rw [Sketch.Node.others, hsame, plain_of_kept hkept, Table.get?_erase]
    split
    · rename_i hkey
      rw [hkey]
      exact hlabel.symm
    · rfl
  · obtain ⟨hget, hothers⟩ := named_node_of_kept hname hlabel hkept hfaithful
    rw [← hattributes] at hget hothers
    have hentry : (labelKey, node.name) ∈ node.shownAttributes := by
      rw [shownAttributes_of_ne hname]
      exact List.mem_cons_self
    rw [if_neg hname, name_of_some hget, (hkept _ hentry).2.unescape_eq]
    exact ⟨rfl, hothers⟩

/-- A name that is written is found again. -/
theorem isSome_get?_labelKey {node : Node} (hname : node.name ≠ []) :
    ((attributesOf node.shownAttributes).get? labelKey).isSome = true := by
  apply Table.isSome_get?_insertAll Table.empty
  left
  rw [shownAttributes_of_ne hname, List.map_cons, List.map_cons, recoveredEntry,
    recovered_labelKey]
  exact List.mem_cons_self

/-- If a node comes back as it was, it has a name, and its name and attributes
are kept. -/
theorem entriesKept_of_node {node : Node} {read : Sketch.Node}
    (hlabel : node.attributes.get? labelKey = none)
    (hfaithful : EntriesFaithful node.shownAttributes)
    (hscannable : EntriesHave Scannable node.shownAttributes)
    (hattributes : read.attributes = attributesOf node.shownAttributes)
    (hfallback : read.label ≠ []) (hname : read.name = node.name)
    (hothers : read.others = node.attributes) :
    node.name ≠ [] ∧ EntriesKept node.shownAttributes := by
  have hupper : weight (Sketch.plain read.attributes).entries ≤
      weight node.shownAttributes := by
    rw [hattributes]
    exact Nat.le_trans (weight_plain_le _) (weight_attributesOf_le hfaithful)
  cases hget : read.attributes.get? labelKey with
  | none =>
      have hnonempty : node.name ≠ [] := by
        rw [← hname, name_of_none hget]
        exact hfallback
      have hsome := isSome_get?_labelKey hnonempty
      rw [← hattributes, hget] at hsome
      cases hsome
  | some name =>
      have hlower : weight node.attributes.entries +
          entryWeight (labelKey, node.name) ≤
            weight (Sketch.plain read.attributes).entries := by
        rw [← hname, name_of_some hget, ← hothers]
        have hplain := get?_plain read.attributes (by decide : 34 ∉ labelKey)
        rw [hget, Option.map_some] at hplain
        exact weight_erase_add_le ((Table.mem_entries_iff _ _ _).mpr hplain)
      have hnonempty : node.name ≠ [] := by
        intro hempty
        rw [Node.shownAttributes, if_pos hempty] at hupper
        simp only [entryWeight] at hlower
        omega
      have hweight : weight node.shownAttributes ≤
          weight (Sketch.plain
            (attributesOf node.shownAttributes)).entries := by
        rw [← hattributes, shownAttributes_of_ne hnonempty, weight_cons]
        omega
      exact ⟨hnonempty,
        entriesKept_of_weight hfaithful hscannable
          (nodup_shownAttributes hlabel) hweight⟩

end GenKill.Dot
