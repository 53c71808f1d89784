import GenKill.Proofs.Dot.Names
import GenKill.Proofs.Dot.Reader

/-!
# Nodes are written under different identifiers

Labels are distinct by themselves.  An identifier that is made up for a node
without a label is lengthened until it is no label, which happens before the
search gives up, because there are fewer labels than nodes.  Two such
identifiers differ in the numbers of their nodes.
-/

namespace GenKill

namespace Graph

open Dot

def extended (id : Text) (count : Nat) : Text :=
  id ++ List.replicate count (Text.byte '_')

theorem extended_succ (id : Text) (count : Nat) :
    extended id (count + 1) = extended (id ++ Text.ofString "_") count := by
  rw [extended, extended, List.replicate_succ, List.append_assoc]
  rfl

/-- Different numbers of underscores give different identifiers. -/
theorem extended_injective (id : Text) : Function.Injective (extended id) := by
  intro left right heq
  have hlength := congrArg List.length heq
  simpa [extended] using hlength

/-- The search stops at the first identifier that is not a label, or gives
up. -/
theorem firstFree_eq (graph : Graph) (tries : Nat) (id : Text) :
    ∃ count ≤ tries, graph.firstFree tries id = extended id count ∧
      (∀ earlier < count, (graph.find? (extended id earlier)).isSome = true) ∧
      (count < tries → graph.find? (extended id count) = none) := by
  induction tries generalizing id with
  | zero =>
      exact ⟨0, Nat.le_refl 0, (List.append_nil id).symm, by simp, by simp⟩
  | succ tries ih =>
      have hself : extended id 0 = id := List.append_nil id
      rw [firstFree]
      split
      · rename_i hused
        obtain ⟨count, hcount, hfirst, hearlier, hfree⟩ :=
          ih (id ++ Text.ofString "_")
        refine ⟨count + 1, Nat.succ_le_succ hcount, ?_, ?_, ?_⟩
        · rw [extended_succ]
          exact hfirst
        · intro earlier hlt
          cases earlier with
          | zero => rwa [hself]
          | succ earlier =>
              rw [extended_succ]
              exact hearlier earlier (Nat.lt_of_succ_lt_succ hlt)
        · intro hlt
          rw [extended_succ]
          exact hfree (Nat.lt_of_succ_lt_succ hlt)
      · rename_i hunused
        refine ⟨0, Nat.zero_le _, hself.symm, by simp, fun _ => ?_⟩
        rw [hself]
        simpa using hunused

/-- A node without a label leaves fewer labels than there are nodes. -/
theorem lt_length_of_used {graph : Graph} {index : Nat} {node : Node}
    (hnode : graph.nodes[index]? = some node) (hlabel : node.label = [])
    {id : Text} {count : Nat}
    (hused : ∀ earlier < count,
      (graph.find? (extended id earlier)).isSome = true) :
    count < graph.nodes.length := by
  let labels := (graph.nodes.filter fun node => node.label ≠ []).map Node.label
  have hsubset : (List.range count).map (extended id) ⊆ labels := by
    intro label hmem
    obtain ⟨earlier, hlt, rfl⟩ := List.mem_map.mp hmem
    obtain ⟨hne, other, hother, heq⟩ :=
      isSome_find?_iff.mp (hused earlier (List.mem_range.mp hlt))
    refine List.mem_map.mpr ⟨other, List.mem_filter.mpr ⟨hother, ?_⟩, heq⟩
    exact decide_eq_true (heq ▸ hne)
  have hnodup : ((List.range count).map (extended id)).Nodup :=
    List.nodup_range.map (extended_injective id)
  have hle := (hnodup.subperm hsubset).length_le
  have hlt : labels.length < graph.nodes.length := by
    rw [List.length_map]
    apply List.length_filter_lt_length_iff_exists.mpr
    exact ⟨node, List.mem_of_getElem? hnode, by simp [hlabel]⟩
  rw [List.length_map, List.length_range] at hle
  omega

/-- The search for a node without a label succeeds. -/
theorem find?_firstFree {graph : Graph} {index : Nat} {node : Node}
    (hnode : graph.nodes[index]? = some node) (hlabel : node.label = [])
    (id : Text) :
    graph.find? (graph.firstFree graph.nodes.length id) = none := by
  obtain ⟨count, -, hfirst, hearlier, hfree⟩ :=
    graph.firstFree_eq graph.nodes.length id
  rw [hfirst]
  exact hfree (lt_length_of_used hnode hlabel hearlier)

theorem dotId_eq_firstFree {graph : Graph} {index : Nat} {node : Node}
    (hnode : graph.nodes[index]? = some node) (hlabel : node.label = []) :
    graph.dotId index =
      graph.firstFree graph.nodes.length
        (Text.ofString "n" ++ Text.ofNat index) := by
  rw [dotId, hnode]
  exact if_neg (not_not_intro hlabel)

/-- An identifier of a node without a label is no label. -/
theorem find?_dotId_of_unlabeled {graph : Graph} {index : Nat} {node : Node}
    (hnode : graph.nodes[index]? = some node) (hlabel : node.label = []) :
    graph.find? (graph.dotId index) = none := by
  rw [dotId_eq_firstFree hnode hlabel]
  exact find?_firstFree hnode hlabel _

theorem underscore_not_mem_ofNat (number : Nat) :
    Text.byte '_' ∉ Text.ofNat number := by
  intro hmem
  obtain ⟨first, rest, htext, hdigits⟩ := exists_digits_ofNat number
  rw [htext] at hmem
  exact absurd (hdigits _ (Text.mem_of_mem_ofChars hmem (by decide)))
    (by decide)

/-- The number of a node can be read off its generated identifier. -/
theorem extended_ofNat_inj {left right leftCount rightCount : Nat}
    (heq : extended (Text.ofString "n" ++ Text.ofNat left) leftCount =
      extended (Text.ofString "n" ++ Text.ofNat right) rightCount) :
    left = right := by
  have hfilter : ∀ number count,
      (extended (Text.ofString "n" ++ Text.ofNat number) count).filter
          (· ≠ Text.byte '_') =
        Text.ofString "n" ++ Text.ofNat number := by
    intro number count
    have hdigits : (Text.ofNat number).filter (· ≠ Text.byte '_') =
        Text.ofNat number := by
      rw [List.filter_eq_self]
      intro byte hbyte
      exact decide_eq_true fun heq =>
        underscore_not_mem_ofNat number (heq ▸ hbyte)
    have hletter : (Text.ofString "n").filter (· ≠ Text.byte '_') =
        Text.ofString "n" := by decide
    rw [extended, List.filter_append, List.filter_append, hletter, hdigits,
      List.filter_replicate]
    simp
  have hbytes := congrArg (List.filter (· ≠ Text.byte '_')) heq
  rw [hfilter, hfilter] at hbytes
  exact Text.ofNat_injective (List.append_cancel_left hbytes)

/-- A node without a label is named by its number, with some underscores behind
it. -/
theorem dotId_of_unlabeled {graph : Graph} {index : Nat} {node : Node}
    (hnode : graph.nodes[index]? = some node) (hlabel : node.label = []) :
    ∃ count,
      graph.dotId index =
        extended (Text.ofString "n" ++ Text.ofNat index) count := by
  obtain ⟨count, -, hfirst, -, -⟩ :=
    graph.firstFree_eq graph.nodes.length
      (Text.ofString "n" ++ Text.ofNat index)
  exact ⟨count, (dotId_eq_firstFree hnode hlabel).trans hfirst⟩

/-- Different nodes have different identifiers, labeled or not. -/
theorem dotId_inj {graph : Graph} {left right : Nat}
    (hleft : left < graph.nodes.length) (hright : right < graph.nodes.length)
    (heq : graph.dotId left = graph.dotId right) : left = right := by
  have hfind : ∀ {index : Nat} (hindex : index < graph.nodes.length),
      graph.nodes[index].label ≠ [] →
        graph.find? (graph.dotId index) = some index := by
    intro index hindex hlabel
    have hnode := List.getElem?_eq_getElem hindex
    rw [dotId_of_label hnode hlabel]
    exact find?_label hnode hlabel
  have hleftNode := List.getElem?_eq_getElem hleft
  have hrightNode := List.getElem?_eq_getElem hright
  by_cases hleftLabel : graph.nodes[left].label = []
  · by_cases hrightLabel : graph.nodes[right].label = []
    · obtain ⟨leftCount, hleftId⟩ := dotId_of_unlabeled hleftNode hleftLabel
      obtain ⟨rightCount, hrightId⟩ := dotId_of_unlabeled hrightNode hrightLabel
      rw [hleftId, hrightId] at heq
      exact extended_ofNat_inj heq
    · have hnone := find?_dotId_of_unlabeled hleftNode hleftLabel
      rw [heq, hfind hright hrightLabel] at hnone
      cases hnone
  · have hsome := hfind hleft hleftLabel
    rw [heq] at hsome
    by_cases hrightLabel : graph.nodes[right].label = []
    · rw [find?_dotId_of_unlabeled hrightNode hrightLabel] at hsome
      cases hsome
    · rw [hfind hright hrightLabel] at hsome
      exact (Option.some.inj hsome).symm

end Graph

end GenKill
