import GenKill.Problem.Elements
import GenKill.Proofs.Text.Blank

/-!
# Lists of elements come back from their text

Elements without commas, and without blanks at their ends, come back from the
text that lists them, in the same order and with the same repetitions.  An
element that is read from a text is part of one of the pieces between its
commas, and is such an element itself.
-/

namespace GenKill

namespace Text

theorem splitOn_eq (separator : UInt8) (text : Text) :
    splitOn separator text = List.splitOn separator text := by
  induction text with
  | nil => rfl
  | cons head tail ih =>
      rw [splitOn, ih, List.splitOn_cons_eq_if_modifyHead]
      by_cases heq : head = separator
      · rw [if_pos heq, if_pos (beq_iff_eq.mpr heq)]
      · rw [if_neg heq, if_neg (mt beq_iff_eq.mp heq)]
        cases hpieces : List.splitOn separator tail with
        | nil => exact absurd hpieces (List.splitOn_ne_nil separator tail)
        | cons piece pieces => rfl

theorem join_eq (separator : Text) (pieces : List Text) :
    join separator pieces = separator.intercalate pieces := by
  induction pieces with
  | nil => rfl
  | cons piece pieces ih =>
      cases pieces with
      | nil => simp [join]
      | cons next rest => rw [join, ih, List.intercalate_cons_cons]

theorem not_mem_of_mem_splitOn {separator : UInt8} {text piece : Text}
    (hpiece : piece ∈ text.splitOn separator) : separator ∉ piece := by
  induction text generalizing piece with
  | nil =>
      rw [List.mem_singleton.mp hpiece]
      exact List.not_mem_nil
  | cons head tail ih =>
      rw [splitOn] at hpiece
      split at hpiece
      · rcases List.mem_cons.mp hpiece with rfl | hrest
        · exact List.not_mem_nil
        · exact ih hrest
      · rename_i hhead
        split at hpiece
        · rw [List.mem_singleton.mp hpiece, List.mem_singleton]
          exact Ne.symm hhead
        · rename_i first pieces hpieces
          rw [hpieces] at ih
          rcases List.mem_cons.mp hpiece with rfl | hrest
          · rw [List.mem_cons, not_or]
            exact ⟨Ne.symm hhead, ih List.mem_cons_self⟩
          · exact ih (List.mem_cons_of_mem first hrest)

end Text

namespace Elements

theorem isListable_iff (element : Text) :
    isListable element = true ↔
      element ≠ [] ∧ (44 : UInt8) ∉ element ∧ element.trim = element :=
  decide_eq_true_iff

/-- The pieces between the commas of a text, joined again, are the text. -/
theorem join_splitOn (text : Text) : join (text.splitOn 44) = text := by
  rw [join, Text.join_eq, Text.splitOn_eq]
  exact List.intercalate_splitOn 44

/-- Texts without commas come back from the text that joins them by commas. -/
theorem splitOn_join {elements : List Text} (hne : elements ≠ [])
    (hcommas : ∀ element ∈ elements, (44 : UInt8) ∉ element) :
    (join elements).splitOn 44 = elements := by
  rw [join, Text.join_eq, Text.splitOn_eq]
  exact List.splitOn_intercalate 44 hcommas hne

theorem split_nil : split [] = [] := by
  decide +kernel

/-- A list of listable elements comes back from its text. -/
theorem split_join {elements : List Text}
    (hlistable : ∀ element ∈ elements, isListable element = true) :
    split (join elements) = elements := by
  have hfacts :=
    fun element hmem => (isListable_iff element).mp (hlistable element hmem)
  cases elements with
  | nil => exact split_nil
  | cons first rest =>
      have hpieces : (join (first :: rest)).splitOn 44 = first :: rest :=
        splitOn_join (List.cons_ne_nil first rest) fun element hmem =>
          (hfacts element hmem).2.1
      have htrimmed : (first :: rest).map Text.trim = first :: rest :=
        (List.map_congr_left fun element hmem =>
          (hfacts element hmem).2.2).trans (List.map_id _)
      calc split (join (first :: rest))
          = ((first :: rest).map Text.trim).filter
              (fun element => element ≠ []) :=
            congrArg (fun pieces => (pieces.map Text.trim).filter fun element =>
                element ≠ [])
              hpieces
        _ = first :: rest := by
            rw [htrimmed, List.filter_eq_self]
            exact fun element hmem => decide_eq_true (hfacts element hmem).1

theorem infix_join {elements : List Text} {element : Text}
    (hmem : element ∈ elements) : element <:+: join elements := by
  induction elements with
  | nil => cases hmem
  | cons first rest ih =>
      cases rest with
      | nil =>
          rw [List.mem_singleton.mp hmem]
          exact List.infix_refl first
      | cons next rest =>
          rcases List.mem_cons.mp hmem with rfl | hrest
          · exact ⟨[], Text.ofString "," ++ join (next :: rest),
              by simp [join, Text.join]⟩
          · exact (ih hrest).trans (List.suffix_append _ _).isInfix

/-! ### What is read from any text -/

/-- An element that is read stands in one of the pieces between commas. -/
theorem exists_piece_of_mem_split {text element : Text}
    (hmem : element ∈ split text) :
    element ≠ [] ∧ ∃ piece ∈ text.splitOn 44, element <:+: piece := by
  obtain ⟨htrimmed, hne⟩ := List.mem_filter.mp hmem
  obtain ⟨piece, hpiece, rfl⟩ := List.mem_map.mp htrimmed
  exact ⟨of_decide_eq_true hne, piece, hpiece, piece.trim_infix⟩

/-- What is read from a text can be listed. -/
theorem isListable_of_mem_split {text element : Text}
    (hmem : element ∈ split text) : isListable element = true := by
  obtain ⟨htrimmed, hne⟩ := List.mem_filter.mp hmem
  obtain ⟨piece, hpiece, rfl⟩ := List.mem_map.mp htrimmed
  have hcomma : (44 : UInt8) ∉ piece := Text.not_mem_of_mem_splitOn hpiece
  rw [isListable_iff]
  exact ⟨of_decide_eq_true hne, fun h => hcomma (piece.trim_infix.subset h),
    piece.trim_trim⟩

theorem length_join_cons (first : Text) (rest : List Text) :
    (join (first :: rest)).length =
      first.length + if rest = [] then 0 else (join rest).length + 1 := by
  cases rest with
  | nil => rfl
  | cons next rest =>
      have hcomma : (Text.ofString ",").length = 1 := rfl
      rw [join, Text.join, List.length_append, List.length_append, hcomma,
        if_neg (List.cons_ne_nil _ _), ← join, Nat.add_assoc, Nat.add_comm 1]

/-- Reading a list and writing it again makes its text no longer. -/
theorem length_join_split_le (text : Text) :
    (join (split text)).length ≤ text.length := by
  have hpieces : ∀ pieces : List Text,
      (join ((pieces.map Text.trim).filter fun element =>
          element ≠ [])).length ≤
        (join pieces).length := by
    intro pieces
    induction pieces with
    | nil => exact Nat.le_refl 0
    | cons first rest ih =>
        have hfirst := first.trim_infix.length_le
        rw [length_join_cons, List.map_cons, List.filter_cons]
        split
        · rw [length_join_cons]
          by_cases hrest : rest = []
          · subst hrest
            exact Nat.add_le_add_right hfirst 0
          · rw [if_neg hrest]
            split <;> omega
        · by_cases hrest : rest = []
          · subst hrest
            exact Nat.zero_le _
          · rw [if_neg hrest]
            omega
  calc (join (split text)).length ≤ (join (text.splitOn 44)).length := hpieces _
    _ = text.length := by rw [join_splitOn]

end Elements

end GenKill
