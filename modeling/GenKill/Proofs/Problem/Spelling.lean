import GenKill.Proofs.Problem.Carried

/-!
# What a text lists

The elements of a list stand in slots with commas between them.  Blanks around
an element do not count, and neither do slots without an element.  Reading a
text gives exactly the elements that this grammar finds in it.

A list comes back from its own text exactly if each of its elements passes the
check that a problem makes of its universe.  A problem is therefore refused for
an element of its universe exactly if the universe would be another one after it
was recorded at the graph.
-/

namespace GenKill

namespace Elements

/-- A slot has only blanks, or one element with blanks around it. -/
inductive Slot : Text → List Text → Prop
  | blank {slot : Text} (hblank : ∀ glyph ∈ slot.glyphs, glyph.isBlank = true) :
      Slot slot []
  | element {slot element : Text} (hpads : slot.Pads element)
      (htight : element.Tight) (hne : element ≠ []) : Slot slot [element]

/-- The elements that stand in the slots of a text. -/
inductive Spells : Text → List Text → Prop
  | last {slot : Text} {own : List Text} (hcomma : Text.byte ',' ∉ slot)
      (hslot : Slot slot own) : Spells slot own
  | comma {slot rest : Text} {own elements : List Text}
      (hcomma : Text.byte ',' ∉ slot)
      (hslot : Slot slot own) (hrest : Spells rest elements) :
      Spells (slot ++ Text.byte ',' :: rest) (own ++ elements)

/-- A comma separates two lists. -/
theorem split_append_comma (left right : Text) :
    split (left ++ Text.byte ',' :: right) = split left ++ split right := by
  simp only [split, Text.splitOn_eq, List.splitOn_append_cons_self,
    List.map_append, List.filter_append]

theorem split_of_not_mem {slot : Text} (hcomma : Text.byte ',' ∉ slot) :
    split slot = if slot.trim = [] then [] else [slot.trim] := by
  rw [split, Text.splitOn_eq, List.splitOn_eq_singleton hcomma,
    List.map_singleton]
  by_cases hempty : slot.trim = [] <;> simp [hempty]

/-- A slot has the elements that are read from it. -/
theorem slot_iff {slot : Text} (hcomma : Text.byte ',' ∉ slot)
    (own : List Text) : Slot slot own ↔ split slot = own := by
  rw [split_of_not_mem hcomma]
  constructor
  · rintro (hblank | ⟨hpads, htight, hne⟩)
    · have hempty : slot.trim = [] :=
        Text.trim_eq_iff.mpr ⟨slot.pads_nil_iff.mpr hblank, Text.tight_nil⟩
      rw [if_pos hempty]
    · rw [Text.trim_eq_iff.mpr ⟨hpads, htight⟩, if_neg hne]
  · rintro rfl
    by_cases hempty : slot.trim = []
    · rw [if_pos hempty]
      exact .blank (slot.pads_nil_iff.mp (Text.trim_eq_iff.mp hempty).1)
    · obtain ⟨hpads, htight⟩ := Text.trim_eq_iff.mp (Eq.refl slot.trim)
      rw [if_neg hempty]
      exact .element hpads htight hempty

/-- The elements in the slots are read in order. -/
theorem Spells.split_eq {text : Text} {elements : List Text}
    (hspells : Spells text elements) : split text = elements := by
  induction hspells with
  | last hcomma hslot => exact (slot_iff hcomma _).mp hslot
  | comma hcomma hslot _ ih => rw [split_append_comma,
    (slot_iff hcomma _).mp hslot, ih]

/-- What is read from a text stands in its slots. -/
theorem spells_split (text : Text) : Spells text (split text) := by
  -- behind the first comma of a text stands a shorter one
  induction hlength : text.length using Nat.strong_induction_on
      generalizing text with
  | _ length ih =>
      by_cases hcomma : Text.byte ',' ∈ text
      · obtain ⟨slot, rest, rfl, hslot⟩ := List.eq_append_cons_of_mem hcomma
        have hshorter : rest.length < length := by
          rw [← hlength, List.length_append, List.length_cons]
          omega
        rw [split_append_comma]
        exact .comma hslot ((slot_iff hslot _).mpr rfl) (ih _ hshorter rest rfl)
      · exact .last hcomma ((slot_iff hcomma _).mpr rfl)

theorem split_eq_iff {text : Text} {elements : List Text} :
    split text = elements ↔ Spells text elements := by
  constructor
  · rintro rfl
    exact spells_split text
  · exact Spells.split_eq

/-- The other direction of `split_join`: what comes back has been read from a
text. -/
theorem split_join_iff {elements : List Text} :
    split (join elements) = elements ↔
      ∀ element ∈ elements, isListable element = true := by
  constructor
  · intro hback element hmem
    rw [← hback] at hmem
    exact isListable_of_mem_split hmem
  · exact split_join

end Elements

namespace Problem

theorem declaredElements_annotatedGraph (problem : Problem)
    (shown : Option System) :
    declaredElements (problem.annotatedGraph shown) =
      Elements.split (Elements.join problem.facts.elements) :=
  declaredElements_of_some (problem.records_annotatedGraph shown).elements

/-- Reading a text gives the elements that the grammar of lists finds in it.
They are not empty, have no comma and no blank at their ends, and come back from
the text that lists them.  Any list comes back from its text exactly if all of
its elements are listable.  A problem is refused for the first element of its
universe that is not, and not refused for such an element exactly if its
universe can be read again where it is recorded. -/
theorem listing_exact (text : Text) (elements : List Text) :
    (∀ element ∈ Elements.split text,
        element ≠ [] ∧ Text.byte ',' ∉ element ∧ element.trim = element) ∧
      Elements.split (Elements.join (Elements.split text)) =
        Elements.split text ∧
      (Elements.split text = elements ↔ Elements.Spells text elements) ∧
      (Elements.split (Elements.join elements) = elements ↔
        ∀ element ∈ elements, Elements.isListable element = true) ∧
      ∀ (problem : Problem) (shown : Option System),
        (∀ element, problem.system = .error (.invalidElement element) ↔
          FirstFailing (Elements.isListable · = true) problem.facts.elements
            element) ∧
        (declaredElements (problem.annotatedGraph shown) =
            problem.facts.elements ↔
          ∀ element, problem.system ≠ .error (.invalidElement element)) := by
  have hlistable : ∀ element ∈ Elements.split text,
      Elements.isListable element = true :=
    fun _ => Elements.isListable_of_mem_split
  refine ⟨?_, Elements.split_join hlistable, Elements.split_eq_iff,
    Elements.split_join_iff, ?_⟩
  · intro element hmem
    exact (Elements.isListable_iff element).mp (hlistable element hmem)
  · intro problem shown
    refine ⟨problem.system_eq_invalidElement_iff, ?_⟩
    rw [problem.declaredElements_annotatedGraph,
      problem.forall_system_ne_invalidElement_iff, Elements.split_join_iff]

/-- Blanks of several kinds, slots without an element, and a stray byte that is
a blank in other encodings only. -/
def ragged : Text := Text.ofString "\u2003x y\u00a0,\u3000 ,," ++ [0xa0, 44]

/-- One element of the universe ends in a blank, and another one has a comma. -/
def frayed : Problem where
  name := "p"
  graph :=
    { ident := 0, nodes := [{ name := "a", label := "" }],
      labels_distinct := by decide }
  facts := ⟨1, ["x", "y ", "v,w"], by decide⟩

theorem listing_exact_ragged :
    (Text.ofString "x y" ∈ Elements.split ragged ∧ Text.ofString "x y" ≠ [] ∧
      Text.byte ',' ∉ Text.ofString "x y" ∧
      (Text.ofString "x y").trim = "x y") ∧
    Elements.split (Elements.join (Elements.split ragged)) =
      Elements.split ragged ∧
    Elements.Spells ragged [Text.ofString "x y", [0xa0]] ∧
    Elements.split (Elements.join frayed.facts.elements) ≠
      frayed.facts.elements ∧
    frayed.system = .error (.invalidElement "y ") ∧
    declaredElements (frayed.annotatedGraph none) ≠ frayed.facts.elements := by
  have hsplit : Elements.split ragged = [Text.ofString "x y", [0xa0]] := by
    decide +kernel
  have hmem : Text.ofString "x y" ∈ Elements.split ragged := by
    rw [hsplit]
    exact List.mem_cons_self
  have hfirst : Elements.isListable "x" = true := by decide +kernel
  have hsecond : ¬ Elements.isListable "y " = true := by decide +kernel
  have hlater : Text.ofString "y " ∈ frayed.facts.elements := .tail _ (.head _)
  obtain ⟨hparts, hagain, -, hback, hproblem⟩ :=
    listing_exact ragged frayed.facts.elements
  obtain ⟨hsystem, hdeclared⟩ := hproblem frayed none
  have hrefused : frayed.system = .error (.invalidElement "y ") :=
    (hsystem "y ").mpr (.cons hfirst (.head hsecond))
  refine ⟨⟨hmem, hparts _ hmem⟩, hagain, ?_, ?_, hrefused, ?_⟩
  · exact (listing_exact ragged [Text.ofString "x y", [0xa0]]).2.2.1.mp hsplit
  · exact fun heq => hsecond (hback.mp heq _ hlater)
  · exact fun heq => hdeclared.mp heq "y " hrefused

end Problem

end GenKill
