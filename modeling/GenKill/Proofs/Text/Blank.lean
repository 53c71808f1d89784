import GenKill.Proofs.Text
import GenKill.Text.Blank
import Mathlib.Data.List.DropRight

/-!
# Trimming

A text is some blanks, what is left of it when it is trimmed, and some blanks
again.  What is left neither starts nor ends with a blank, and no other part of
the text is like that.  Stray bytes count as characters that are not blank.
-/

namespace GenKill.Text

/-- There is no blank at either end of the text. -/
structure Tight (text : Text) : Prop where
  head : ∀ glyph ∈ text.glyphs.head?, glyph.isBlank = false
  last : ∀ glyph ∈ text.glyphs.getLast?, glyph.isBlank = false

/-- The text is an element with blanks around it. -/
def Pads (text element : Text) : Prop :=
  ∃ before after : List Glyph,
    text.glyphs = before ++ (element.glyphs ++ after) ∧
      (∀ glyph ∈ before, glyph.isBlank = true) ∧ ∀ glyph ∈ after,
        glyph.isBlank = true

theorem tight_nil : Tight [] := ⟨by simp, by simp⟩

theorem pads_self (text : Text) : text.Pads text :=
  ⟨[], [], by simp, by simp, by simp⟩

theorem pads_nil_iff (text : Text) :
    text.Pads [] ↔ ∀ glyph ∈ text.glyphs, glyph.isBlank = true := by
  constructor
  · rintro ⟨before, after, hglyphs, hbefore, hafter⟩
    rw [hglyphs, glyphs_nil, List.nil_append]
    exact List.forall_mem_append.mpr ⟨hbefore, hafter⟩
  · intro hblank
    exact ⟨text.glyphs, [], by simp, hblank, by simp⟩

theorem trim_eq (text : Text) :
    text.trim =
      ofGlyphs ((text.glyphs.dropWhile Glyph.isBlank).rdropWhile
        Glyph.isBlank) := rfl

theorem trimmed_infix (text : Text) :
    (text.glyphs.dropWhile Glyph.isBlank).rdropWhile Glyph.isBlank <:+:
      text.glyphs :=
  (List.rdropWhile_prefix _ _).isInfix.trans (List.dropWhile_suffix _).isInfix

/-- Trimming cuts off both ends. -/
theorem trim_infix (text : Text) : text.trim <:+: text := by
  have hpart := ofGlyphs_infix text.trimmed_infix
  rwa [ofGlyphs_glyphs, ← trim_eq] at hpart

theorem glyphs_trim (text : Text) :
    text.trim.glyphs =
      (text.glyphs.dropWhile Glyph.isBlank).rdropWhile Glyph.isBlank :=
  glyphs_ofGlyphs_of_infix text.trimmed_infix

theorem tight_trim (text : Text) : text.trim.Tight where
  head glyph hglyph := by
    rw [glyphs_trim] at hglyph
    let started := text.glyphs.dropWhile Glyph.isBlank
    -- what is cut off at the end leaves the first glyph as it is
    have hstart : started.head? = some glyph := by
      obtain ⟨cut, hcut⟩ := List.rdropWhile_prefix Glyph.isBlank started
      rw [← hcut, List.head?_append, hglyph, Option.some_or]
    have hnot := List.head?_dropWhile_not Glyph.isBlank text.glyphs
    rwa [hstart] at hnot
  last glyph hglyph := by
    rw [glyphs_trim] at hglyph
    obtain ⟨hne, rfl⟩ := List.mem_getLast?_eq_getLast hglyph
    exact eq_false_of_ne_true (List.rdropWhile_last_not _ _ hne)

/-- What is trimmed off are blanks. -/
theorem pads_trim (text : Text) : text.Pads text.trim := by
  refine ⟨text.glyphs.takeWhile Glyph.isBlank,
    (text.glyphs.dropWhile Glyph.isBlank).rtakeWhile Glyph.isBlank, ?_,
    fun _ => List.mem_takeWhile_imp, fun _ => List.mem_rtakeWhile_imp⟩
  rw [glyphs_trim, List.rdropWhile_append_rtakeWhile,
    List.takeWhile_append_dropWhile]

theorem Tight.rdropWhile_eq {element : Text} (htight : element.Tight)
    {after : List Glyph} (hafter : ∀ glyph ∈ after, glyph.isBlank = true) :
    (element.glyphs ++ after).rdropWhile Glyph.isBlank = element.glyphs := by
  have hself : element.glyphs.rdropWhile Glyph.isBlank = element.glyphs := by
    rw [List.rdropWhile_eq_self_iff]
    intro hne
    exact ne_true_of_eq_false
      (htight.last _ (List.getLast?_eq_some_getLast hne))
  rw [List.rdropWhile, List.reverse_append, List.dropWhile_append_of_pos,
    ← List.rdropWhile, hself]
  exact fun glyph hmem => hafter glyph (List.mem_reverse.mp hmem)

theorem Tight.dropWhile_eq {element : Text} (htight : element.Tight)
    (hne : element.glyphs ≠ []) (after : List Glyph) :
    (element.glyphs ++ after).dropWhile Glyph.isBlank =
      element.glyphs ++ after := by
  obtain ⟨first, rest, hfirst⟩ := List.exists_cons_of_ne_nil hne
  have hblank : first.isBlank = false := htight.head first (by rw [hfirst]; rfl)
  rw [hfirst, List.cons_append,
    List.dropWhile_cons_of_neg (ne_true_of_eq_false hblank)]

/-- Trimming takes off the padding, and nothing of an element without blanks at
its ends. -/
theorem Pads.trim_eq {text element : Text} (hpads : text.Pads element)
    (htight : element.Tight) : text.trim = element := by
  obtain ⟨before, after, hglyphs, hbefore, hafter⟩ := hpads
  apply glyphs_injective
  rw [glyphs_trim, hglyphs, List.dropWhile_append_of_pos hbefore]
  by_cases hempty : element.glyphs = []
  · -- the blanks on both sides meet
    rw [hempty, List.nil_append, List.dropWhile_eq_nil_iff.mpr hafter,
      List.rdropWhile_nil]
  · rw [htight.dropWhile_eq hempty, htight.rdropWhile_eq hafter]

/-- Trimming finds the part of a text that has only blanks around it and none at
its ends. -/
theorem trim_eq_iff {text element : Text} :
    text.trim = element ↔ text.Pads element ∧ element.Tight := by
  constructor
  · rintro rfl
    exact ⟨text.pads_trim, text.tight_trim⟩
  · rintro ⟨hpads, htight⟩
    exact hpads.trim_eq htight

/-- Trimming leaves no blank at either end. -/
theorem trim_trim (text : Text) : text.trim.trim = text.trim :=
  trim_eq_iff.mpr ⟨text.trim.pads_self, text.tight_trim⟩

end GenKill.Text
