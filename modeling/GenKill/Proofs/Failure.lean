import GenKill.Error
import Mathlib.Data.List.Forall2

/-!
# Failures

What is read item by item is refused at the first item that is wrong.  Two
results are compared by their failures and their values.
-/

namespace GenKill

/-- A result can be looked at by running what gives it. -/
theorem exists_ok_of_any {ε α : Type} (result : Except ε α)
    (property : α → Prop) [DecidablePred property]
    (hany : (result.toOption.any fun value => decide (property value)) = true) :
    ∃ value, result = .ok value ∧ property value := by
  cases result with
  | error error => cases hany
  | ok value => exact ⟨value, rfl, of_decide_eq_true hany⟩

theorem not_exists_of_eq_error {α : Type} {result : Except Error α}
    {error : Error} (herror : result = .error error) :
    ¬ ∃ value, result = .ok value := by
  rintro ⟨value, hok⟩
  cases herror.symm.trans hok

/-- Two results that are failures of one kind, or values that are related. -/
inductive Paired {ε α β : Type} (related : α → β → Prop) :
    Except ε α → Except ε β → Prop where
  | error (failure : ε) : Paired related (.error failure) (.error failure)
  | ok {left : α} {right : β} (hrelated : related left right) :
      Paired related (.ok left) (.ok right)

namespace Paired

variable {ε α β : Type} {related : α → β → Prop}

theorem mapError {δ : Type} {left : Except ε α} {right : Except ε β}
    (hpaired : Paired related left right) (change : ε → δ) :
    Paired related (left.mapError change) (right.mapError change) := by
  cases hpaired with
  | error failure => exact .error (change failure)
  | ok hrelated => exact .ok hrelated

/-- What is paired with a success is a success, with a related value. -/
theorem exists_ok {left : Except ε α} {value : β}
    (hpaired : Paired related left (.ok value)) :
    ∃ other, left = .ok other ∧ related other value := by
  cases hpaired with
  | ok hrelated => exact ⟨_, rfl, hrelated⟩

theorem eq_error {left : Except ε α} {failure : ε}
    (hpaired : Paired related left (.error failure)) :
    left = .error failure := by
  cases hpaired with
  | error failure => rfl

end Paired

/-- The first item of a list of which something does not hold. -/
inductive FirstFailing {α : Type} (holds : α → Prop) : List α → α → Prop
  | head {item : α} {rest : List α} (hfails : ¬ holds item) :
      FirstFailing holds (item :: rest) item
  | cons {first item : α} {rest : List α} (hholds : holds first)
      (hlater : FirstFailing holds rest item) :
      FirstFailing holds (first :: rest) item

namespace FirstFailing

variable {α β : Type} {holds : α → Prop} {items : List α} {item : α}

theorem mem (hfirst : FirstFailing holds items item) : item ∈ items := by
  induction hfirst with
  | head _ => exact List.mem_cons_self
  | cons _ _ ih => exact List.mem_cons_of_mem _ ih

theorem fails (hfirst : FirstFailing holds items item) : ¬ holds item := by
  induction hfirst with
  | head hfails => exact hfails
  | cons _ _ ih => exact ih

theorem not_forall (hfirst : FirstFailing holds items item) :
    ¬ ∀ item ∈ items, holds item :=
  fun hall => hfirst.fails (hall item hfirst.mem)

/-- There is only one first item that fails. -/
theorem unique {other : α} (hfirst : FirstFailing holds items item)
    (hother : FirstFailing holds items other) : item = other := by
  induction hfirst with
  | head hfails =>
      cases hother with
      | head _ => rfl
      | cons hholds _ => exact absurd hholds hfails
  | cons hholds _ ih =>
      cases hother with
      | head hfails => exact absurd hholds hfails
      | cons _ hlater => exact ih hlater

/-- Lists whose items correspond to each other fail first at items that do. -/
theorem of_forall₂ {related : α → β → Prop} {other : β → Prop} {others : List β}
    (hfirst : FirstFailing holds items item)
    (hrelated : List.Forall₂ related items others)
    (hiff : ∀ left right, related left right → (holds left ↔ other right)) :
    ∃ found, related item found ∧ FirstFailing other others found := by
  induction hfirst generalizing others with
  | head hfails =>
      obtain _ | ⟨hhead, -⟩ := hrelated
      exact ⟨_, hhead, .head (mt (hiff _ _ hhead).mpr hfails)⟩
  | cons hholds _ ih =>
      obtain _ | ⟨hhead, htail⟩ := hrelated
      obtain ⟨found, hfound, hlater⟩ := ih htail
      exact ⟨found, hfound, .cons ((hiff _ _ hhead).mp hholds) hlater⟩

end FirstFailing

end GenKill
