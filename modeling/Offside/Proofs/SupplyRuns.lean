import Offside.Token.Supply

/-! Runs of a supply. What it hands out pull by pull is the list of its items, and after them nothing,
however often it is asked. To know that list it is enough to know, of every state that can be reached,
what is left there and that a pull takes the first of it. -/

namespace Offside

universe u

/-- What the pull after `n` others yields. -/
def pulled {σ : Type u} (next : σ → Option Item × σ) : Nat → σ → Option Item
  | 0, state => (next state).1
  | n + 1, state => pulled next n (next state).2

namespace Supply

variable {σ : Type u} [Supply σ]

/-- The supply after a number of pulls. -/
def after : Nat → σ → σ
  | 0, supply => supply
  | n + 1, supply => after n (next supply).2

theorem pulled_eq (n : Nat) (supply : σ) : pulled next n supply = (items supply)[n]? := by
  induction n generalizing supply with
  | zero => rw [pulled, (items_next supply).1, List.head?_eq_getElem?]
  | succ n ih => rw [pulled, ih, (items_next supply).2, List.getElem?_tail]

theorem items_after (n : Nat) (supply : σ) : items (after n supply) = (items supply).drop n := by
  induction n generalizing supply with
  | zero => rfl
  | succ n ih => rw [after, ih, (items_next supply).2, List.drop_tail]

theorem items_of_next_none {supply last : σ} (step : next supply = (none, last)) :
    items supply = [] := by
  rw [items, drain_of_next_none step]

theorem items_of_next_some {supply later : σ} {item : Item} (step : next supply = (some item, later)) :
    items supply = item :: items later := by
  rw [items, drain_of_next_some step]
  rfl

theorem items_congr {first second : σ} (same : next first = next second) :
    items first = items second := by
  cases step : next second with
  | mk item later =>
    cases item with
    | none => rw [items_of_next_none step, items_of_next_none (same.trans step)]
    | some item => rw [items_of_next_some step, items_of_next_some (same.trans step)]

/-- What is left in every state that can be reached is handed out from there. -/
theorem items_eq_of_step (holds : σ → Prop) (left : σ → List Item)
    (step : ∀ supply, holds supply → (next supply).1 = (left supply).head? ∧
      holds (next supply).2 ∧ left (next supply).2 = (left supply).tail)
    {supply : σ} (start : holds supply) : items supply = left supply := by
  generalize listed : left supply = items
  induction items generalizing supply with
  | nil =>
    have none := (step supply start).1
    rw [listed] at none
    exact items_of_next_none (Prod.ext none rfl)
  | cons item rest ih =>
    obtain ⟨first, goesOn, others⟩ := step supply start
    rw [listed] at first others
    rw [items_of_next_some (Prod.ext first rfl), ih goesOn others]

end Supply

end Offside
