import Offside.Token

/-! A supply hands out items one after another. Each item leaves fewer to come, so that a supply runs
dry, and then it stays as it is. -/

namespace Offside

universe u

class Supply (σ : Type u) where
  next : σ → Option Item × σ
  /-- A bound on the items that are still to come. -/
  remaining : σ → Nat
  remaining_next_lt {supply later : σ} {item : Item} :
    next supply = (some item, later) → remaining later < remaining supply
  next_dry {supply last : σ} : next supply = (none, last) → next last = (none, last)

namespace Supply

variable {σ : Type u} [Supply σ]

/-- All items, and the supply after the last of them. -/
def drain (supply : σ) : List Item × σ :=
  match _step : next supply with
  | (none, last) => ([], last)
  | (some item, later) =>
    let (items, last) := drain later
    (item :: items, last)
termination_by remaining supply
decreasing_by exact remaining_next_lt _step

def items (supply : σ) : List Item := (drain supply).1

theorem drain_of_next_none {supply last : σ} (step : next supply = (none, last)) :
    drain supply = ([], last) := by
  rw [drain]
  split <;> simp_all

theorem drain_of_next_some {supply later : σ} {item : Item} (step : next supply = (some item, later)) :
    drain supply = (item :: (drain later).1, (drain later).2) := by
  rw [drain]
  split <;> simp_all

/-- Pulling takes the first of the items that are to come, and leaves the others. -/
theorem items_next (supply : σ) :
    (next supply).1 = (items supply).head? ∧ items (next supply).2 = (items supply).tail := by
  cases step : next supply with
  | mk item later =>
    cases item with
    | none =>
      rw [items, items, drain_of_next_none step, drain_of_next_none (next_dry step)]
      exact ⟨rfl, rfl⟩
    | some item =>
      rw [items, items, drain_of_next_some step]
      exact ⟨rfl, rfl⟩

end Supply

/-- The next of some items that are at hand. -/
def takeItem : List Item → Option Item × List Item
  | [] => (none, [])
  | item :: items => (some item, items)

private theorem length_takeItem_lt {items later : List Item} {item : Item}
    (step : takeItem items = (some item, later)) : later.length < items.length := by
  cases items with
  | nil => cases step
  | cons first rest =>
    cases step
    exact Nat.lt_succ_self _

private theorem takeItem_dry {items last : List Item} (step : takeItem items = (none, last)) :
    takeItem last = (none, last) := by
  cases items with
  | nil =>
    cases step
    rfl
  | cons first rest => cases step

instance : Supply (List Item) where
  next := takeItem
  remaining := List.length
  remaining_next_lt := length_takeItem_lt
  next_dry := takeItem_dry

@[simp] theorem Supply.items_list (items : List Item) : Supply.items items = items := by
  induction items with
  | nil => exact congrArg Prod.fst (Supply.drain_of_next_none rfl)
  | cons item items ih =>
    have step : Supply.next (item :: items) = (some item, items) := rfl
    rw [Supply.items, Supply.drain_of_next_some step]
    exact congrArg (item :: ·) ih

end Offside
