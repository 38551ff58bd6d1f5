import Offside.Memory

/-! A stack that keeps only its newest items. Pushing onto a full stack forgets the oldest item, and a
stack of capacity zero keeps nothing. Memory for a full stack is set aside when the stack is made. -/

namespace Offside

/-- Items are held oldest first: new ones come in at the back, and forgotten ones leave at the front. -/
structure Recent (α : Type) where
  capacity : Nat
  held : List α
  bounded : held.length ≤ capacity

namespace Recent

variable {α : Type}

def empty (capacity : Nat) : Recent α := ⟨capacity, [], Nat.zero_le _⟩

/-- What one item takes of the memory, in bytes. -/
def itemSize : Nat := 32

/-- Sets memory aside for a full stack. -/
def reserve (capacity : Nat) : Except Memory.Shortage Unit := Memory.reserve capacity itemSize

/-- An empty stack, if memory has room for a full one. -/
def create (capacity : Nat) : Except Memory.Shortage (Recent α) := do
  reserve capacity
  return empty capacity

/-- What stays when one more item comes in: a full stack forgets its oldest item. -/
def kept (recent : Recent α) : List α :=
  if recent.held.length = recent.capacity then recent.held.tail else recent.held

private theorem length_kept_lt (recent : Recent α) (room : recent.capacity ≠ 0) :
    recent.kept.length < recent.capacity := by
  have bounded := recent.bounded
  unfold kept
  split
  · rw [List.length_tail]
    omega
  · omega

private theorem length_push_le (a : α) (recent : Recent α) (room : recent.capacity ≠ 0) :
    (recent.kept ++ [a]).length ≤ recent.capacity := by
  rw [List.length_append]
  exact recent.length_kept_lt room

def push (a : α) (recent : Recent α) : Recent α :=
  if room : recent.capacity = 0 then recent
  else ⟨recent.capacity, recent.kept ++ [a], recent.length_push_le a room⟩

private theorem length_pop_le (recent : Recent α) :
    recent.held.dropLast.length ≤ recent.capacity := by
  have bounded := recent.bounded
  rw [List.length_dropLast]
  omega

def pop (recent : Recent α) : Option α × Recent α :=
  (recent.held.getLast?, ⟨recent.capacity, recent.held.dropLast, recent.length_pop_le⟩)

def size (recent : Recent α) : Nat := recent.held.length

/-- The item that was pushed `n` items before the newest one. -/
def peek (n : Nat) (recent : Recent α) : Option α :=
  if n < recent.size then recent.held[recent.size - 1 - n]? else none

def isEmpty (recent : Recent α) : Bool := recent.held.isEmpty

/-- The items from the newest to the oldest. -/
def items (recent : Recent α) : List α := recent.held.reverse

@[simp] theorem items_empty (capacity : Nat) : (empty capacity : Recent α).items = [] := rfl

@[simp] theorem capacity_push (a : α) (recent : Recent α) :
    (recent.push a).capacity = recent.capacity := by
  unfold push
  split <;> rfl

/-- Newest first, a push puts an item in front and cuts off what there is no room for. -/
@[simp] theorem items_push (a : α) (recent : Recent α) :
    (recent.push a).items = (a :: recent.items).take recent.capacity := by
  have bounded := recent.bounded
  unfold push
  split
  · rename_i zero
    have nothing : recent.held = [] := List.eq_nil_of_length_eq_zero (by omega)
    rw [zero, items, nothing]
    rfl
  · rename_i room
    obtain ⟨n, size⟩ := Nat.exists_eq_succ_of_ne_zero room
    rw [items, List.reverse_append, List.reverse_singleton, List.singleton_append, size,
      List.take_succ_cons, kept, items, List.take_reverse]
    split
    · rename_i full
      have one : recent.held.length - n = 1 := by omega
      rw [one, List.drop_one]
    · have none : recent.held.length - n = 0 := by omega
      rw [none, List.drop_zero]

theorem items_pop (recent : Recent α) :
    recent.pop.1 = recent.items.head? ∧ recent.pop.2.items = recent.items.tail := by
  rw [items, List.head?_reverse, List.tail_reverse]
  exact ⟨rfl, rfl⟩

theorem peek_eq (n : Nat) (recent : Recent α) : recent.peek n = recent.items[n]? := by
  unfold peek
  split
  · rename_i inside
    exact (List.getElem?_reverse inside).symm
  · rename_i outside
    rw [List.getElem?_eq_none]
    rw [items, List.length_reverse]
    exact Nat.le_of_not_lt outside

end Recent

end Offside
