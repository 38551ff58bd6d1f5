/-! A queue whose waiting items can be looked at without taking them. -/

namespace Offside

/-- Items are held in the order in which they leave. -/
structure Queue (α : Type) where
  items : List α := []

namespace Queue

variable {α : Type}

def enqueue (a : α) (queue : Queue α) : Queue α := ⟨queue.items ++ [a]⟩

def dequeue (queue : Queue α) : Option α × Queue α := (queue.items.head?, ⟨queue.items.tail⟩)

/-- The item that leaves after `n` others. -/
def peek (n : Nat) (queue : Queue α) : Option α := queue.items[n]?

def size (queue : Queue α) : Nat := queue.items.length

def isEmpty (queue : Queue α) : Bool := queue.items.isEmpty

@[simp] theorem items_enqueue (a : α) (queue : Queue α) :
    (queue.enqueue a).items = queue.items ++ [a] := rfl

end Queue

end Offside
