/-! What one statement becomes: a single statement, or several where several may stand. -/

namespace Offside

inductive Expansion (α : Type) where
  | single (item : α)
  | spread (items : List α)
deriving DecidableEq, Repr

namespace Expansion

variable {α : Type}

def isSpread : Expansion α → Bool
  | single _ => false
  | spread _ => true

def toList : Expansion α → List α
  | single item => [item]
  | spread items => items

/-- A spread of one item is a single item. -/
def normalize : Expansion α → Expansion α
  | spread [item] => single item
  | expansion => expansion

@[simp] theorem toList_normalize (expansion : Expansion α) :
    expansion.normalize.toList = expansion.toList := by
  unfold normalize
  split <;> rfl

end Expansion

end Offside
