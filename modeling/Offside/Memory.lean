/-! Room in memory. What is set aside at once must not have more bytes than memory has addresses for,
and a request for more is refused. -/

namespace Offside.Memory

/-- The most bytes that can be set aside at once. -/
def largest : Nat := 0x7fffffffffffffff

/-- A refused request for a number of items, each of some bytes. -/
structure Shortage where
  count : Nat
  size : Nat
deriving DecidableEq, Repr

def Shortage.message (shortage : Shortage) : String :=
  "no room in memory for " ++ toString shortage.count ++ " items"

def reserve (count size : Nat) : Except Shortage Unit :=
  if count * size ≤ largest then .ok () else .error ⟨count, size⟩

theorem reserve_eq_ok_iff (count size : Nat) :
    reserve count size = .ok () ↔ count * size ≤ largest := by
  unfold reserve
  split <;> simp_all

end Offside.Memory
