import Offside.Queue
import Offside.Recent
import Offside.Token.Supply

/-! A view of a supply of items: a reading position that remembers the last tokens it handed out and can
look ahead as far as it likes. The window bounds what is remembered. -/

namespace Offside

structure View (σ : Type) where
  /-- What is read through the view. -/
  inner : σ
  behind : Recent Token
  ahead : Queue Token
  /-- An error that looking ahead came upon, and that is yet to be handed out. -/
  fault : Option LexError
  /-- The supply is known to have ended. -/
  ended : Bool

namespace View

variable {σ : Type}

/-- The current token and the one before it are always remembered. -/
def leastWindow : Nat := 2

def onto (inner : σ) (window : Nat) : View σ where
  inner := inner
  behind := Recent.empty (max window leastWindow)
  ahead := {}
  fault := none
  ended := false

/-- A view of a supply, if memory has room for its window. -/
def create (inner : σ) (window : Nat) : Except Memory.Shortage (View σ) := do
  Recent.reserve (max window leastWindow)
  return onto inner window

def window (view : View σ) : Nat := view.behind.capacity

/-- Hands out a token. -/
def record (token : Token) (view : View σ) : View σ := { view with behind := view.behind.push token }

/-- The kind of the token handed out `n` tokens before the last one. -/
def lookBack (n : Nat) (view : View σ) : Option Kind := (view.behind.peek n).map Token.kind

def isExhausted (view : View σ) : Bool := view.ended && view.ahead.isEmpty

/-- The end of the token before the current one, or of the current one at the end of the stream. -/
def lastPosition (view : View σ) : Nat :=
  let depth := if view.isExhausted then 0 else 1
  (((view.behind.peek depth).or (view.behind.peek 0)).map Token.stop).getD 0

/-- A token without text, where the last position is or at a given offset. -/
def pseudoToken (kind : Kind) (offset : Option Nat) (view : View σ) : Token :=
  .pseudo kind (offset.getD view.lastPosition)

variable [Supply σ]

/-- Takes the next item off the supply itself. -/
def read (view : View σ) : Option Item × View σ :=
  match Supply.next view.inner with
  | (some (.ok token), rest) => (some (.ok token), { view with inner := rest }.record token)
  | (some (.error fault), rest) => (some (.error fault), { view with inner := rest, ended := true })
  | (none, rest) => (none, { view with inner := rest, ended := true })

/-- The next item. An error is handed out once, and nothing after it. -/
def next (view : View σ) : Option Item × View σ :=
  match view.ahead.items with
  | token :: waiting => (some (.ok token), { view with ahead := ⟨waiting⟩ }.record token)
  | [] =>
    match view.fault with
    | some fault => (some (.error fault), { view with fault := none })
    | none => if view.ended then (none, view) else view.read

/-- Buffers tokens until `count` of them wait or the supply ends. -/
def fill (count : Nat) (view : View σ) : View σ :=
  if view.ahead.size < count ∧ !view.ended then
    match _step : Supply.next view.inner with
    | (some (.ok token), rest) =>
      { view with inner := rest, ahead := view.ahead.enqueue token }.fill count
    | (some (.error fault), rest) => { view with inner := rest, fault := some fault, ended := true }
    | (none, rest) => { view with inner := rest, ended := true }
  else view
termination_by Supply.remaining view.inner
decreasing_by exact Supply.remaining_next_lt _step

/-- The kind of the token that is handed out after `n` others. There is none from an error on. -/
def lookAhead (n : Nat) (view : View σ) : Option Kind × View σ :=
  let filled := view.fill (n + 1)
  ((filled.ahead.peek n).map Token.kind, filled)

/-- A bound on the items a view can still hand out. -/
def remaining (view : View σ) : Nat :=
  view.ahead.items.length + (if view.fault.isSome then 1 else 0) +
    if view.ended then 0 else Supply.remaining view.inner

private theorem remaining_read_lt {view later : View σ} {item : Item} (running : view.ended = false)
    (step : view.read = (some item, later)) : later.remaining < view.remaining := by
  unfold read at step
  split at step
  · rename_i token rest taken
    have less := Supply.remaining_next_lt taken
    simp only [Prod.mk.injEq] at step
    simp only [← step.2, remaining, record, running, Bool.false_eq_true, ↓reduceIte]
    omega
  · rename_i fault rest taken
    have less := Supply.remaining_next_lt taken
    simp only [Prod.mk.injEq] at step
    simp only [← step.2, remaining, running, Bool.false_eq_true, ↓reduceIte]
    omega
  · simp at step

theorem remaining_next_lt {view later : View σ} {item : Item}
    (step : view.next = (some item, later)) : later.remaining < view.remaining := by
  unfold next at step
  split at step
  · rename_i token waiting ahead
    simp only [Prod.mk.injEq] at step
    simp only [← step.2, remaining, record, ahead, List.length_cons]
    omega
  · rename_i ahead
    split at step
    · rename_i fault pending
      simp only [Prod.mk.injEq] at step
      simp [← step.2, remaining, pending]
    · split at step
      · simp at step
      · rename_i running
        exact remaining_read_lt (by simpa using running) step

theorem remaining_fill_le (count : Nat) (view : View σ) :
    (view.fill count).remaining ≤ view.remaining := by
  fun_induction fill count view with
  | case1 view wanted token rest taken ih =>
    have running : view.ended = false := by simpa using wanted.2
    have less := Supply.remaining_next_lt taken
    refine Nat.le_trans ih ?_
    simp only [remaining, running, Queue.items_enqueue, List.length_append, List.length_singleton,
      Bool.false_eq_true, ↓reduceIte]
    omega
  | case2 view wanted fault rest taken =>
    have running : view.ended = false := by simpa using wanted.2
    have less := Supply.remaining_next_lt taken
    simp only [remaining, running, Option.isSome_some, ↓reduceIte, Bool.false_eq_true]
    split <;> omega
  | case3 view wanted rest taken =>
    simp only [remaining, ↓reduceIte]
    omega
  | case4 => exact Nat.le_refl _

/-- A view that has nothing to hand out stays as it is, whatever its supply would do. -/
theorem next_dry {view last : View σ} (step : view.next = (none, last)) : last.next = (none, last) := by
  unfold next at step
  split at step
  · simp at step
  · rename_i ahead
    split at step
    · simp at step
    · rename_i clear
      split at step
      · rename_i ended
        simp only [Prod.mk.injEq, true_and] at step
        simp [← step, next, ahead, clear, ended]
      · unfold read at step
        split at step
        · simp at step
        · simp at step
        · simp only [Prod.mk.injEq, true_and] at step
          simp [← step, next, ahead, clear]

end View

end Offside
