import Offside.Token.View

/-! The first stage of layout drops blanks and comments. -/

namespace Offside.Layout

structure Trivia (σ : Type) where
  view : View σ

namespace Trivia

variable {σ : Type} [Supply σ]

def onto (inner : σ) (window : Nat) : Trivia σ := ⟨.onto inner window⟩

/-- The next item that is no trivia. -/
def next (stage : Trivia σ) : Option Item × Trivia σ :=
  match _step : stage.view.next with
  | (none, last) => (none, ⟨last⟩)
  | (some (.error fault), later) => (some (.error fault), ⟨later⟩)
  | (some (.ok token), later) =>
    if token.isTrivia then next ⟨later⟩ else (some (.ok token), ⟨later⟩)
termination_by stage.view.remaining
decreasing_by exact View.remaining_next_lt _step

theorem remaining_next_lt {stage later : Trivia σ} {item : Item}
    (step : stage.next = (some item, later)) : later.view.remaining < stage.view.remaining := by
  fun_induction next stage with
  | case1 stage last pull => simp at step
  | case2 stage fault rest pull =>
    cases step
    exact View.remaining_next_lt pull
  | case3 stage token rest pull trivia ih =>
    exact Nat.lt_trans (ih step) (View.remaining_next_lt pull)
  | case4 stage token rest pull solid =>
    cases step
    exact View.remaining_next_lt pull

theorem next_dry {stage last : Trivia σ} (step : stage.next = (none, last)) :
    last.next = (none, last) := by
  fun_induction next stage with
  | case1 stage drained pull =>
    cases step
    rw [next]
    split <;> simp_all [View.next_dry pull]
  | case2 stage fault rest pull => simp at step
  | case3 stage token rest pull trivia ih => exact ih step
  | case4 stage token rest pull solid => simp at step

instance : Supply (Trivia σ) where
  next := next
  remaining stage := stage.view.remaining
  remaining_next_lt := remaining_next_lt
  next_dry := next_dry

end Trivia

/-- The items without trivia. The stage does not look back, so that any window will do. -/
def dropTrivia (items : List Item) : List Item := Supply.items (Trivia.onto items 0)

end Offside.Layout
