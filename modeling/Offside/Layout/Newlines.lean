import Offside.Token.View

/-! The second stage of layout drops every newline that cannot end a statement: at the start and the
end of the stream, next to a bracket or a comma, before another newline, and inside parentheses. -/

namespace Offside.Layout

/-- A newline directly after one of these ends nothing. -/
def noNewlineAfter : List Kind := [.opening .square, .opening .curly, .comma]

/-- A newline directly before one of these ends nothing. -/
def noNewlineBefore : List Kind := [.newline, .closing .square, .closing .curly, .comma]

/-- The open brackets after a token, innermost first. A closing bracket that does not fit the
innermost open one is ignored. -/
def trackBracket (kind : Kind) (opened : List Bracket) : List Bracket :=
  match kind, opened with
  | .opening bracket, _ => bracket :: opened
  | .closing bracket, inner :: outer => if inner = bracket then outer else opened
  | _, _ => opened

/-- Whether a newline between these two tokens ends nothing. -/
def isElided (before after : Option Kind) (opened : List Bracket) : Bool :=
  match before, after with
  | some before, some after =>
    noNewlineAfter.contains before || noNewlineBefore.contains after ||
      opened.head? == some .round
  | _, _ => true

structure Newlines (σ : Type) where
  view : View σ
  /-- The open brackets, innermost first. -/
  opened : List Bracket

namespace Newlines

variable {σ : Type} [Supply σ]

def onto (inner : σ) (window : Nat) : Newlines σ := ⟨.onto inner window, []⟩

/-- The next item that is no newline, or a newline that can end a statement. -/
def next (stage : Newlines σ) : Option Item × Newlines σ :=
  match _step : stage.view.next with
  | (none, last) => (none, { stage with view := last })
  | (some (.error fault), later) => (some (.error fault), { stage with view := later })
  | (some (.ok token), later) =>
    if token.kind = .newline then
      let looked := later.lookAhead 0
      if isElided (later.lookBack 1) looked.1 stage.opened then next { stage with view := looked.2 }
      else (some (.ok token), { stage with view := looked.2 })
    else (some (.ok token), ⟨later, trackBracket token.kind stage.opened⟩)
termination_by stage.view.remaining
decreasing_by exact Nat.lt_of_le_of_lt (View.remaining_fill_le 1 _) (View.remaining_next_lt _step)

theorem remaining_lookAhead_lt {view later : View σ} {item : Item}
    (pull : view.next = (some item, later)) : (later.lookAhead 0).2.remaining < view.remaining :=
  Nat.lt_of_le_of_lt (View.remaining_fill_le 1 _) (View.remaining_next_lt pull)

theorem remaining_next_lt {stage later : Newlines σ} {item : Item}
    (step : stage.next = (some item, later)) : later.view.remaining < stage.view.remaining := by
  fun_induction next stage with
  | case1 stage last pull => simp at step
  | case2 stage fault rest pull =>
    cases step
    exact View.remaining_next_lt pull
  | case3 stage token rest pull newline looked elided ih =>
    exact Nat.lt_trans (ih step) (remaining_lookAhead_lt pull)
  | case4 stage token rest pull newline looked kept =>
    cases step
    exact remaining_lookAhead_lt pull
  | case5 stage token rest pull other =>
    cases step
    exact View.remaining_next_lt pull

theorem next_dry {stage last : Newlines σ} (step : stage.next = (none, last)) :
    last.next = (none, last) := by
  fun_induction next stage with
  | case1 stage drained pull =>
    cases step
    rw [next]
    split <;> simp_all [View.next_dry pull]
  | case2 stage fault rest pull => simp at step
  | case3 stage token rest pull newline looked elided ih => exact ih step
  | case4 stage token rest pull newline looked kept => simp at step
  | case5 stage token rest pull other => simp at step

instance : Supply (Newlines σ) where
  next := next
  remaining stage := stage.view.remaining
  remaining_next_lt := remaining_next_lt
  next_dry := next_dry

end Newlines

/-- The items without the newlines that end nothing. -/
def dropNewlines (window : Nat) (items : List Item) : List Item :=
  Supply.items (Newlines.onto items window)

end Offside.Layout
