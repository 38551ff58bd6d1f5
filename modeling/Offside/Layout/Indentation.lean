import Offside.Token.View

/-! The third stage of layout marks blocks. An indented block opens at a newline after a keyword that
opens blocks, and closes at the first newline of a smaller indentation. Braces shield the blocks
around them: a closing brace closes every indented block opened inside it. -/

namespace Offside.Layout

/-- Something that is open: an indented block of some width, or a brace. -/
inductive Level where
  | indented (width : Nat)
  | brace
deriving DecidableEq, Repr

/-- The indentation after a newline: the spaces and tabs at the end of its text. -/
def indentWidth (lexeme : List Char) : Nat :=
  (lexeme.reverse.takeWhile fun c => c == ' ' || c == '\t').length

/-- Closes the innermost blocks that are wider than `width`, and counts them. -/
def closeWider (width : Nat) : List Level → Nat × List Level
  | .indented level :: outer =>
    if width < level then
      let (closed, left) := closeWider width outer
      (closed + 1, left)
    else (0, .indented level :: outer)
  | levels => (0, levels)

/-- Closes the innermost blocks up to a brace and the brace, and counts the blocks. -/
def closeBrace : List Level → Nat × List Level
  | .indented _ :: outer =>
    let (closed, left) := closeBrace outer
    (closed + 1, left)
  | .brace :: outer => (0, outer)
  | [] => (0, [])

/-- The blocks among the open levels. -/
def openBlocks (levels : List Level) : Nat :=
  (levels.filter fun level => level != .brace).length

variable {σ : Type}

/-- What a token does to the open levels, innermost first, with the pseudo tokens it puts in front
of itself. The view stands after the token. -/
def mark (indenters : List Kind) (token : Token) (view : View σ) (levels : List Level) :
    List Token × List Level :=
  let dedents (count : Nat) := List.replicate count (view.pseudoToken .dedent none)
  match token.kind with
  | .opening .curly => ([], .brace :: levels)
  | .closing .curly =>
    if levels.contains .brace then
      let (closed, left) := closeBrace levels
      (dedents closed, left)
    else ([], levels)
  | .newline =>
    let width := indentWidth token.lexeme
    if (view.lookBack 1).any indenters.contains then
      ([view.pseudoToken .indent none], .indented width :: levels)
    else
      let (closed, left) := closeWider width levels
      (dedents closed, left)
  | _ => ([], levels)

/-- A block is marked twice, where it opens and where it closes. -/
private theorem openBlocks_closeBrace (levels : List Level) :
    (closeBrace levels).1 + openBlocks (closeBrace levels).2 = openBlocks levels := by
  induction levels with
  | nil => rfl
  | cons level outer ih =>
    cases level with
    | brace => exact Nat.zero_add _
    | indented width =>
      change (closeBrace outer).1 + 1 + openBlocks (closeBrace outer).2 = openBlocks outer + 1
      omega

private theorem openBlocks_closeWider (width : Nat) (levels : List Level) :
    (closeWider width levels).1 + openBlocks (closeWider width levels).2 = openBlocks levels := by
  induction levels with
  | nil => rfl
  | cons level outer ih =>
    cases level with
    | brace => exact Nat.zero_add _
    | indented level =>
      rw [closeWider]
      split
      · change (closeWider width outer).1 + 1 + openBlocks (closeWider width outer).2 =
          openBlocks outer + 1
        omega
      · exact Nat.zero_add _

private theorem length_mark_le (indenters : List Kind) (token : Token) (view : View σ)
    (levels : List Level) :
    (mark indenters token view levels).1.length + openBlocks (mark indenters token view levels).2 ≤
      openBlocks levels + 2 := by
  have braces := openBlocks_closeBrace levels
  have wider := openBlocks_closeWider (indentWidth token.lexeme) levels
  have opened : openBlocks (.indented (indentWidth token.lexeme) :: levels) = openBlocks levels + 1 := rfl
  have shielded : openBlocks (.brace :: levels) = openBlocks levels := rfl
  unfold mark
  dsimp only
  split
  · rw [List.length_nil, shielded]
    omega
  · split
    · simp only [List.length_replicate]
      omega
    · simp only [List.length_nil]
      omega
  · split
    · simp only [List.length_singleton, opened]
      omega
    · simp only [List.length_replicate]
      omega
  · simp only [List.length_nil]
    omega

structure Blocks (σ : Type) where
  view : View σ
  indenters : List Kind
  /-- What is open, innermost first. -/
  levels : List Level
  /-- Tokens that are marked and yet to be handed out. -/
  pending : Queue Token
  /-- Nothing more is read. -/
  finished : Bool

namespace Blocks

/-- The stage at a view, with some levels open there. -/
def ofView (indenters : List Kind) (view : View σ) (levels : List Level) : Blocks σ :=
  ⟨view, indenters, levels, {}, false⟩

def onto (inner : σ) (window : Nat) (indenters : List Kind) : Blocks σ :=
  .ofView indenters (.onto inner window) []

/-- Hands out the first token that is pending. -/
def release (stage : Blocks σ) : Option Item × Blocks σ :=
  let (token, pending) := stage.pending.dequeue
  (token.map .ok, { stage with pending })

/-- Takes a token off the view: what it marks is pending, and then the token. -/
def take (token : Token) (later : View σ) (stage : Blocks σ) : Blocks σ :=
  let (marks, levels) := mark stage.indenters token later stage.levels
  { stage with view := later, levels, pending := ⟨stage.pending.items ++ marks ++ [token]⟩ }

/-- At the end every open block closes. -/
def finish (last : View σ) (stage : Blocks σ) : Blocks σ :=
  let dedents := List.replicate (openBlocks stage.levels) (last.pseudoToken .dedent none)
  { stage with
    view := last
    levels := []
    pending := ⟨stage.pending.items ++ dedents⟩
    finished := true }

theorem release_none {stage last : Blocks σ} (step : stage.release = (none, last)) :
    stage.pending.items = [] ∧ last = stage := by
  obtain ⟨view, indenters, levels, ⟨pending⟩, finished⟩ := stage
  cases pending with
  | nil =>
    cases step
    exact ⟨rfl, rfl⟩
  | cons token pending => cases step

variable [Supply σ]

/-- The next item. At an error no block closes. -/
def next (stage : Blocks σ) : Option Item × Blocks σ :=
  if !stage.pending.isEmpty then stage.release
  else if stage.finished then (none, stage)
  else
    match stage.view.next with
    | (none, last) => (stage.finish last).release
    | (some (.error fault), later) =>
      (some (.error fault), { stage with view := later, finished := true })
    | (some (.ok token), later) => (stage.take token later).release

/-- A bound on the items that the stage can still hand out. -/
def remaining (stage : Blocks σ) : Nat :=
  stage.pending.items.length +
    if stage.finished then 0 else openBlocks stage.levels + 3 * stage.view.remaining

theorem remaining_release {stage later : Blocks σ} {item : Item}
    (step : stage.release = (some item, later)) : later.remaining + 1 = stage.remaining := by
  obtain ⟨view, indenters, levels, ⟨pending⟩, finished⟩ := stage
  cases pending with
  | nil => cases step
  | cons token pending =>
    cases step
    simp only [remaining, List.length_cons, List.tail_cons]
    omega

theorem remaining_next_lt {stage later : Blocks σ} {item : Item}
    (step : stage.next = (some item, later)) : later.remaining < stage.remaining := by
  unfold next at step
  split at step
  · exact Nat.lt_of_succ_le (Nat.le_of_eq (remaining_release step))
  · rename_i empty
    have nothing : stage.pending.items = [] := by simpa [Queue.isEmpty] using empty
    split at step
    · simp at step
    · rename_i running
      split at step
      · rename_i last pull
        have less := remaining_release step
        have closed : (stage.finish last).remaining ≤ stage.remaining := by
          simp only [finish, remaining, running, nothing, List.nil_append, List.length_replicate,
            List.length_nil, Bool.false_eq_true, ↓reduceIte]
          omega
        omega
      · rename_i fault rest pull
        cases step
        have less := View.remaining_next_lt pull
        simp only [remaining, running, nothing, List.length_nil, Bool.false_eq_true, ↓reduceIte]
        omega
      · rename_i token rest pull
        have less := remaining_release step
        have fewer := View.remaining_next_lt pull
        have marks := length_mark_le stage.indenters token rest stage.levels
        have taken : (stage.take token rest).remaining ≤ stage.remaining := by
          simp only [take, remaining, running, nothing, List.nil_append, List.length_append,
            List.length_singleton, List.length_nil, Bool.false_eq_true, ↓reduceIte]
          omega
        omega

/-- A stage that is finished and has nothing pending stays as it is. -/
theorem next_of_finished {stage : Blocks σ} (nothing : stage.pending.items = [])
    (done : stage.finished = true) : stage.next = (none, stage) := by
  simp [next, Queue.isEmpty, nothing, done]

theorem next_dry {stage last : Blocks σ} (step : stage.next = (none, last)) :
    last.next = (none, last) := by
  unfold next at step
  split at step
  · rename_i waits
    have nothing := (release_none step).1
    simp [Queue.isEmpty, nothing] at waits
  · rename_i empty
    have nothing : stage.pending.items = [] := by simpa [Queue.isEmpty] using empty
    split at step
    · rename_i done
      cases step
      exact next_of_finished nothing done
    · split at step
      · obtain ⟨none, rfl⟩ := release_none step
        exact next_of_finished none rfl
      · simp at step
      · rename_i token rest pull
        have none := (release_none step).1
        simp [take] at none

instance : Supply (Blocks σ) where
  next := next
  remaining := remaining
  remaining_next_lt := remaining_next_lt
  next_dry := next_dry

end Blocks

/-- The items from a view on, with some levels open there. -/
def markBlocksFrom [Supply σ] (indenters : List Kind) (view : View σ) (levels : List Level) : List Item :=
  Supply.items (Blocks.ofView indenters view levels)

/-- The items with the blocks marked among them. -/
def markBlocks (window : Nat) (indenters : List Kind) (items : List Item) : List Item :=
  markBlocksFrom indenters (View.onto items window) []

end Offside.Layout
