import Offside.Layout.Indentation
import Offside.Layout.Newlines
import Offside.Layout.Trivia
import Offside.Lexer

/-! Layout: the stages that turn the raw tokens of a text into the tokens a grammar reads, and the
stream that comes out of them. -/

namespace Offside.Layout

structure Options where
  /-- How many tokens each stage, and the stream at the end, remembers. -/
  window : Nat := 10
  /-- The keywords that open an indented block. -/
  indenters : List Kind :=
    [.keyword .tryWord, .keyword .finallyWord, .keyword .elseWord, .keyword .doWord]

/-- Sets memory aside for the window of a stage. -/
def Options.reserve (options : Options) : Except Memory.Shortage Unit :=
  Recent.reserve (max options.window View.leastWindow)

inductive Stage where
  | trivia | newlines | blocks
deriving DecidableEq, Repr

/-- A supply of any kind. -/
structure Flow where
  {State : Type}
  [supply : Supply State]
  state : State

namespace Flow

attribute [instance] Flow.supply

def next (flow : Flow) : Option Item × Flow :=
  ((Supply.next flow.state).1, ⟨(Supply.next flow.state).2⟩)

def remaining (flow : Flow) : Nat := Supply.remaining flow.state

theorem remaining_next_lt {flow later : Flow} {item : Item} (step : flow.next = (some item, later)) :
    later.remaining < flow.remaining := by
  obtain ⟨found, rfl⟩ := Prod.mk.inj step
  exact Supply.remaining_next_lt (Prod.ext found rfl)

theorem next_dry {flow last : Flow} (step : flow.next = (none, last)) : last.next = (none, last) := by
  obtain ⟨nothing, rfl⟩ := Prod.mk.inj step
  have pull : Supply.next flow.state = (none, (Supply.next flow.state).2) := Prod.ext nothing rfl
  simp only [next, Supply.next_dry pull]

instance : Supply Flow where
  next := next
  remaining := remaining
  remaining_next_lt := remaining_next_lt
  next_dry := next_dry

end Flow

/-- Sets a stage on what it is to read. -/
def Stage.onto (options : Options) (flow : Flow) : Stage → Flow
  | trivia => ⟨Trivia.onto flow.state options.window⟩
  | newlines => ⟨Newlines.onto flow.state options.window⟩
  | blocks => ⟨Blocks.onto flow.state options.window options.indenters⟩

/-- Sets stages one on another, the first of them on what they are to read. -/
def stack (options : Options) (stages : List Stage) (flow : Flow) : Flow :=
  stages.foldl (fun flow stage => stage.onto options flow) flow

/-- Sets stages one on another, if memory has room for the window of each. -/
def stackWithin (options : Options) (stages : List Stage) (flow : Flow) :
    Except Memory.Shortage Flow :=
  stages.foldlM (fun flow stage => options.reserve.map fun _ => stage.onto options flow) flow

/-- What comes out of stages that are set one on another. -/
def runStages (options : Options) (stages : List Stage) (items : List Item) : List Item :=
  Supply.items (stack options stages ⟨items⟩)

/-- What comes out of stages, if memory has room for the window of each. -/
def runStagesWithin (options : Options) (stages : List Stage) (items : List Item) :
    Except Memory.Shortage (List Item) :=
  (stackWithin options stages ⟨items⟩).map Supply.items

/-- All three stages, set on a lexer. -/
abbrev LaidOut : Type := Blocks (Newlines (Trivia Lexer))

def LaidOut.ofSource (options : Options) (source : Source) (offset : Nat) : LaidOut :=
  let trivia := Trivia.onto (Lexer.ofSource source offset) options.window
  let newlines := Newlines.onto trivia options.window
  .onto newlines options.window options.indenters

/-- The items of a source after all three stages. -/
def items (options : Options) (source : Source) (offset : Nat) : List Item :=
  Supply.items (LaidOut.ofSource options source offset)

/-- A stream that remembers the last tokens it yielded. -/
structure Stream where
  inner : LaidOut
  history : Recent Token

namespace Stream

def ofSource (options : Options) (source : Source) (offset : Nat) : Stream :=
  ⟨.ofSource options source offset, Recent.empty options.window⟩

/-- The stream of a source, if memory has room for the window. -/
def create (options : Options) (source : Source) (offset : Nat) : Except Memory.Shortage Stream := do
  options.reserve
  return ofSource options source offset

/-- The next item. Errors leave no trace in the history. -/
def next (stream : Stream) : Option Item × Stream :=
  match Supply.next stream.inner with
  | (some (.ok token), later) => (some (.ok token), ⟨later, stream.history.push token⟩)
  | (some (.error fault), later) => (some (.error fault), ⟨later, stream.history⟩)
  | (none, last) => (none, ⟨last, stream.history⟩)

/-- The items that the stream is still to yield. -/
def unread (stream : Stream) : List Item := Supply.items stream.inner

theorem remaining_next_lt {stream later : Stream} {item : Item}
    (step : stream.next = (some item, later)) :
    Supply.remaining later.inner < Supply.remaining stream.inner := by
  unfold next at step
  split at step
  · rename_i pull
    cases step
    exact Supply.remaining_next_lt pull
  · rename_i pull
    cases step
    exact Supply.remaining_next_lt pull
  · cases step

theorem next_dry {stream last : Stream} (step : stream.next = (none, last)) :
    last.next = (none, last) := by
  unfold next at step
  split at step
  · cases step
  · cases step
  · rename_i pull
    cases step
    simp only [next, Supply.next_dry pull]

instance : Supply Stream where
  next := next
  remaining stream := Supply.remaining stream.inner
  remaining_next_lt := remaining_next_lt
  next_dry := next_dry

end Stream

/-- Splits items into the tokens and the last error. -/
def collect (items : List Item) : List Token × Option LexError :=
  (items.filterMap Except.toOption,
    (items.filterMap fun item => match item with
      | .error fault => some fault
      | .ok _ => none).getLast?)

end Offside.Layout
