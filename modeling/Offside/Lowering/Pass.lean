import Offside.Lowering.Expansion
import Offside.Template.Instance

/-! The state of a lowering pass. Frames say what surrounds the node at hand: scopes collect the names
made up inside them, cascades hold their receivers, and methods mark where functions stop capturing
`this`. What a pass did before it failed is kept. -/

namespace Offside.Lowering

inductive Frame where
  /-- The names to declare at the top of the scope, in the order in which they were made up. -/
  | scope (names : List String)
  /-- The receivers by degree. -/
  | cascade (receivers : List String)
  | method
deriving DecidableEq, Repr

namespace Frame

/-- The names that a frame holds to declare. -/
def names : Frame → List String
  | scope names => names
  | cascade _ | method => []

end Frame

/-- How a frame is opened. -/
inductive Opening where
  | scope
  | cascade (root : String)
  | method
deriving DecidableEq, Repr

/-- A scope has no names yet, and a cascade only its root as a receiver. -/
@[simp] def Opening.frame : Opening → Frame
  | scope => .scope []
  | cascade root => .cascade [root]
  | method => .method

/-- Adds a name after the others, unless it is one of them. -/
def insertName (name : String) (names : List String) : List String :=
  if name ∈ names then names else names ++ [name]

/-- Adds a name to the nearest scope, if there is one. -/
def declareName (name : String) : List Frame → List Frame
  | [] => []
  | .scope names :: outer => .scope (insertName name names) :: outer
  | frame :: outer => frame :: declareName name outer

/-- The names of a frame are declared once, and none of them may be made up again. -/
def Frame.Declared (reserved : List String) (frame : Frame) : Prop :=
  frame.names.Nodup ∧ ∀ name ∈ frame.names, name ∈ reserved

/-- The same for all frames. -/
def Declared (reserved : List String) (frames : List Frame) : Prop :=
  ∀ frame ∈ frames, frame.Declared reserved

instance (reserved : List String) (frame : Frame) : Decidable (frame.Declared reserved) :=
  inferInstanceAs (Decidable (_ ∧ _))

instance (reserved : List String) (frames : List Frame) : Decidable (Declared reserved frames) :=
  inferInstanceAs (Decidable (∀ frame ∈ frames, _))

theorem Opening.declared (opening : Opening) (reserved : List String) :
    opening.frame.Declared reserved := by
  cases opening <;> exact ⟨List.nodup_nil, nofun⟩

private theorem nodup_insertName {names : List String} (distinct : names.Nodup) (name : String) :
    (insertName name names).Nodup := by
  by_cases held : name ∈ names
  · simpa [insertName, held] using distinct
  · have apart : ∀ other ∈ names, other ≠ name := by
      rintro other member rfl
      exact held member
    simpa [insertName, held, List.nodup_append, distinct] using apart

private theorem mem_insertName {name other : String} {names : List String}
    (member : other ∈ insertName name names) : other = name ∨ other ∈ names := by
  unfold insertName at member
  split at member
  · exact .inr member
  · simpa [or_comm] using member

namespace Declared

variable {reserved : List String} {frames : List Frame}

theorem nil (reserved : List String) : Declared reserved [] := nofun

theorem cons {frame : Frame} (first : frame.Declared reserved) (rest : Declared reserved frames) :
    Declared reserved (frame :: frames) := by
  intro other member
  rcases List.mem_cons.mp member with rfl | member
  · exact first
  · exact rest other member

theorem tail (declared : Declared reserved frames) : Declared reserved frames.tail :=
  fun frame member => declared frame (List.mem_of_mem_tail member)

/-- A name is declared when it becomes reserved. -/
theorem declareName (declared : Declared reserved frames) (name : String) :
    Declared (name :: reserved) (declareName name frames) := by
  have wider {frame : Frame} (first : frame.Declared reserved) :
      frame.Declared (name :: reserved) :=
    ⟨first.1, fun other member => List.mem_cons_of_mem name (first.2 other member)⟩
  induction frames with
  | nil => exact nil _
  | cons frame outer ih =>
    have first := declared frame List.mem_cons_self
    have rest : Declared reserved outer := declared.tail
    cases frame with
    | scope names =>
      refine cons ⟨nodup_insertName first.1 name, fun other member => ?_⟩ fun frame member =>
        wider (rest frame member)
      rcases mem_insertName member with rfl | member
      · exact List.mem_cons_self
      · exact (wider first).2 other member
    | cascade receivers => exact cons (wider first) (ih rest)
    | method => exact cons (wider first) (ih rest)

end Declared

@[ext] structure Pass where
  /-- The innermost frame comes first. -/
  frames : List Frame
  /-- Names that may not be made up. -/
  reserved : List String
  templates : Template.Cache
  /-- No scope declares a name twice, or one that may be made up again. -/
  declared : Declared reserved frames

namespace Pass

/-- The pass before anything is lowered. -/
def start (reserved : List String) (templates : Template.Cache) : Pass :=
  ⟨[], reserved, templates, .nil reserved⟩

def push (opening : Opening) (pass : Pass) : Pass :=
  { pass with
    frames := opening.frame :: pass.frames
    declared := .cons (opening.declared pass.reserved) pass.declared }

def pop (pass : Pass) : Pass :=
  { pass with frames := pass.frames.tail, declared := pass.declared.tail }

/-- Puts a cascade with other receivers in the place of the innermost frame. -/
def receive (receivers : List String) (pass : Pass) : Pass :=
  { pass with
    frames := .cascade receivers :: pass.frames.tail
    declared := .cons ⟨List.nodup_nil, nofun⟩ pass.declared.tail }

/-- Declares a name in the nearest scope and reserves it. -/
def mint (name : String) (pass : Pass) : Pass :=
  { pass with
    frames := declareName name pass.frames
    reserved := name :: pass.reserved
    declared := pass.declared.declareName name }

section

variable (reserved : List String) (templates : Template.Cache)

@[simp] theorem start_frames : (start reserved templates).frames = [] := rfl

@[simp] theorem start_reserved : (start reserved templates).reserved = reserved := rfl

@[simp] theorem start_templates : (start reserved templates).templates = templates := rfl

variable (pass : Pass) (opening : Opening) (names : List String) (name : String)

@[simp] theorem push_frames : (pass.push opening).frames = opening.frame :: pass.frames := rfl

@[simp] theorem push_reserved : (pass.push opening).reserved = pass.reserved := rfl

@[simp] theorem push_templates : (pass.push opening).templates = pass.templates := rfl

@[simp] theorem pop_frames : pass.pop.frames = pass.frames.tail := rfl

@[simp] theorem pop_reserved : pass.pop.reserved = pass.reserved := rfl

@[simp] theorem pop_templates : pass.pop.templates = pass.templates := rfl

@[simp] theorem receive_frames :
    (pass.receive names).frames = .cascade names :: pass.frames.tail := rfl

@[simp] theorem receive_reserved : (pass.receive names).reserved = pass.reserved := rfl

@[simp] theorem receive_templates : (pass.receive names).templates = pass.templates := rfl

@[simp] theorem mint_reserved : (pass.mint name).reserved = name :: pass.reserved := rfl

@[simp] theorem mint_templates : (pass.mint name).templates = pass.templates := rfl

end

end Pass

/-- A step of lowering. Its state outlives a failure. -/
def Lower (α : Type) : Type := Pass → Except Fault α × Pass

namespace Lower

variable {α β : Type}

def ok (a : α) : Lower α := fun pass => (.ok a, pass)

def fail (fault : Fault) : Lower α := fun pass => (.error fault, pass)

def andThen (first : Lower α) (next : α → Lower β) : Lower β := fun pass =>
  match first pass with
  | (.ok a, later) => next a later
  | (.error fault, later) => (.error fault, later)

instance : Monad Lower where
  pure := ok
  bind := andThen

/-- A result that does not depend on the pass. -/
def ofExcept (result : Except Fault α) : Lower α := fun pass => (result, pass)

def modify (f : Pass → Pass) : Lower Unit := fun pass => (.ok (), f pass)

@[simp] theorem pure_apply (a : α) (pass : Pass) : (pure a : Lower α) pass = (.ok a, pass) := rfl

@[simp] theorem fail_apply (fault : Fault) (pass : Pass) :
    (fail fault : Lower α) pass = (.error fault, pass) := rfl

@[simp] theorem ofExcept_apply (result : Except Fault α) (pass : Pass) :
    ofExcept result pass = (result, pass) := rfl

@[simp] theorem modify_apply (f : Pass → Pass) (pass : Pass) : modify f pass = (.ok (), f pass) := rfl

theorem bind_apply (first : Lower α) (next : α → Lower β) (pass : Pass) :
    (first >>= next) pass =
      match first pass with
      | (.ok a, later) => next a later
      | (.error fault, later) => (.error fault, later) := rfl

instance : LawfulMonad Lower := LawfulMonad.mk' Lower
  (fun step => by
    funext pass
    change Lower.andThen step (fun a => Lower.ok (id a)) pass = step pass
    unfold andThen
    split <;> simp_all [ok])
  (fun a next => rfl)
  (fun first second third => by
    funext pass
    change Lower.andThen (Lower.andThen first second) third pass =
      Lower.andThen first (fun a => Lower.andThen (second a) third) pass
    unfold andThen
    cases first pass with
    | mk result later => cases result <;> rfl)

end Lower

/-- The visit of a node. It may have one frame of its own open. -/
def Visit (α : Type) : Type := Bool → Pass → Except Fault α × Bool × Pass

namespace Visit

variable {α β : Type}

def andThen (first : Visit α) (next : α → Visit β) : Visit β := fun opened pass =>
  match first opened pass with
  | (.ok a, opened, later) => next a opened later
  | (.error fault, opened, later) => (.error fault, opened, later)

instance : Monad Visit where
  pure a := fun opened pass => (.ok a, opened, pass)
  bind := andThen

/-- A step that is told whether the visit has its frame open. -/
def within (step : Bool → Lower α) : Visit α := fun opened pass =>
  let (result, later) := step opened pass
  (result, opened, later)

def push (opening : Opening) : Visit Unit := fun opened pass =>
  if opened then (.error (.frames .secondFrame), opened, pass)
  else (.ok (), true, pass.push opening)

/-- Takes the innermost frame off, which should be the visit's own. -/
def pop : Visit Frame := fun opened pass =>
  if opened then
    match pass.frames with
    | frame :: _ => (.ok frame, false, pass.pop)
    | [] => (.error (.frames .empty), false, pass)
  else (.error (.frames .noFrame), opened, pass)

/-- Makes a visit. A frame that it did not pop, because it failed, is popped at its end. -/
def make (visit : Visit α) : Lower α := fun pass =>
  match visit false pass with
  | (result, opened, later) => (result, if opened then later.pop else later)

end Visit

/-- Runs a step under a frame that it may change. Gives the frame as the step left it. -/
def Lower.withOwnFrame {α : Type} (opening : Opening) (step : Bool → Lower α) :
    Lower (α × Frame) := Visit.make do
  .push opening
  let a ← .within step
  let left ← .pop
  return (a, left)

/-- Runs a step under a frame. -/
def Lower.withFrame {α : Type} (opening : Opening) (step : Lower α) : Lower (α × Frame) :=
  withOwnFrame opening fun _ => step

def hasScope : List Frame → Bool
  | [] => false
  | .scope _ :: _ => true
  | _ :: outer => hasScope outer

/-- The candidates for a made-up name. -/
def candidate (stem : String) (n : Nat) : String := stem ++ "$" ++ toString n

/-- The first candidate that is not reserved. One of as many candidates as there are reserved names,
and one more, is free. -/
def freeName (stem : String) (reserved : List String) : String :=
  candidate stem
    (((List.range (reserved.length + 1)).find? fun n =>
      !reserved.contains (candidate stem (n + 1))).getD reserved.length + 1)

/-- Makes up a name that stands nowhere in the program, and declares it in the nearest scope. -/
def freshName (stem : String) : Lower String := fun pass =>
  if hasScope pass.frames then
    let name := freeName stem pass.reserved
    (.ok name, pass.mint name)
  else (.error (.frames .noScope), pass)

/-- The frame that a visit opened, if it did. -/
def ownFrame (opened : Bool) : Lower Frame := fun pass =>
  if opened then
    match pass.frames with
    | frame :: _ => (.ok frame, pass)
    | [] => (.error (.frames .empty), pass)
  else (.error (.frames .unopened), pass)

/-- The receivers of the cascade being lowered. -/
def receivers (opened : Bool) : Lower (List String) := do
  match ← ownFrame opened with
  | .cascade receivers => return receivers
  | _ => .fail (.frames .notCascade)

def setReceivers (opened : Bool) (names : List String) : Lower Unit := do
  let _ ← receivers opened
  .modify (·.receive names)

/-- The receiver on which the innermost cascade acts. -/
def innermostReceiver : List Frame → Option String
  | [] => none
  | .cascade receivers :: _ => receivers.getLast?
  | _ :: outer => innermostReceiver outer

/-- Whether a method definition is the innermost frame. -/
def inMethod : List Frame → Bool
  | .method :: _ => true
  | _ => false

/-- The frames around the node at hand. -/
def surroundings : Lower (List Frame) := fun pass => (.ok pass.frames, pass)

/-- The template of a text. -/
def template (source : String) : Lower Template := fun pass =>
  let (result, templates) := pass.templates.get source
  (result, { pass with templates := templates })

end Offside.Lowering
