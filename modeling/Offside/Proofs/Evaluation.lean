import Mathlib.Logic.Function.Basic
import Offside.Script.Names
import Offside.Target.Tree

/-! What expressions mean. Literals and operators have any meaning over any values; variables live in a
store, and every access to one is recorded. Only nodes whose meaning is settled by these are given one:
names, literals, operators, conditionals, assignments to names, and comparison chains. -/

namespace Offside

/-- What literals and operators mean, and which values count as true. An operator of the target means
what the script's operator means that becomes it. -/
structure Meaning (Value : Type) where
  literal : Literal → Value
  unary : UnaryOp → Value → Value
  script : Script.BinaryOp → Value → Value → Value
  target : Target.BinaryOp → Value → Value → Value
  target_eq : ∀ op lowered, op.target? = some lowered → target lowered = script op
  /-- The value that an assignment other than a plain one stores, from the old value and the right
  side. -/
  update : Script.AssignOp → Value → Value → Value
  targetUpdate : Target.AssignOp → Value → Value → Value
  update_eq : ∀ op : Script.AssignOp, targetUpdate op.target = update op
  truthy : Value → Bool

variable {Value α : Type}

inductive Access (Value : Type) where
  | read (name : String) (value : Value)
  | write (name : String) (value : Value)

def Access.name : Access Value → String
  | read name _ | write name _ => name

/-- The store, and the accesses to it so far. -/
structure World (Value : Type) where
  store : String → Value
  accesses : List (Access Value)

/-- A computation on a world. Nodes that have no meaning get stuck. -/
abbrev Eval (Value : Type) := StateT (World Value) Option

namespace Eval

def stuck : Eval Value α := fun _ => none

def read (name : String) : Eval Value Value := fun world =>
  some (world.store name,
    ⟨world.store, world.accesses ++ [.read name (world.store name)]⟩)

def write (name : String) (value : Value) : Eval Value Unit := fun world =>
  some ((), ⟨Function.update world.store name value, world.accesses ++ [.write name value]⟩)

/-- Evaluates the right side only if the left one does not settle the value. -/
def logical (truthy : Value → Bool) (op : LogicalOp) (left right : Eval Value Value) :
    Eval Value Value := do
  let value ← left
  match op with
  | .and => if truthy value then right else return value
  | .or => if truthy value then return value else right

def conditional (truthy : Value → Bool) (test consequent alternate : Eval Value Value) :
    Eval Value Value := do
  if truthy (← test) then consequent else alternate

/-- Stores the right side under a name, and gives what was stored. -/
def assign (name : String) (right : Eval Value Value) : Eval Value Value := do
  let value ← right
  write name value
  return value

/-- Stores what an update makes of the old value, read first, and of the right side. -/
def updated (update : Value → Value → Value) (name : String) (right : Eval Value Value) :
    Eval Value Value := do
  let old ← read name
  assign name (do return update old (← right))

end Eval

namespace Script

mutual

def Expr.eval (meaning : Meaning Value) : Expr → Eval Value Value
  | .identifier _ name => Eval.read name
  | .literal _ value => return meaning.literal value
  | .unary _ op argument => do return meaning.unary op (← argument.eval meaning)
  | .binary _ op left right => do
    let left ← left.eval meaning
    return meaning.script op left (← right.eval meaning)
  | .logical _ op left right =>
    Eval.logical meaning.truthy op (left.eval meaning) (right.eval meaning)
  | .conditional _ test consequent alternate =>
    Eval.conditional meaning.truthy (test.eval meaning) (consequent.eval meaning)
      (alternate.eval meaning)
  | .assignment _ .assign (.identifier _ name) right => Eval.assign name (right.eval meaning)
  | .assignment _ op (.identifier _ name) right =>
    Eval.updated (meaning.update op) name (right.eval meaning)
  | .compareChain _ (first :: operands) operators => do
    evalChain meaning (← first.eval meaning) operators operands
  | _ => Eval.stuck

/-- Compares a value with the first operand, that one with the second, and so on. The value is that of
the first comparison that is false, or of the last one, and no operand after it is evaluated. -/
def evalChain (meaning : Meaning Value) (left : Value) (operators : List BinaryOp) :
    List Expr → Eval Value Value
  | [] => Eval.stuck
  | operand :: operands =>
    match operators with
    | [] => Eval.stuck
    | op :: operators => do
      let right ← operand.eval meaning
      let result := meaning.script op left right
      if operators.isEmpty || !meaning.truthy result then return result
      else evalChain meaning right operators operands

end

mutual

/-- An expression made of nodes that have a meaning, without floor division. -/
def Expr.isPlain : Expr → Bool
  | .identifier .. | .literal .. => true
  | .unary _ _ argument => argument.isPlain
  | .binary _ op left right => op != .floorDiv && left.isPlain && right.isPlain
  | .logical _ _ left right => left.isPlain && right.isPlain
  | .conditional _ test consequent alternate =>
    test.isPlain && consequent.isPlain && alternate.isPlain
  | .assignment _ _ (.identifier ..) right => right.isPlain
  | .compareChain _ operands operators =>
    !operators.isEmpty && operands.length == operators.length + 1 &&
      operators.all (· != .floorDiv) && arePlain operands
  | _ => false

def arePlain : List Expr → Bool
  | [] => true
  | expr :: exprs => expr.isPlain && arePlain exprs

end

end Script

namespace Target

def Expr.eval (meaning : Meaning Value) : Expr → Eval Value Value
  | .identifier _ name => Eval.read name
  | .literal _ value => return meaning.literal value
  | .unary _ op argument => do return meaning.unary op (← argument.eval meaning)
  | .binary _ op left right => do
    let left ← left.eval meaning
    return meaning.target op left (← right.eval meaning)
  | .logical _ op left right =>
    Eval.logical meaning.truthy op (left.eval meaning) (right.eval meaning)
  | .conditional _ test consequent alternate =>
    Eval.conditional meaning.truthy (test.eval meaning) (consequent.eval meaning)
      (alternate.eval meaning)
  | .assignment _ .assign (.identifier _ name) right => Eval.assign name (right.eval meaning)
  | .assignment _ op (.identifier _ name) right =>
    Eval.updated (meaning.targetUpdate op) name (right.eval meaning)
  | _ => Eval.stuck

end Target

end Offside
