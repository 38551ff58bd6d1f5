import Offside.Proofs.Outline
import Offside.Proofs.SuccessConditions

/-! The kinds of nodes that scripts share with their target. A tree of the target that has only such
nodes can be read as a script again, and `restore?` does so. -/

namespace Offside

namespace Script

def Expr.isShared : Expr → Bool
  | .function .. | .compareChain .. | .virtualObject _ => false
  | .binary _ op _ _ => op != .floorDiv
  | _ => true

def Property.isShared : Property → Bool
  | .keyValue .. => true
  | .method .. => false

def Stmt.isShared : Stmt → Bool
  | .declaring .. | .function .. | .assignment .. | .cascade .. | .yielding .. => false
  | _ => true

def Node.isShared : Node → Bool
  | .expr _ _ node => node.isShared
  | .property node => node.isShared
  | .stmt _ node => node.isShared
  | .block _ | .handler _ => true
  | .function .. | .declarator _ => false

/-- All nodes are of kinds that the target has as well. -/
def Program.Shared (program : Program) : Prop := ∀ node ∈ program.nodes, node.isShared = true

/-- The nodes that could take their location from a statement around them have one of their own. -/
def Program.Anchored (program : Program) : Prop :=
  ∀ node ∈ program.nodes, node.isMain = false → node.loc.isSome = true

instance (program : Program) : Decidable program.Shared :=
  inferInstanceAs (Decidable (∀ node ∈ program.nodes, node.isShared = true))

instance (program : Program) : Decidable program.Anchored :=
  inferInstanceAs (Decidable (∀ node ∈ program.nodes,
    node.isMain = false → node.loc.isSome = true))

theorem BinaryOp.target?_name {op : BinaryOp} (known : op.target? = some target) :
    target.name = respelled op.name := by
  cases op <;> cases known <;> decide

theorem AssignOp.target_name (op : AssignOp) : op.target.name = respelled op.name := by
  cases op <;> decide

end Script

@[simp] theorem UnaryOp.respelled_name (op : UnaryOp) : respelled op.name = op.name := by
  cases op <;> decide

@[simp] theorem LogicalOp.respelled_name (op : LogicalOp) : respelled op.name = op.name := by
  cases op <;> decide

namespace Target

/-- The operator of a script that becomes this one. -/
def BinaryOp.script? (op : BinaryOp) : Option Script.BinaryOp :=
  Script.BinaryOp.all.find? (·.target? == some op)

def AssignOp.script? (op : AssignOp) : Option Script.AssignOp :=
  Script.AssignOp.all.find? (·.target == op)

theorem BinaryOp.script?_of_target? {op : Script.BinaryOp} {target : BinaryOp}
    (known : op.target? = some target) : target.script? = some op := by
  cases op <;> cases known <;> rfl

@[simp] theorem AssignOp.script?_target (op : Script.AssignOp) : op.target.script? = some op := by
  cases op <;> rfl

mutual

def Expr.restore? : Expr → Option Script.Expr
  | .identifier loc name => some (.identifier loc name)
  | .literal loc value => some (.literal loc value)
  | .thisObject loc => some (.thisObject loc)
  | .array loc elements => do return .array loc (← restoreExprs? elements)
  | .object loc properties => do return .object loc (← restoreProperties? properties)
  | .function .. | .arrow .. => none
  | .unary loc op argument => do return .unary loc op (← argument.restore?)
  | .binary loc op left right => do
    return .binary loc (← op.script?) (← left.restore?) (← right.restore?)
  | .logical loc op left right => do return .logical loc op (← left.restore?) (← right.restore?)
  | .conditional loc test consequent alternate => do
    return .conditional loc (← test.restore?) (← consequent.restore?) (← alternate.restore?)
  | .assignment loc op left right => do
    return .assignment loc (← op.script?) (← left.restore?) (← right.restore?)
  | .call loc callee arguments => do
    return .call loc (← callee.restore?) (← restoreExprs? arguments)
  | .construct loc callee arguments => do
    return .construct loc (← callee.restore?) (← restoreExprs? arguments)
  | .member loc object property computed => do
    return .member loc (← object.restore?) (← property.restore?) computed
  | .sequence loc items => do return .sequence loc (← restoreExprs? items)
  | .yielding loc argument delegate => do
    return .yielding loc (← restoreOption? argument) delegate
  | .awaiting loc argument => do return .awaiting loc (← argument.restore?)

def restoreExprs? : List Expr → Option (List Script.Expr)
  | [] => some []
  | expr :: exprs => do return (← expr.restore?) :: (← restoreExprs? exprs)

def restoreOption? : Option Expr → Option (Option Script.Expr)
  | none => some none
  | some expr => do return some (← expr.restore?)

def Property.restore? : Property → Option Script.Property
  | .mk loc key value .init false false false => do
    return .keyValue loc (← key.restore?) (← value.restore?)
  | _ => none

def restoreProperties? : List Property → Option (List Script.Property)
  | [] => some []
  | property :: properties => do return (← property.restore?) :: (← restoreProperties? properties)

def Block.restore? : Block → Option Script.Block
  | .mk loc body => do return .mk loc (← restoreStmts? body)

def restoreHandler? : Option Catch → Option (Option Script.Catch)
  | none => some none
  | some (.mk loc param body) => do return some (.mk loc (← restoreOption? param) (← body.restore?))

def restoreFinalizer? : Option Block → Option (Option Script.Block)
  | none => some none
  | some block => do return some (← block.restore?)

def Stmt.restore? : Stmt → Option Script.Stmt
  | .expression loc value => do return .expression loc (← value.restore?)
  | .block loc body => do return .block loc (← body.restore?)
  | .empty loc => some (.empty loc)
  | .ifElse loc test consequent none => do
    return .ifElse loc (← test.restore?) (← consequent.restore?) none
  | .ifElse loc test consequent (some alternate) => do
    return .ifElse loc (← test.restore?) (← consequent.restore?) (some (← alternate.restore?))
  | .whileLoop loc test body => do return .whileLoop loc (← test.restore?) (← body.restore?)
  | .doWhile loc body test => do return .doWhile loc (← body.restore?) (← test.restore?)
  | .forIn loc left right body => do
    return .forIn loc (← left.restore?) (← right.restore?) (← body.restore?)
  | .forOf loc left right body => do
    return .forOf loc (← left.restore?) (← right.restore?) (← body.restore?)
  | .returning loc argument => do return .returning loc (← restoreOption? argument)
  | .breaking loc => some (.breaking loc)
  | .continuing loc => some (.continuing loc)
  | .throwing loc argument => do return .throwing loc (← argument.restore?)
  | .trying loc block handler finalizer => do
    return .trying loc (← block.restore?) (← restoreHandler? handler)
      (← restoreFinalizer? finalizer)
  | .declaring .. => none

def restoreStmts? : List Stmt → Option (List Script.Stmt)
  | [] => some []
  | stmt :: stmts => do return (← stmt.restore?) :: (← restoreStmts? stmts)

end

def Program.restore? (program : Program) : Option Script.Program :=
  match program.sourceType with
  | .script => do return ⟨program.loc, ← restoreStmts? program.body⟩
  | .moduleFile => none

end Target

end Offside
