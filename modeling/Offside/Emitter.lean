import Offside.Target.Tree

/-! Emitters write lowered programs as text. -/

namespace Offside

/-- An emitter that refuses with an `ε`. -/
structure Emitter (ε : Type) where
  emit : Target.Program → Except ε String
  /-- What a refusal says. -/
  message : ε → String

namespace Emitter

/-- A node that cannot be written. -/
structure CannotEmit where
  kind : Target.NodeKind
deriving DecidableEq, Repr

def CannotEmit.message (refused : CannotEmit) : String := "cannot emit " ++ refused.kind.name

/-- Names, and assignments between them. -/
def expression : Target.Expr → Except CannotEmit String
  | .identifier _ name => .ok name
  | .assignment _ op left right => do
    let left ← expression left
    return left ++ " " ++ op.name ++ " " ++ (← expression right)
  | other => .error ⟨other.kind⟩

def statement : Target.Stmt → Except CannotEmit String
  | .expression _ value => do return (← expression value) ++ ";\n"
  | other => .error ⟨other.kind⟩

/-- Writes one expression statement a line. -/
def lines : Emitter CannotEmit where
  emit program := do return String.join (← program.body.mapM statement)
  message := CannotEmit.message

/-- A program refused for the number of its statements. -/
structure Refused where
  statements : Nat
deriving DecidableEq, Repr

/-- Writes nothing at all. -/
def refusing : Emitter Refused where
  emit program := .error ⟨program.body.length⟩
  message refused := "refused " ++ toString refused.statements ++ " statements"

end Emitter

end Offside
