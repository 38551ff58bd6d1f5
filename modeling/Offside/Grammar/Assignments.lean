import Offside.Grammar

/-! A grammar of lines that hold a name, or an assignment of one name to another. -/

namespace Offside.Grammar

/-- A token that the line it ends cannot have. -/
structure Unexpected where
  kind : Kind
deriving DecidableEq, Repr

def Unexpected.message (unexpected : Unexpected) : String := "unexpected " ++ unexpected.kind.name

/-- The tokens of the line being read, and the statements of the lines before it. -/
structure Assignments where
  line : List Located := []
  body : List Script.Stmt := []

namespace Assignments

def name (located : Located) : Script.Expr := .identifier (some located.loc) located.text

/-- The statement of a line. An empty line has none. -/
def statement? : List Located → Except Unexpected (Option Script.Stmt)
  | [] => .ok none
  | [only] =>
    if only.kind = .identifier then .ok (some (.expression (some only.loc) (name only)))
    else .error ⟨only.kind⟩
  | [left, mark, right] =>
    if left.kind = .identifier ∧ mark.kind = .assign ∧ right.kind = .identifier then
      .ok (some (.assignment (some (left.loc.join right.loc)) .assign (name left) (name right)))
    else .error ⟨right.kind⟩
  | first :: rest => .error ⟨(rest.getLast?.getD first).kind⟩

def endLine (state : Assignments) : Except Unexpected Assignments := do
  return ⟨[], state.body ++ (← statement? state.line).toList⟩

def push (state : Assignments) (located : Located) : Except Unexpected Assignments :=
  if located.kind = .newline then state.endLine
  else .ok { state with line := state.line ++ [located] }

def finish (state : Assignments) : Except Unexpected Script.Program := do
  return ⟨none, (← state.endLine).body⟩

end Assignments

def assignments : Grammar Unexpected Assignments :=
  ⟨{}, Assignments.push, Assignments.finish, Unexpected.message⟩

end Offside.Grammar
