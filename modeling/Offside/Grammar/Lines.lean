import Offside.Grammar
import Offside.Number.Decimal

/-! A grammar of one statement a line: a name, or a name to which a value is assigned. A value is a
name or a number, or several of them with operators between. Comparisons in a row form a chain. -/

namespace Offside.Grammar

inductive LineFault where
  | unexpected (kind : Kind)
  | incomplete
deriving DecidableEq, Repr

def LineFault.message : LineFault → String
  | unexpected kind => "unexpected " ++ kind.name
  | incomplete => "statement ended early"

/-- The tokens of the statement being read, and the statements before it. -/
structure Lines where
  pending : List Located := []
  body : List Script.Stmt := []

namespace Lines

/-- An expression and where it stands. -/
abbrev Placed := Script.Expr × Location

def operand (located : Located) : Except LineFault Placed :=
  match located.kind with
  | .identifier => .ok (.identifier (some located.loc) located.text, located.loc)
  | .number =>
    match Number.ofText? located.token.lexeme with
    | some number => .ok (.literal (some located.loc) (.number number), located.loc)
    | none => .error (.unexpected .number)
  | kind => .error (.unexpected kind)

/-- The operators after the first operand, each with its right operand. -/
def operations : List Located → Except LineFault (List (Script.BinaryOp × Placed))
  | [] => .ok []
  | [_] => .error .incomplete
  | mark :: right :: rest => do
    let some op := Script.BinaryOp.ofName? mark.text | .error (.unexpected mark.kind)
    let right ← operand right
    return (op, right) :: (← operations rest)

/-- Operators are taken from the left. -/
def combine (left : Placed) (operation : Script.BinaryOp × Placed) : Placed :=
  let (op, right, rightLoc) := operation
  let loc := left.2.join rightLoc
  (.binary (some loc) op left.1 right, loc)

def chain (first : Placed) (operations : List (Script.BinaryOp × Placed)) : Placed :=
  let loc := operations.foldl (fun loc operation => loc.join operation.2.2) first.2
  (.compareChain (some loc) (first.1 :: operations.map fun operation => operation.2.1)
    (operations.map Prod.fst), loc)

def expression : List Located → Except LineFault Placed
  | [] => .error .incomplete
  | first :: rest => do
    let first ← operand first
    let operations ← operations rest
    return if 1 < operations.length ∧ operations.all (fun operation => operation.1.isComparison) then
      chain first operations
    else operations.foldl combine first

/-- The statement of a line. An empty line has none. -/
def statement? : List Located → Except LineFault (Option Script.Stmt)
  | [] => .ok none
  | first :: rest =>
    if first.kind ≠ .identifier then .error (.unexpected first.kind)
    else
      let name : Script.Expr := .identifier (some first.loc) first.text
      match rest with
      | [] => .ok (some (.expression (some first.loc) name))
      | mark :: value =>
        if mark.kind = .assign then do
          let (value, loc) ← expression value
          return some (.assignment (some (first.loc.join loc)) .assign name value)
        else .error (.unexpected mark.kind)

def endStatement (state : Lines) : Except LineFault Lines := do
  return ⟨[], state.body ++ (← statement? state.pending).toList⟩

/-- Statements end with their line, and where a block begins or ends. -/
def push (state : Lines) (located : Located) : Except LineFault Lines :=
  match located.kind with
  | .newline | .indent | .dedent => state.endStatement
  | _ => .ok { state with pending := state.pending ++ [located] }

def finish (state : Lines) : Except LineFault Script.Program := do
  let body := (← state.endStatement).body
  let loc := body.foldl (fun loc stmt => Location.join? loc stmt.loc) none
  return ⟨loc, body⟩

end Lines

def lines : Grammar LineFault Lines := ⟨{}, Lines.push, Lines.finish, LineFault.message⟩

end Offside.Grammar
