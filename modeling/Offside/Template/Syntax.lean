import Offside.Literal
import Offside.Operator

/-! Templates: pieces of target code with placeholders for expressions. -/

namespace Offside.Template

inductive Expr where
  | placeholder (name : String)
  | identifier (name : String)
  | number (value : Number)
  | string (value : String)
  | thisObject
  | array (elements : List Expr)
  | unary (op : UnaryOp) (argument : Expr)
  | binary (op : Target.BinaryOp) (left right : Expr)
  | logical (op : LogicalOp) (left right : Expr)
  | member (object property : Expr) (computed : Bool)
  | call (callee : Expr) (arguments : List Expr)

inductive Stmt where
  | expression (value : Expr)
  | returning (argument : Option Expr)

/-- What a template is used as: one expression, one statement or any number of statements. -/
inductive Form where
  | expression | statement | program
deriving DecidableEq, Repr

def Form.name : Form → String
  | expression => "expression"
  | statement => "statement"
  | program => "program"

end Offside.Template

namespace Offside

/-- A template with the text it was read from. -/
structure Template where
  source : String
  body : List Template.Stmt

end Offside
