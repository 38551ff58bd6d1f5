import Offside.Literal
import Offside.Operator
import Offside.Position

/-! The tree of a script, as a grammar builds it. Beside the usual nodes it has chained comparisons,
cascades with the object they act on, methods, and functions that may capture the surrounding `this`.
Every node may say where it stands in the text. -/

namespace Offside.Script

mutual

inductive Expr where
  | identifier (loc : Option Location) (name : String)
  | literal (loc : Option Location) (value : Literal)
  | thisObject (loc : Option Location)
  /-- The receiver of the cascade step it stands in. -/
  | virtualObject (loc : Option Location)
  | array (loc : Option Location) (elements : List Expr)
  | object (loc : Option Location) (properties : List Property)
  | function (loc : Option Location) (definition : Function)
  | unary (loc : Option Location) (op : UnaryOp) (argument : Expr)
  | binary (loc : Option Location) (op : BinaryOp) (left right : Expr)
  | logical (loc : Option Location) (op : LogicalOp) (left right : Expr)
  | conditional (loc : Option Location) (test consequent alternate : Expr)
  | assignment (loc : Option Location) (op : AssignOp) (left right : Expr)
  | call (loc : Option Location) (callee : Expr) (arguments : List Expr)
  | construct (loc : Option Location) (callee : Expr) (arguments : List Expr)
  | member (loc : Option Location) (object property : Expr) (computed : Bool)
  | sequence (loc : Option Location) (items : List Expr)
  | yielding (loc : Option Location) (argument : Option Expr) (delegate : Bool)
  | awaiting (loc : Option Location) (argument : Expr)
  /-- Operands with a comparison between each two of them. -/
  | compareChain (loc : Option Location) (operands : List Expr) (operators : List BinaryOp)

inductive Property where
  | keyValue (loc : Option Location) (key value : Expr)
  | method (loc : Option Location) (key : Expr) (definition : Function)

/-- A function captures the surrounding `this` when it is bound. Where the script does not say, its
place decides. -/
inductive Function where
  | mk (loc : Option Location) (params : List Expr) (body : Block) (bound : Option Bool)
      (generator async : Bool)

inductive Block where
  | mk (loc : Option Location) (body : List Stmt)

inductive Catch where
  | mk (loc : Option Location) (param : Option Expr) (body : Block)

inductive Declarator where
  | mk (loc : Option Location) (id : Expr) (init : Option Expr) (constant : Bool)

inductive Stmt where
  | expression (loc : Option Location) (value : Expr)
  | block (loc : Option Location) (body : Block)
  | empty (loc : Option Location)
  | ifElse (loc : Option Location) (test : Expr) (consequent : Stmt) (alternate : Option Stmt)
  | whileLoop (loc : Option Location) (test : Expr) (body : Stmt)
  | doWhile (loc : Option Location) (body : Stmt) (test : Expr)
  | forIn (loc : Option Location) (left right : Expr) (body : Stmt)
  | forOf (loc : Option Location) (left right : Expr) (body : Stmt)
  | returning (loc : Option Location) (argument : Option Expr)
  | breaking (loc : Option Location)
  | continuing (loc : Option Location)
  | throwing (loc : Option Location) (argument : Expr)
  | trying (loc : Option Location) (block : Block) (handler : Option Catch)
      (finalizer : Option Block)
  | declaring (loc : Option Location) (declarators : List Declarator)
  | function (loc : Option Location) (id : Expr) (definition : Function)
  | assignment (loc : Option Location) (op : AssignOp) (left right : Expr)
  /-- A receiver and the steps applied to it. The degree of a step is its depth, counted from one. -/
  | cascade (loc : Option Location) (root : Expr) (steps : List Stmt) (degrees : List Nat)
  | yielding (loc : Option Location) (argument : Option Expr)

end

structure Program where
  loc : Option Location := none
  body : List Stmt := []

namespace Expr

def loc : Expr → Option Location
  | identifier loc _ | literal loc _ | thisObject loc | virtualObject loc | array loc _
  | object loc _ | function loc _ | unary loc _ _ | binary loc _ _ _ | logical loc _ _ _
  | conditional loc _ _ _ | assignment loc _ _ _ | call loc _ _ | construct loc _ _
  | member loc _ _ _ | sequence loc _ | yielding loc _ _ | awaiting loc _
  | compareChain loc _ _ => loc

def kindName : Expr → String
  | identifier .. => "Identifier"
  | literal .. => "Literal"
  | thisObject .. => "ThisExpression"
  | virtualObject .. => "VirtualObjectExpression"
  | array .. => "ArrayExpression"
  | object .. => "ObjectExpression"
  | function .. => "Function"
  | unary .. => "UnaryExpression"
  | binary .. => "BinaryExpression"
  | logical .. => "LogicalExpression"
  | conditional .. => "ConditionalExpression"
  | assignment .. => "AssignmentExpression"
  | call .. => "CallExpression"
  | construct .. => "NewExpression"
  | member .. => "MemberExpression"
  | sequence .. => "SequenceExpression"
  | yielding .. => "YieldExpression"
  | awaiting .. => "AwaitExpression"
  | compareChain .. => "CompareChainExpression"

end Expr

def Property.kindName : Property → String
  | keyValue .. => "AssignmentProperty"
  | method .. => "Method"

namespace Function

def loc : Function → Option Location
  | mk loc _ _ _ _ _ => loc

def bound : Function → Option Bool
  | mk _ _ _ bound _ _ => bound

end Function

def Declarator.constant : Declarator → Bool
  | mk _ _ _ constant => constant

namespace Stmt

def loc : Stmt → Option Location
  | expression loc _ | block loc _ | empty loc | ifElse loc _ _ _ | whileLoop loc _ _
  | doWhile loc _ _ | forIn loc _ _ _ | forOf loc _ _ _ | returning loc _ | breaking loc
  | continuing loc | throwing loc _ | trying loc _ _ _ | declaring loc _ | function loc _ _
  | assignment loc _ _ _ | cascade loc _ _ _ | yielding loc _ => loc

def kindName : Stmt → String
  | expression .. => "ExpressionStatement"
  | block .. => "BlockStatement"
  | empty .. => "EmptyStatement"
  | ifElse .. => "IfStatement"
  | whileLoop .. => "WhileStatement"
  | doWhile .. => "DoWhileStatement"
  | forIn .. => "ForInStatement"
  | forOf .. => "ForOfStatement"
  | returning .. => "ReturnStatement"
  | breaking .. => "BreakStatement"
  | continuing .. => "ContinueStatement"
  | throwing .. => "ThrowStatement"
  | trying .. => "TryStatement"
  | declaring .. => "VariableDeclaration"
  | function .. => "FunctionDeclaration"
  | assignment .. => "AssignmentStatement"
  | cascade .. => "CascadeStatement"
  | yielding .. => "YieldStatement"

/-- Function declarations come before the other statements of their list. -/
def isHoisted : Stmt → Bool
  | function .. => true
  | _ => false

end Stmt

end Offside.Script
