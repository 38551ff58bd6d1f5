import Offside.Literal
import Offside.Operator
import Offside.Position

/-! The tree that scripts are lowered to: statements and expressions of ECMAScript. Every kind of node
has a name, by which a target says whether it can hold the node. -/

namespace Offside.Target

inductive NodeKind where
  | identifier | literal | thisExpression | arrayExpression | objectExpression
  | functionExpression | arrowFunctionExpression | unaryExpression | binaryExpression
  | logicalExpression | conditionalExpression | assignmentExpression | callExpression
  | newExpression | memberExpression | sequenceExpression | yieldExpression | awaitExpression
  | expressionStatement | blockStatement | emptyStatement | ifStatement | whileStatement
  | doWhileStatement | forInStatement | forOfStatement | returnStatement | breakStatement
  | continueStatement | throwStatement | tryStatement | variableDeclaration
  | program | property | variableDeclarator | catchClause
deriving DecidableEq, Repr

namespace NodeKind

def name : NodeKind → String
  | identifier => "Identifier"
  | literal => "Literal"
  | thisExpression => "ThisExpression"
  | arrayExpression => "ArrayExpression"
  | objectExpression => "ObjectExpression"
  | functionExpression => "FunctionExpression"
  | arrowFunctionExpression => "ArrowFunctionExpression"
  | unaryExpression => "UnaryExpression"
  | binaryExpression => "BinaryExpression"
  | logicalExpression => "LogicalExpression"
  | conditionalExpression => "ConditionalExpression"
  | assignmentExpression => "AssignmentExpression"
  | callExpression => "CallExpression"
  | newExpression => "NewExpression"
  | memberExpression => "MemberExpression"
  | sequenceExpression => "SequenceExpression"
  | yieldExpression => "YieldExpression"
  | awaitExpression => "AwaitExpression"
  | expressionStatement => "ExpressionStatement"
  | blockStatement => "BlockStatement"
  | emptyStatement => "EmptyStatement"
  | ifStatement => "IfStatement"
  | whileStatement => "WhileStatement"
  | doWhileStatement => "DoWhileStatement"
  | forInStatement => "ForInStatement"
  | forOfStatement => "ForOfStatement"
  | returnStatement => "ReturnStatement"
  | breakStatement => "BreakStatement"
  | continueStatement => "ContinueStatement"
  | throwStatement => "ThrowStatement"
  | tryStatement => "TryStatement"
  | variableDeclaration => "VariableDeclaration"
  | program => "Program"
  | property => "Property"
  | variableDeclarator => "VariableDeclarator"
  | catchClause => "CatchClause"

def all : List NodeKind :=
  [identifier, literal, thisExpression, arrayExpression, objectExpression, functionExpression,
   arrowFunctionExpression, unaryExpression, binaryExpression, logicalExpression,
   conditionalExpression, assignmentExpression, callExpression, newExpression, memberExpression,
   sequenceExpression, yieldExpression, awaitExpression, expressionStatement, blockStatement,
   emptyStatement, ifStatement, whileStatement, doWhileStatement, forInStatement, forOfStatement,
   returnStatement, breakStatement, continueStatement, throwStatement, tryStatement,
   variableDeclaration, program, property, variableDeclarator, catchClause]

theorem mem_all (kind : NodeKind) : kind ∈ all := by cases kind <;> decide

end NodeKind

inductive DeclarationKind where
  | var | let | const
deriving DecidableEq, Repr

def DeclarationKind.name : DeclarationKind → String
  | var => "var"
  | .let => "let"
  | const => "const"

/-- What a property stands for: its value, or a function that gives or takes it. -/
inductive PropertyKind where
  | init | get | set
deriving DecidableEq, Repr

def PropertyKind.name : PropertyKind → String
  | init => "init"
  | get => "get"
  | set => "set"

inductive SourceType where
  | script | moduleFile
deriving DecidableEq, Repr

def SourceType.name : SourceType → String
  | script => "script"
  | moduleFile => "module"

mutual

inductive Expr where
  | identifier (loc : Option Location) (name : String)
  | literal (loc : Option Location) (value : Literal)
  | thisObject (loc : Option Location)
  | array (loc : Option Location) (elements : List Expr)
  | object (loc : Option Location) (properties : List Property)
  | function (loc : Option Location) (definition : Function)
  | arrow (loc : Option Location) (definition : Function)
  | unary (loc : Option Location) (op : UnaryOp) (argument : Expr)
  | binary (loc : Option Location) (op : BinaryOp) (left right : Expr)
  | logical (loc : Option Location) (op : LogicalOp) (left right : Expr)
  | conditional (loc : Option Location) (test consequent alternate : Expr)
  | assignment (loc : Option Location) (op : AssignOp) (left right : Expr)
  | call (loc : Option Location) (callee : Expr) (arguments : List Expr)
  | construct (loc : Option Location) (callee : Expr) (arguments : List Expr)
  | member (loc : Option Location) (object property : Expr) (computed : Bool)
  | sequence (loc : Option Location) (items : List Expr)
  | yielding (loc : Option Location) (argument : Option Expr) (delegate : Bool)
  | awaiting (loc : Option Location) (argument : Expr)

inductive Property where
  | mk (loc : Option Location) (key value : Expr) (kind : PropertyKind)
      (method shorthand computed : Bool)

inductive Function where
  | mk (loc : Option Location) (id : Option Expr) (params : List Expr) (body : Block)
      (generator async : Bool)

inductive Block where
  | mk (loc : Option Location) (body : List Stmt)

inductive Catch where
  | mk (loc : Option Location) (param : Option Expr) (body : Block)

inductive Declarator where
  | mk (loc : Option Location) (id : Expr) (init : Option Expr)

inductive Stmt where
  | expression (loc : Option Location) (value : Expr)
  | block (loc : Option Location) (body : Block)
  | empty (loc : Option Location)
  | ifElse (loc : Option Location) (test : Expr) (consequent : Stmt) (alternate : Option Stmt)
  | whileLoop (loc : Option Location) (test : Expr) (body : Stmt)
  | doWhile (loc : Option Location) (body : Stmt) (test : Expr)
  | forIn (loc : Option Location) (left right : Expr) (body : Stmt)
  | forOf (loc : Option Location) (left right : Expr) (body : Stmt)
  | returning (loc : Option Location) (argument : Option Expr)
  | breaking (loc : Option Location)
  | continuing (loc : Option Location)
  | throwing (loc : Option Location) (argument : Expr)
  | trying (loc : Option Location) (block : Block) (handler : Option Catch)
      (finalizer : Option Block)
  | declaring (loc : Option Location) (kind : DeclarationKind) (declarators : List Declarator)

end

structure Program where
  loc : Option Location
  body : List Stmt
  sourceType : SourceType

def Expr.kind : Expr → NodeKind
  | identifier .. => .identifier
  | literal .. => .literal
  | thisObject .. => .thisExpression
  | array .. => .arrayExpression
  | object .. => .objectExpression
  | function .. => .functionExpression
  | arrow .. => .arrowFunctionExpression
  | unary .. => .unaryExpression
  | binary .. => .binaryExpression
  | logical .. => .logicalExpression
  | conditional .. => .conditionalExpression
  | assignment .. => .assignmentExpression
  | call .. => .callExpression
  | construct .. => .newExpression
  | member .. => .memberExpression
  | sequence .. => .sequenceExpression
  | yielding .. => .yieldExpression
  | awaiting .. => .awaitExpression

def Stmt.kind : Stmt → NodeKind
  | expression .. => .expressionStatement
  | block .. => .blockStatement
  | empty .. => .emptyStatement
  | ifElse .. => .ifStatement
  | whileLoop .. => .whileStatement
  | doWhile .. => .doWhileStatement
  | forIn .. => .forInStatement
  | forOf .. => .forOfStatement
  | returning .. => .returnStatement
  | breaking .. => .breakStatement
  | continuing .. => .continueStatement
  | throwing .. => .throwStatement
  | trying .. => .tryStatement
  | declaring .. => .variableDeclaration

end Offside.Target
