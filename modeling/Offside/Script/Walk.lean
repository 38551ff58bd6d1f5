import Offside.Script.Tree

/-! Walking over a script in reading order. A walk records what it comes upon and may stop at a name;
what was recorded up to there is then kept. -/

namespace Offside.Script

inductive Event where
  /-- A statement, expression or property is entered. -/
  | node (kind : String)
  | name (name : String)
deriving DecidableEq, Repr

/-- How to walk: whether nodes are recorded beside names, whether functions are entered, and the name
to stop at. -/
structure Walk where
  nodes : Bool := false
  functions : Bool := true
  stopAt : Option String := none

/-- A walk that stopped, with its record, the latest event first. -/
structure Halt where
  name : String
  record : List Event
deriving DecidableEq, Repr

namespace Walk

def enter (walk : Walk) (kind : String) (record : List Event) : List Event :=
  if walk.nodes then .node kind :: record else record

def visit (walk : Walk) (name : String) (record : List Event) : Except Halt (List Event) :=
  if walk.stopAt = some name then .error ⟨name, record⟩ else .ok (.name name :: record)

variable (walk : Walk)

mutual

def expr (node : Expr) (before : List Event) : Except Halt (List Event) :=
  let record := walk.enter node.kindName before
  match node with
  | .identifier _ name => walk.visit name record
  | .literal .. | .thisObject _ | .virtualObject _ => .ok record
  | .array _ items | .sequence _ items | .compareChain _ items _ => exprs items record
  | .object _ items => properties items record
  | .function _ definition => function definition record
  | .unary _ _ argument | .awaiting _ argument => expr argument record
  | .binary _ _ left right | .logical _ _ left right | .assignment _ _ left right
  | .member _ left right _ => do expr right (← expr left record)
  | .conditional _ test consequent alternate => do
    expr alternate (← expr consequent (← expr test record))
  | .call _ callee arguments | .construct _ callee arguments => do
    exprs arguments (← expr callee record)
  | .yielding _ argument _ => option argument record

def exprs : List Expr → List Event → Except Halt (List Event)
  | [], record => .ok record
  | item :: items, record => do exprs items (← expr item record)

def option : Option Expr → List Event → Except Halt (List Event)
  | none, record => .ok record
  | some item, record => expr item record

def property (node : Property) (before : List Event) : Except Halt (List Event) :=
  let record := walk.enter node.kindName before
  match node with
  | .keyValue _ key value => do expr value (← expr key record)
  | .method _ key definition => do function definition (← expr key record)

def properties : List Property → List Event → Except Halt (List Event)
  | [], record => .ok record
  | item :: items, record => do properties items (← property item record)

def function : Function → List Event → Except Halt (List Event)
  | .mk _ params body _ _ _, record =>
    if walk.functions then do block body (← exprs params record) else .ok record

def block : Block → List Event → Except Halt (List Event)
  | .mk _ body, record => stmts body record

def handler : Catch → List Event → Except Halt (List Event)
  | .mk _ param body, record => do block body (← option param record)

def declarator : Declarator → List Event → Except Halt (List Event)
  | .mk _ id init _, record => do option init (← expr id record)

def declarators : List Declarator → List Event → Except Halt (List Event)
  | [], record => .ok record
  | item :: items, record => do declarators items (← declarator item record)

def stmt (node : Stmt) (before : List Event) : Except Halt (List Event) :=
  let record := walk.enter node.kindName before
  match node with
  | .expression _ value | .throwing _ value => expr value record
  | .block _ body => block body record
  | .empty _ | .breaking _ | .continuing _ => .ok record
  | .ifElse _ test consequent none => do stmt consequent (← expr test record)
  | .ifElse _ test consequent (some alternate) => do
    stmt alternate (← stmt consequent (← expr test record))
  | .whileLoop _ test body | .doWhile _ body test => do stmt body (← expr test record)
  | .forIn _ left right body | .forOf _ left right body => do
    stmt body (← expr right (← expr left record))
  | .returning _ argument | .yielding _ argument => option argument record
  | .trying _ body none none => block body record
  | .trying _ body (some clause) none => do handler clause (← block body record)
  | .trying _ body none (some finalizer) => do block finalizer (← block body record)
  | .trying _ body (some clause) (some finalizer) => do
    block finalizer (← handler clause (← block body record))
  | .declaring _ items => declarators items record
  | .function _ id definition => do function definition (← expr id record)
  | .assignment _ _ left right => do expr right (← expr left record)
  | .cascade _ root steps _ => do stmts steps (← expr root record)

def stmts : List Stmt → List Event → Except Halt (List Event)
  | [], record => .ok record
  | item :: items, record => do stmts items (← stmt item record)

end

/-- Walks over a program. Gives the events in order, and the name at which the walk stopped. -/
def program (program : Program) : List Event × Option String :=
  match walk.stmts program.body [] with
  | .ok record => (record.reverse, none)
  | .error halt => (halt.record.reverse, some halt.name)

end Walk

end Offside.Script
