import Offside.Script.Names
import Offside.Target.Tree

/-! The nodes of a tree in reading order, each with what the nodes around it make of it. A node comes
before its parts. Of a script node the list also says in what surroundings it stands; that is all the
context on which its lowering depends. -/

namespace Offside

/-- What the node around an expression uses it for. -/
inductive Role where
  | plain
  /-- The left side of an assignment. -/
  | assigned
  /-- What a declarator or a function declaration declares. -/
  | declared
deriving DecidableEq, Repr

namespace Target

inductive Node where
  | expr (role : Role) (node : Expr)
  | property (node : Property)
  | function (node : Function)
  | block (node : Block)
  | handler (node : Catch)
  | declarator (node : Declarator)
  | stmt (node : Stmt)

mutual

def Expr.nodes (role : Role) (node : Expr) : List Node :=
  .expr role node :: match node with
  | .identifier .. | .literal .. | .thisObject _ => []
  | .array _ items | .sequence _ items => exprNodes items
  | .object _ properties => propertyNodes properties
  | .function _ definition | .arrow _ definition => definition.nodes
  | .unary _ _ argument | .awaiting _ argument => argument.nodes .plain
  | .binary _ _ left right | .logical _ _ left right | .member _ left right _ =>
    left.nodes .plain ++ right.nodes .plain
  | .assignment _ _ left right => left.nodes .assigned ++ right.nodes .plain
  | .conditional _ test consequent alternate =>
    test.nodes .plain ++ consequent.nodes .plain ++ alternate.nodes .plain
  | .call _ callee arguments | .construct _ callee arguments =>
    callee.nodes .plain ++ exprNodes arguments
  | .yielding _ argument _ => optionNodes argument

def exprNodes : List Expr → List Node
  | [] => []
  | expr :: exprs => expr.nodes .plain ++ exprNodes exprs

def optionNodes : Option Expr → List Node
  | none => []
  | some expr => expr.nodes .plain

def Property.nodes (node : Property) : List Node :=
  .property node :: match node with
  | .mk _ key value _ _ _ _ => key.nodes .plain ++ value.nodes .plain

def propertyNodes : List Property → List Node
  | [] => []
  | property :: properties => property.nodes ++ propertyNodes properties

def Function.nodes (node : Function) : List Node :=
  .function node :: match node with
  | .mk _ none params body _ _ => exprNodes params ++ body.nodes
  | .mk _ (some id) params body _ _ => id.nodes .declared ++ exprNodes params ++ body.nodes

def Block.nodes (node : Block) : List Node :=
  .block node :: match node with
  | .mk _ body => stmtNodes body

def Catch.nodes (node : Catch) : List Node :=
  .handler node :: match node with
  | .mk _ param body => optionNodes param ++ body.nodes

def Declarator.nodes (node : Declarator) : List Node :=
  .declarator node :: match node with
  | .mk _ id init => id.nodes .declared ++ optionNodes init

def declaratorNodes : List Declarator → List Node
  | [] => []
  | declarator :: declarators => declarator.nodes ++ declaratorNodes declarators

def Stmt.nodes (node : Stmt) : List Node :=
  .stmt node :: match node with
  | .expression _ value | .throwing _ value => value.nodes .plain
  | .block _ body => body.nodes
  | .empty _ | .breaking _ | .continuing _ => []
  | .ifElse _ test consequent none => test.nodes .plain ++ consequent.nodes
  | .ifElse _ test consequent (some alternate) =>
    test.nodes .plain ++ consequent.nodes ++ alternate.nodes
  | .whileLoop _ test body => test.nodes .plain ++ body.nodes
  | .doWhile _ body test => body.nodes ++ test.nodes .plain
  | .forIn _ left right body | .forOf _ left right body =>
    left.nodes .plain ++ right.nodes .plain ++ body.nodes
  | .returning _ argument => optionNodes argument
  | .trying _ block none none => block.nodes
  | .trying _ block (some handler) none => block.nodes ++ handler.nodes
  | .trying _ block none (some finalizer) => block.nodes ++ finalizer.nodes
  | .trying _ block (some handler) (some finalizer) =>
    block.nodes ++ handler.nodes ++ finalizer.nodes
  | .declaring _ _ declarators => declaratorNodes declarators

def stmtNodes : List Stmt → List Node
  | [] => []
  | stmt :: stmts => stmt.nodes ++ stmtNodes stmts

end

def Program.nodes (program : Program) : List Node := stmtNodes program.body

@[simp] theorem stmtNodes_append (before after : List Stmt) :
    stmtNodes (before ++ after) = stmtNodes before ++ stmtNodes after := by
  induction before with
  | nil => rfl
  | cons stmt stmts ih => simp [stmtNodes, ih]

@[simp] theorem declaratorNodes_append (before after : List Declarator) :
    declaratorNodes (before ++ after) = declaratorNodes before ++ declaratorNodes after := by
  induction before with
  | nil => rfl
  | cons declarator declarators ih => simp [declaratorNodes, ih]

namespace Node

/-- The name of an identifier. -/
def name? : Node → Option String
  | expr _ (.identifier _ name) => some name
  | _ => none

def literal? : Node → Option Literal
  | expr _ (.literal _ value) => some value
  | _ => none

/-- The statements of a block. -/
def body? : Node → Option (List Stmt)
  | block (.mk _ body) => some body
  | _ => none

/-- The role in which a node names `name`, if it does. -/
def roleOf? (name : String) : Node → Option Role
  | expr role (.identifier _ other) => if other = name then some role else none
  | _ => none

end Node

/-- The roles in which a name stands, in reading order. -/
def rolesOf (name : String) (nodes : List Node) : List Role := nodes.filterMap (Node.roleOf? name)

namespace Program

/-- The identifier names of a program, in reading order. -/
def identifiers (program : Program) : List String := program.nodes.filterMap Node.name?

def literals (program : Program) : List Literal := program.nodes.filterMap Node.literal?

/-- The statement lists of a program: its own and those of its blocks. -/
def bodies (program : Program) : List (List Stmt) :=
  program.body :: program.nodes.filterMap Node.body?

end Program

end Target

namespace Script

/-- What surrounds a node. -/
structure Place where
  /-- Whether it lies in a step of a cascade. -/
  inStep : Bool
  /-- Whether the nearest body, step list or method definition around it is a method definition. -/
  inMethod : Bool
deriving DecidableEq, Repr

namespace Place

/-- Inside a body. -/
def inBody (place : Place) : Place := ⟨place.inStep, false⟩

def inDefinition (place : Place) : Place := ⟨place.inStep, true⟩

/-- Inside a step of a cascade. -/
def step : Place := ⟨true, false⟩

end Place

/-- A statement is alone where only one statement may stand. -/
inductive Node where
  | expr (place : Place) (role : Role) (node : Expr)
  | property (node : Property)
  | function (place : Place) (node : Function)
  | block (node : Block)
  | handler (node : Catch)
  | declarator (node : Declarator)
  | stmt (alone : Bool) (node : Stmt)

mutual

def Expr.nodes (place : Place) (role : Role) (node : Expr) : List Node :=
  .expr place role node :: match node with
  | .identifier .. | .literal .. | .thisObject _ | .virtualObject _ => []
  | .array _ items | .sequence _ items | .compareChain _ items _ => exprNodes place items
  | .object _ properties => propertyNodes place properties
  | .function _ definition => definition.nodes place
  | .unary _ _ argument | .awaiting _ argument => argument.nodes place .plain
  | .binary _ _ left right | .logical _ _ left right | .member _ left right _ =>
    left.nodes place .plain ++ right.nodes place .plain
  | .assignment _ _ left right => left.nodes place .assigned ++ right.nodes place .plain
  | .conditional _ test consequent alternate =>
    test.nodes place .plain ++ consequent.nodes place .plain ++ alternate.nodes place .plain
  | .call _ callee arguments | .construct _ callee arguments =>
    callee.nodes place .plain ++ exprNodes place arguments
  | .yielding _ argument _ => optionNodes place argument

def exprNodes (place : Place) : List Expr → List Node
  | [] => []
  | expr :: exprs => expr.nodes place .plain ++ exprNodes place exprs

def optionNodes (place : Place) : Option Expr → List Node
  | none => []
  | some expr => expr.nodes place .plain

def Property.nodes (place : Place) (node : Property) : List Node :=
  .property node :: match node with
  | .keyValue _ key value => key.nodes place .plain ++ value.nodes place .plain
  | .method _ key definition => key.nodes place .plain ++ definition.nodes place.inDefinition

def propertyNodes (place : Place) : List Property → List Node
  | [] => []
  | property :: properties => property.nodes place ++ propertyNodes place properties

/-- The parameters of a function stand in the same place as the function. -/
def Function.nodes (place : Place) (node : Function) : List Node :=
  .function place node :: match node with
  | .mk _ params body _ _ _ => exprNodes place params ++ body.nodes place

def Block.nodes (place : Place) (node : Block) : List Node :=
  .block node :: match node with
  | .mk _ body => stmtNodes place.inBody body

def Catch.nodes (place : Place) (node : Catch) : List Node :=
  .handler node :: match node with
  | .mk _ param body => optionNodes place param ++ body.nodes place

def Declarator.nodes (place : Place) (node : Declarator) : List Node :=
  .declarator node :: match node with
  | .mk _ id init _ => id.nodes place .declared ++ optionNodes place init

def declaratorNodes (place : Place) : List Declarator → List Node
  | [] => []
  | declarator :: declarators => declarator.nodes place ++ declaratorNodes place declarators

def Stmt.nodes (place : Place) (alone : Bool) (node : Stmt) : List Node :=
  .stmt alone node :: match node with
  | .expression _ value | .throwing _ value => value.nodes place .plain
  | .block _ body => body.nodes place
  | .empty _ | .breaking _ | .continuing _ => []
  | .ifElse _ test consequent none => test.nodes place .plain ++ consequent.nodes place true
  | .ifElse _ test consequent (some alternate) =>
    test.nodes place .plain ++ consequent.nodes place true ++ alternate.nodes place true
  | .whileLoop _ test body | .doWhile _ body test =>
    test.nodes place .plain ++ body.nodes place true
  | .forIn _ left right body | .forOf _ left right body =>
    left.nodes place .plain ++ right.nodes place .plain ++ body.nodes place true
  | .returning _ argument | .yielding _ argument => optionNodes place argument
  | .trying _ block none none => block.nodes place
  | .trying _ block (some handler) none => block.nodes place ++ handler.nodes place
  | .trying _ block none (some finalizer) => block.nodes place ++ finalizer.nodes place
  | .trying _ block (some handler) (some finalizer) =>
    block.nodes place ++ handler.nodes place ++ finalizer.nodes place
  | .declaring _ declarators => declaratorNodes place declarators
  | .function _ id definition => id.nodes place .declared ++ definition.nodes place
  | .assignment _ _ left right => left.nodes place .assigned ++ right.nodes place .plain
  | .cascade _ root steps _ => root.nodes place .plain ++ stmtNodes .step steps

def stmtNodes (place : Place) : List Stmt → List Node
  | [] => []
  | stmt :: stmts => stmt.nodes place false ++ stmtNodes place stmts

end

/-- A whole program lies in no step and in no method. -/
def Program.nodes (program : Program) : List Node := stmtNodes ⟨false, false⟩ program.body

namespace Node

/-- The name of an identifier. -/
def name? : Node → Option String
  | expr _ _ (.identifier _ name) => some name
  | _ => none

def literal? : Node → Option Literal
  | expr _ _ (.literal _ value) => some value
  | _ => none

/-- A floor division, apart from comparison chains. -/
def isFloorDivision : Node → Bool
  | expr _ _ (.binary _ .floorDiv _ _) => true
  | _ => false

/-- A generator that captures the surrounding `this`. -/
def isBoundGenerator : Node → Bool
  | function place (.mk _ _ _ bound generator _) => bound.getD !place.inMethod && generator
  | _ => false

/-- A virtual object in a role. -/
def isVirtual (role : Role) : Node → Bool
  | expr _ actual (.virtualObject _) => actual == role
  | _ => false

end Node

mutual

theorem Expr.nodes_names (place : Place) (role : Role) : ∀ node : Expr,
    (node.nodes place role).filterMap Node.name? = node.names
  | .identifier .. => rfl
  | .literal .. => rfl
  | .thisObject _ => rfl
  | .virtualObject _ => rfl
  | .array _ items => by
    rw [Expr.nodes, List.filterMap_cons_none rfl, exprNodes_names place items, Expr.names]
  | .sequence _ items => by
    rw [Expr.nodes, List.filterMap_cons_none rfl, exprNodes_names place items, Expr.names]
  | .compareChain _ items _ => by
    rw [Expr.nodes, List.filterMap_cons_none rfl, exprNodes_names place items, Expr.names]
  | .object _ properties => by
    rw [Expr.nodes, List.filterMap_cons_none rfl, propertyNodes_names place properties, Expr.names]
  | .function _ definition => by
    rw [Expr.nodes, List.filterMap_cons_none rfl, definition.nodes_names place, Expr.names]
  | .unary _ _ argument => by
    rw [Expr.nodes, List.filterMap_cons_none rfl, argument.nodes_names place .plain, Expr.names]
  | .awaiting _ argument => by
    rw [Expr.nodes, List.filterMap_cons_none rfl, argument.nodes_names place .plain, Expr.names]
  | .binary _ _ left right => by
    rw [Expr.nodes, List.filterMap_cons_none rfl, List.filterMap_append,
      left.nodes_names place .plain, right.nodes_names place .plain, Expr.names]
  | .logical _ _ left right => by
    rw [Expr.nodes, List.filterMap_cons_none rfl, List.filterMap_append,
      left.nodes_names place .plain, right.nodes_names place .plain, Expr.names]
  | .member _ left right _ => by
    rw [Expr.nodes, List.filterMap_cons_none rfl, List.filterMap_append,
      left.nodes_names place .plain, right.nodes_names place .plain, Expr.names]
  | .assignment _ _ left right => by
    rw [Expr.nodes, List.filterMap_cons_none rfl, List.filterMap_append,
      left.nodes_names place .assigned, right.nodes_names place .plain, Expr.names]
  | .conditional _ test consequent alternate => by
    rw [Expr.nodes, List.filterMap_cons_none rfl, List.filterMap_append, List.filterMap_append,
      test.nodes_names place .plain, consequent.nodes_names place .plain,
      alternate.nodes_names place .plain, Expr.names]
  | .call _ callee arguments => by
    rw [Expr.nodes, List.filterMap_cons_none rfl, List.filterMap_append,
      callee.nodes_names place .plain, exprNodes_names place arguments, Expr.names]
  | .construct _ callee arguments => by
    rw [Expr.nodes, List.filterMap_cons_none rfl, List.filterMap_append,
      callee.nodes_names place .plain, exprNodes_names place arguments, Expr.names]
  | .yielding _ argument _ => by
    rw [Expr.nodes, List.filterMap_cons_none rfl, optionNodes_names place argument, Expr.names]

theorem exprNodes_names (place : Place) : ∀ exprs : List Expr,
    (exprNodes place exprs).filterMap Node.name? = exprNames exprs
  | [] => rfl
  | expr :: exprs => by
    rw [exprNodes, List.filterMap_append, expr.nodes_names place .plain,
      exprNodes_names place exprs, exprNames]

theorem optionNodes_names (place : Place) : ∀ option : Option Expr,
    (optionNodes place option).filterMap Node.name? = optionNames option
  | none => rfl
  | some expr => by
    rw [optionNodes, expr.nodes_names place .plain, optionNames]

theorem Property.nodes_names (place : Place) : ∀ node : Property,
    (node.nodes place).filterMap Node.name? = node.names
  | .keyValue _ key value => by
    rw [Property.nodes, List.filterMap_cons_none rfl, List.filterMap_append,
      key.nodes_names place .plain, value.nodes_names place .plain, Property.names]
  | .method _ key definition => by
    rw [Property.nodes, List.filterMap_cons_none rfl, List.filterMap_append,
      key.nodes_names place .plain, definition.nodes_names place.inDefinition, Property.names]

theorem propertyNodes_names (place : Place) : ∀ properties : List Property,
    (propertyNodes place properties).filterMap Node.name? = propertyNames properties
  | [] => rfl
  | property :: properties => by
    rw [propertyNodes, List.filterMap_append, property.nodes_names place,
      propertyNodes_names place properties, propertyNames]

theorem Function.nodes_names (place : Place) : ∀ node : Function,
    (node.nodes place).filterMap Node.name? = node.names
  | .mk _ params body _ _ _ => by
    rw [Function.nodes, List.filterMap_cons_none rfl, List.filterMap_append,
      exprNodes_names place params, body.nodes_names place, Function.names]

theorem Block.nodes_names (place : Place) : ∀ node : Block,
    (node.nodes place).filterMap Node.name? = node.names
  | .mk _ body => by
    rw [Block.nodes, List.filterMap_cons_none rfl, stmtNodes_names place.inBody body, Block.names]

theorem Catch.nodes_names (place : Place) : ∀ node : Catch,
    (node.nodes place).filterMap Node.name? = node.names
  | .mk _ param body => by
    rw [Catch.nodes, List.filterMap_cons_none rfl, List.filterMap_append,
      optionNodes_names place param, body.nodes_names place, Catch.names]

theorem Declarator.nodes_names (place : Place) : ∀ node : Declarator,
    (node.nodes place).filterMap Node.name? = node.names
  | .mk _ id init _ => by
    rw [Declarator.nodes, List.filterMap_cons_none rfl, List.filterMap_append,
      id.nodes_names place .declared, optionNodes_names place init, Declarator.names]

theorem declaratorNodes_names (place : Place) : ∀ declarators : List Declarator,
    (declaratorNodes place declarators).filterMap Node.name? = declaratorNames declarators
  | [] => rfl
  | declarator :: declarators => by
    rw [declaratorNodes, List.filterMap_append, declarator.nodes_names place,
      declaratorNodes_names place declarators, declaratorNames]

theorem Stmt.nodes_names (place : Place) (alone : Bool) : ∀ node : Stmt,
    (node.nodes place alone).filterMap Node.name? = node.names
  | .expression _ value => by
    rw [Stmt.nodes, List.filterMap_cons_none rfl, value.nodes_names place .plain, Stmt.names]
  | .throwing _ value => by
    rw [Stmt.nodes, List.filterMap_cons_none rfl, value.nodes_names place .plain, Stmt.names]
  | .block _ body => by
    rw [Stmt.nodes, List.filterMap_cons_none rfl, body.nodes_names place, Stmt.names]
  | .empty _ => rfl
  | .breaking _ => rfl
  | .continuing _ => rfl
  | .ifElse _ test consequent none => by
    rw [Stmt.nodes, List.filterMap_cons_none rfl, List.filterMap_append,
      test.nodes_names place .plain, consequent.nodes_names place true, Stmt.names]
  | .ifElse _ test consequent (some alternate) => by
    rw [Stmt.nodes, List.filterMap_cons_none rfl, List.filterMap_append, List.filterMap_append,
      test.nodes_names place .plain, consequent.nodes_names place true,
      alternate.nodes_names place true, Stmt.names]
  | .whileLoop _ test body => by
    rw [Stmt.nodes, List.filterMap_cons_none rfl, List.filterMap_append,
      test.nodes_names place .plain, body.nodes_names place true, Stmt.names]
  | .doWhile _ body test => by
    rw [Stmt.nodes, List.filterMap_cons_none rfl, List.filterMap_append,
      test.nodes_names place .plain, body.nodes_names place true, Stmt.names]
  | .forIn _ left right body => by
    rw [Stmt.nodes, List.filterMap_cons_none rfl, List.filterMap_append, List.filterMap_append,
      left.nodes_names place .plain, right.nodes_names place .plain, body.nodes_names place true,
      Stmt.names]
  | .forOf _ left right body => by
    rw [Stmt.nodes, List.filterMap_cons_none rfl, List.filterMap_append, List.filterMap_append,
      left.nodes_names place .plain, right.nodes_names place .plain, body.nodes_names place true,
      Stmt.names]
  | .returning _ argument => by
    rw [Stmt.nodes, List.filterMap_cons_none rfl, optionNodes_names place argument, Stmt.names]
  | .yielding _ argument => by
    rw [Stmt.nodes, List.filterMap_cons_none rfl, optionNodes_names place argument, Stmt.names]
  | .trying _ block none none => by
    rw [Stmt.nodes, List.filterMap_cons_none rfl, block.nodes_names place, Stmt.names]
  | .trying _ block (some handler) none => by
    rw [Stmt.nodes, List.filterMap_cons_none rfl, List.filterMap_append, block.nodes_names place,
      handler.nodes_names place, Stmt.names]
  | .trying _ block none (some finalizer) => by
    rw [Stmt.nodes, List.filterMap_cons_none rfl, List.filterMap_append, block.nodes_names place,
      finalizer.nodes_names place, Stmt.names]
  | .trying _ block (some handler) (some finalizer) => by
    rw [Stmt.nodes, List.filterMap_cons_none rfl, List.filterMap_append, List.filterMap_append,
      block.nodes_names place, handler.nodes_names place, finalizer.nodes_names place, Stmt.names]
  | .declaring _ declarators => by
    rw [Stmt.nodes, List.filterMap_cons_none rfl, declaratorNodes_names place declarators,
      Stmt.names]
  | .function _ id definition => by
    rw [Stmt.nodes, List.filterMap_cons_none rfl, List.filterMap_append,
      id.nodes_names place .declared, definition.nodes_names place, Stmt.names]
  | .assignment _ _ left right => by
    rw [Stmt.nodes, List.filterMap_cons_none rfl, List.filterMap_append,
      left.nodes_names place .assigned, right.nodes_names place .plain, Stmt.names]
  | .cascade _ root steps _ => by
    rw [Stmt.nodes, List.filterMap_cons_none rfl, List.filterMap_append,
      root.nodes_names place .plain, stmtNodes_names .step steps, Stmt.names]

theorem stmtNodes_names (place : Place) : ∀ stmts : List Stmt,
    (stmtNodes place stmts).filterMap Node.name? = stmtNames stmts
  | [] => rfl
  | stmt :: stmts => by
    rw [stmtNodes, List.filterMap_append, stmt.nodes_names place false, stmtNodes_names place stmts,
      stmtNames]

end

namespace Program

/-- The identifier names of a program. -/
def identifiers (program : Program) : List String := program.nodes.filterMap Node.name?

def literals (program : Program) : List Literal := program.nodes.filterMap Node.literal?

/-- The names collected from a program are the names of its identifier nodes. -/
theorem identifiers_eq_names (program : Program) : program.identifiers = program.names :=
  stmtNodes_names ⟨false, false⟩ program.body

end Program

end Script

end Offside
