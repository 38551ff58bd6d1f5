import Offside.Proofs.Locations

/-! The outline of a tree: of every node the name of its kind, where it stands, what it says apart from
its parts, and its parts in order, each with its role. Scripts and their targets have outlines of one
type, so their shapes can be compared. `Outline.copied` is all that a faithful copy may change. -/

namespace Offside

/-- What a node says apart from its parts. -/
inductive Detail where
  | operator (symbol : String)
  | name (text : String)
  | literal (value : Literal)
  | flag (name : String) (value : Bool)
  | count (value : Nat)
deriving DecidableEq, Repr

/-- A node with the role that it has in the node around it. -/
inductive Outline where
  | node (role kind : String) (loc : Option Location) (details : List Detail)
      (parts : List Outline)

/-- The target spells the power operators in its own way. -/
def respelled (operator : String) : String :=
  if operator = "^" then "**" else if operator = "^=" then "**=" else operator

@[simp] def Detail.copied : Detail → Detail
  | .operator symbol => .operator (respelled symbol)
  | detail => detail

namespace Outline

@[simp] def parts : Outline → List Outline
  | .node _ _ _ _ parts => parts

mutual

/-- The copy of a node that stands somewhere in a statement at `around`. Blocks and catch clauses take
that location if they have none; every other node keeps its own. -/
def copied (around : Option Location) : Outline → Outline
  | .node role kind loc details parts =>
    if kind = "Block" ∨ kind = "CatchClause" then
      .node role kind (loc.or around) (details.map Detail.copied) (copiedAll around parts)
    else if kind = "AssignmentProperty" then
      .node role "Property" loc
        [.name "init", .flag "method" false, .flag "shorthand" false, .flag "computed" false]
        (copiedAll loc parts)
    else if kind = "Program" then .node role kind loc [.name "script"] (copiedAll loc parts)
    else .node role kind loc (details.map Detail.copied) (copiedAll loc parts)

@[simp] def copiedAll (around : Option Location) : List Outline → List Outline
  | [] => []
  | part :: parts => part.copied around :: copiedAll around parts

end

@[simp] theorem copiedAll_append (around : Option Location) (before after : List Outline) :
    copiedAll around (before ++ after) = copiedAll around before ++ copiedAll around after := by
  induction before with
  | nil => rfl
  | cons part parts ih => simp [ih]

end Outline

namespace Script

@[simp] def Expr.details : Expr → List Detail
  | .identifier _ name => [.name name]
  | .literal _ value => [.literal value]
  | .unary _ op _ => [.operator op.name]
  | .binary _ op _ _ => [.operator op.name]
  | .logical _ op _ _ => [.operator op.name]
  | .assignment _ op _ _ => [.operator op.name]
  | .member _ _ _ computed => [.flag "computed" computed]
  | .yielding _ _ delegate => [.flag "delegate" delegate]
  | .compareChain _ _ operators => operators.map fun op => .operator op.name
  | _ => []

def Function.details : Function → List Detail
  | .mk _ _ _ bound generator async =>
    bound.toList.map (.flag "bound") ++ [.flag "generator" generator, .flag "async" async]

@[simp] def Stmt.details : Stmt → List Detail
  | .assignment _ op _ _ => [.operator op.name]
  | .cascade _ _ _ degrees => degrees.map .count
  | _ => []

mutual

def Expr.outline (role : String) (node : Expr) : Outline :=
  .node role node.kindName node.loc node.details <| match node with
  | .identifier .. | .literal .. | .thisObject _ | .virtualObject _ => []
  | .array _ elements => exprOutlines "elements" elements
  | .object _ properties => propertyOutlines properties
  | .function _ definition => [definition.outline "function"]
  | .unary _ _ argument | .awaiting _ argument => [argument.outline "argument"]
  | .binary _ _ left right | .logical _ _ left right | .assignment _ _ left right =>
    [left.outline "left", right.outline "right"]
  | .conditional _ test consequent alternate =>
    [test.outline "test", consequent.outline "consequent", alternate.outline "alternate"]
  | .call _ callee arguments | .construct _ callee arguments =>
    callee.outline "callee" :: exprOutlines "arguments" arguments
  | .member _ object property _ => [object.outline "object", property.outline "property"]
  | .sequence _ items | .compareChain _ items _ => exprOutlines "expressions" items
  | .yielding _ argument _ => optionOutlines "argument" argument

def exprOutlines (role : String) : List Expr → List Outline
  | [] => []
  | expr :: exprs => expr.outline role :: exprOutlines role exprs

def optionOutlines (role : String) : Option Expr → List Outline
  | none => []
  | some expr => [expr.outline role]

def Property.outline (node : Property) : Outline :=
  .node "properties" node.kindName node.loc [] <| match node with
  | .keyValue _ key value => [key.outline "key", value.outline "value"]
  | .method _ key definition => [key.outline "id", definition.outline "definition"]

def propertyOutlines : List Property → List Outline
  | [] => []
  | property :: properties => property.outline :: propertyOutlines properties

def Function.outline (role : String) (node : Function) : Outline :=
  .node role "Function" node.loc node.details <| match node with
  | .mk _ params body _ _ _ => exprOutlines "params" params ++ [body.outline "body"]

def Block.outline (role : String) : Block → Outline
  | .mk loc body => .node role "Block" loc [] (stmtOutlines "body" body)

def Catch.outline (role : String) : Catch → Outline
  | .mk loc param body =>
    .node role "CatchClause" loc [] (optionOutlines "param" param ++ [body.outline "body"])

def Declarator.outline : Declarator → Outline
  | .mk loc id init constant =>
    .node "declarators" "VariableDeclarator" loc [.flag "constant" constant]
      (id.outline "id" :: optionOutlines "init" init)

def declaratorOutlines : List Declarator → List Outline
  | [] => []
  | declarator :: declarators => declarator.outline :: declaratorOutlines declarators

def handlerOutlines : Option Catch → List Outline
  | none => []
  | some handler => [handler.outline "handler"]

def finalizerOutlines : Option Block → List Outline
  | none => []
  | some finalizer => [finalizer.outline "finalizer"]

def alternateOutlines : Option Stmt → List Outline
  | none => []
  | some alternate => [alternate.outline "alternate"]

def Stmt.outline (role : String) (node : Stmt) : Outline :=
  .node role node.kindName node.loc node.details <| match node with
  | .expression _ value => [value.outline "expression"]
  | .block _ body => [body.outline "block"]
  | .empty _ | .breaking _ | .continuing _ => []
  | .ifElse _ test consequent alternate =>
    test.outline "test" :: consequent.outline "consequent" :: alternateOutlines alternate
  | .whileLoop _ test body => [test.outline "test", body.outline "body"]
  | .doWhile _ body test => [body.outline "body", test.outline "test"]
  | .forIn _ left right body | .forOf _ left right body =>
    [left.outline "left", right.outline "right", body.outline "body"]
  | .returning _ argument | .yielding _ argument => optionOutlines "argument" argument
  | .throwing _ argument => [argument.outline "argument"]
  | .trying _ block handler finalizer =>
    block.outline "block" :: (handlerOutlines handler ++ finalizerOutlines finalizer)
  | .declaring _ declarators => declaratorOutlines declarators
  | .function _ id definition => [id.outline "id", definition.outline "value"]
  | .assignment _ _ left right => [left.outline "left", right.outline "right"]
  | .cascade _ root steps _ => root.outline "root" :: stmtOutlines "statements" steps

def stmtOutlines (role : String) : List Stmt → List Outline
  | [] => []
  | stmt :: stmts => stmt.outline role :: stmtOutlines role stmts

end

def Program.outline (program : Program) : Outline :=
  .node "program" "Program" program.loc [] (stmtOutlines "body" program.body)

end Script

namespace Target

@[simp] def Expr.details : Expr → List Detail
  | .identifier _ name => [.name name]
  | .literal _ value => [.literal value]
  | .unary _ op _ => [.operator op.name]
  | .binary _ op _ _ => [.operator op.name]
  | .logical _ op _ _ => [.operator op.name]
  | .assignment _ op _ _ => [.operator op.name]
  | .member _ _ _ computed => [.flag "computed" computed]
  | .yielding _ _ delegate => [.flag "delegate" delegate]
  | _ => []

def Function.details : Function → List Detail
  | .mk _ _ _ _ generator async => [.flag "generator" generator, .flag "async" async]

@[simp] def Stmt.details : Stmt → List Detail
  | .declaring _ kind _ => [.name kind.name]
  | _ => []

mutual

def Expr.outline (role : String) (node : Expr) : Outline :=
  .node role node.kind.name node.loc node.details <| match node with
  | .identifier .. | .literal .. | .thisObject _ => []
  | .array _ elements => exprOutlines "elements" elements
  | .object _ properties => propertyOutlines properties
  | .function _ definition | .arrow _ definition => [definition.outline "function"]
  | .unary _ _ argument | .awaiting _ argument => [argument.outline "argument"]
  | .binary _ _ left right | .logical _ _ left right | .assignment _ _ left right =>
    [left.outline "left", right.outline "right"]
  | .conditional _ test consequent alternate =>
    [test.outline "test", consequent.outline "consequent", alternate.outline "alternate"]
  | .call _ callee arguments | .construct _ callee arguments =>
    callee.outline "callee" :: exprOutlines "arguments" arguments
  | .member _ object property _ => [object.outline "object", property.outline "property"]
  | .sequence _ items => exprOutlines "expressions" items
  | .yielding _ argument _ => optionOutlines "argument" argument

def exprOutlines (role : String) : List Expr → List Outline
  | [] => []
  | expr :: exprs => expr.outline role :: exprOutlines role exprs

def optionOutlines (role : String) : Option Expr → List Outline
  | none => []
  | some expr => [expr.outline role]

def Property.outline : Property → Outline
  | .mk loc key value kind method shorthand computed =>
    .node "properties" NodeKind.property.name loc
      [.name kind.name, .flag "method" method, .flag "shorthand" shorthand,
        .flag "computed" computed]
      [key.outline "key", value.outline "value"]

def propertyOutlines : List Property → List Outline
  | [] => []
  | property :: properties => property.outline :: propertyOutlines properties

def Function.outline (role : String) (node : Function) : Outline :=
  .node role "Function" node.loc node.details <| match node with
  | .mk _ id params body _ _ =>
    optionOutlines "id" id ++ exprOutlines "params" params ++ [body.outline "body"]

def Block.outline (role : String) : Block → Outline
  | .mk loc body => .node role "Block" loc [] (stmtOutlines "body" body)

def Catch.outline (role : String) : Catch → Outline
  | .mk loc param body =>
    .node role NodeKind.catchClause.name loc []
      (optionOutlines "param" param ++ [body.outline "body"])

def Declarator.outline : Declarator → Outline
  | .mk loc id init =>
    .node "declarations" NodeKind.variableDeclarator.name loc []
      (id.outline "id" :: optionOutlines "init" init)

def declaratorOutlines : List Declarator → List Outline
  | [] => []
  | declarator :: declarators => declarator.outline :: declaratorOutlines declarators

def handlerOutlines : Option Catch → List Outline
  | none => []
  | some handler => [handler.outline "handler"]

def finalizerOutlines : Option Block → List Outline
  | none => []
  | some finalizer => [finalizer.outline "finalizer"]

def alternateOutlines : Option Stmt → List Outline
  | none => []
  | some alternate => [alternate.outline "alternate"]

def Stmt.outline (role : String) (node : Stmt) : Outline :=
  .node role node.kind.name node.loc node.details <| match node with
  | .expression _ value => [value.outline "expression"]
  | .block _ body => [body.outline "block"]
  | .empty _ | .breaking _ | .continuing _ => []
  | .ifElse _ test consequent alternate =>
    test.outline "test" :: consequent.outline "consequent" :: alternateOutlines alternate
  | .whileLoop _ test body => [test.outline "test", body.outline "body"]
  | .doWhile _ body test => [body.outline "body", test.outline "test"]
  | .forIn _ left right body | .forOf _ left right body =>
    [left.outline "left", right.outline "right", body.outline "body"]
  | .returning _ argument => optionOutlines "argument" argument
  | .throwing _ argument => [argument.outline "argument"]
  | .trying _ block handler finalizer =>
    block.outline "block" :: (handlerOutlines handler ++ finalizerOutlines finalizer)
  | .declaring _ _ declarators => declaratorOutlines declarators

def stmtOutlines (role : String) : List Stmt → List Outline
  | [] => []
  | stmt :: stmts => stmt.outline role :: stmtOutlines role stmts

end

def Program.outline (program : Program) : Outline :=
  .node "program" NodeKind.program.name program.loc [.name program.sourceType.name]
    (stmtOutlines "body" program.body)

end Target

/-! An expression or a statement is copied if its kind, its location, its details and its parts are. -/

theorem Script.Expr.copied_outline (node : Expr) (around : Option Location) (role : String) :
    (node.outline role).copied around =
      .node role node.kindName node.loc (node.details.map Detail.copied)
        (Outline.copiedAll node.loc (node.outline role).parts) := by
  cases node <;> simp [outline, Outline.copied, kindName]

theorem Script.Stmt.copied_outline (node : Stmt) (around : Option Location) (role : String) :
    (node.outline role).copied around =
      .node role node.kindName node.loc (node.details.map Detail.copied)
        (Outline.copiedAll node.loc (node.outline role).parts) := by
  cases node <;> simp [outline, Outline.copied, kindName]

theorem Target.Expr.outline_eq_copied {copy : Expr} {node : Script.Expr}
    (kind : copy.kind.name = node.kindName) (loc : copy.loc = node.loc)
    (details : copy.details = node.details.map Detail.copied)
    (parts : ∀ role, (copy.outline role).parts =
      Outline.copiedAll copy.loc (node.outline role).parts)
    (around : Option Location) (role : String) :
    copy.outline role = (node.outline role).copied around := by
  rw [node.copied_outline, ← kind, ← details, ← loc, ← parts]
  rw [outline.eq_def, Outline.parts]

theorem Target.Stmt.outline_eq_copied {copy : Stmt} {node : Script.Stmt}
    (kind : copy.kind.name = node.kindName) (loc : copy.loc = node.loc)
    (details : copy.details = node.details.map Detail.copied)
    (parts : ∀ role, (copy.outline role).parts =
      Outline.copiedAll copy.loc (node.outline role).parts)
    (around : Option Location) (role : String) :
    copy.outline role = (node.outline role).copied around := by
  rw [node.copied_outline, ← kind, ← details, ← loc, ← parts]
  rw [outline.eq_def, Outline.parts]

end Offside
