import Offside.Script.Tree

/-! The identifier names of a script, in reading order. -/

namespace Offside.Script

mutual

def Expr.names : Expr → List String
  | .identifier _ name => [name]
  | .literal .. | .thisObject _ | .virtualObject _ => []
  | .array _ items | .sequence _ items | .compareChain _ items _ => exprNames items
  | .object _ properties => propertyNames properties
  | .function _ definition => definition.names
  | .unary _ _ argument | .awaiting _ argument => argument.names
  | .binary _ _ left right | .logical _ _ left right | .assignment _ _ left right
  | .member _ left right _ => left.names ++ right.names
  | .conditional _ test consequent alternate =>
    test.names ++ consequent.names ++ alternate.names
  | .call _ callee arguments | .construct _ callee arguments =>
    callee.names ++ exprNames arguments
  | .yielding _ argument _ => optionNames argument

def exprNames : List Expr → List String
  | [] => []
  | expr :: exprs => expr.names ++ exprNames exprs

def optionNames : Option Expr → List String
  | none => []
  | some expr => expr.names

def Property.names : Property → List String
  | .keyValue _ key value => key.names ++ value.names
  | .method _ key definition => key.names ++ definition.names

def propertyNames : List Property → List String
  | [] => []
  | property :: properties => property.names ++ propertyNames properties

def Function.names : Function → List String
  | .mk _ params body _ _ _ => exprNames params ++ body.names

def Block.names : Block → List String
  | .mk _ body => stmtNames body

def Catch.names : Catch → List String
  | .mk _ param body => optionNames param ++ body.names

def Declarator.names : Declarator → List String
  | .mk _ id init _ => id.names ++ optionNames init

def declaratorNames : List Declarator → List String
  | [] => []
  | declarator :: declarators => declarator.names ++ declaratorNames declarators

def Stmt.names : Stmt → List String
  | .expression _ value | .throwing _ value => value.names
  | .block _ body => body.names
  | .empty _ | .breaking _ | .continuing _ => []
  | .ifElse _ test consequent none => test.names ++ consequent.names
  | .ifElse _ test consequent (some alternate) =>
    test.names ++ consequent.names ++ alternate.names
  | .whileLoop _ test body | .doWhile _ body test => test.names ++ body.names
  | .forIn _ left right body | .forOf _ left right body =>
    left.names ++ right.names ++ body.names
  | .returning _ argument | .yielding _ argument => optionNames argument
  | .trying _ block none none => block.names
  | .trying _ block (some handler) none => block.names ++ handler.names
  | .trying _ block none (some finalizer) => block.names ++ finalizer.names
  | .trying _ block (some handler) (some finalizer) =>
    block.names ++ handler.names ++ finalizer.names
  | .declaring _ declarators => declaratorNames declarators
  | .function _ id definition => id.names ++ definition.names
  | .assignment _ _ left right => left.names ++ right.names
  | .cascade _ root steps _ => root.names ++ stmtNames steps

def stmtNames : List Stmt → List String
  | [] => []
  | stmt :: stmts => stmt.names ++ stmtNames stmts

end

def Program.names (program : Program) : List String := stmtNames program.body

end Offside.Script
