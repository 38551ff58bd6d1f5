import Offside.Lowering

/-! The functions of a tree, nested as they stand in each other. Of a script function the forest says
where it stands, which decides whether it captures the surrounding `this`; of a target function, in
what form it is written. `loweredAll` is what lowering makes of the forest of a script. -/

namespace Offside

/-- A function, with the functions in its parameters and those in its body. -/
inductive FunctionTree (α : Type) where
  | mk (label : α) (params body : List (FunctionTree α))

namespace Script

/-- Where a function stands with respect to methods. -/
inductive Standing where
  /-- It is the definition of a method. -/
  | definition
  /-- It stands in the parameters of the definition of a method, and in no body inside them. -/
  | parameters
  | elsewhere
deriving DecidableEq, Repr

namespace Standing

/-- Whether a method definition is nearer than any body. -/
def direct : Standing → Bool
  | definition | parameters => true
  | elsewhere => false

/-- Where a function stands that is found in the parameters of one that stands here. -/
def inParams : Standing → Standing
  | definition | parameters => parameters
  | elsewhere => elsewhere

@[simp] theorem direct_inParams (standing : Standing) : standing.inParams.direct = standing.direct := by
  cases standing <;> rfl

private theorem direct_eq_false {standing : Standing} :
    standing.direct = false ↔ standing = .elsewhere := by
  cases standing <;> simp [direct]

end Standing

/-- What decides the form in which a function is lowered. -/
structure FunctionSite where
  standing : Standing
  loc : Option Location
  bound : Option Bool
  generator : Bool
  async : Bool
deriving DecidableEq, Repr

/-- Whether the function captures the surrounding `this`. -/
def FunctionSite.captures (site : FunctionSite) : Bool := site.bound.getD !site.standing.direct

mutual

/-- The functions of an expression in whose place a function would have the standing. -/
def Expr.functions (standing : Standing) : Expr → List (FunctionTree FunctionSite)
  | .identifier .. | .literal .. | .thisObject _ | .virtualObject _ => []
  | .array _ items | .sequence _ items | .compareChain _ items _ => exprFunctions standing items
  | .object _ properties => propertyFunctions standing properties
  | .function loc definition => [definition.tree standing loc]
  | .unary _ _ argument | .awaiting _ argument => argument.functions standing
  | .binary _ _ left right | .logical _ _ left right | .assignment _ _ left right
  | .member _ left right _ => left.functions standing ++ right.functions standing
  | .conditional _ test consequent alternate =>
    test.functions standing ++ consequent.functions standing ++ alternate.functions standing
  | .call _ callee arguments | .construct _ callee arguments =>
    callee.functions standing ++ exprFunctions standing arguments
  | .yielding _ argument _ => optionFunctions standing argument

def exprFunctions (standing : Standing) : List Expr → List (FunctionTree FunctionSite)
  | [] => []
  | expr :: exprs => expr.functions standing ++ exprFunctions standing exprs

def optionFunctions (standing : Standing) : Option Expr → List (FunctionTree FunctionSite)
  | none => []
  | some expr => expr.functions standing

def Property.functions (standing : Standing) : Property → List (FunctionTree FunctionSite)
  | .keyValue _ key value => key.functions standing ++ value.functions standing
  | .method loc key definition =>
    key.functions standing ++ [definition.tree .definition (definition.loc.or loc)]

def propertyFunctions (standing : Standing) : List Property → List (FunctionTree FunctionSite)
  | [] => []
  | property :: properties => property.functions standing ++ propertyFunctions standing properties

def Function.tree (standing : Standing) (loc : Option Location) : Function → FunctionTree FunctionSite
  | .mk own params body bound generator async =>
    .mk ⟨standing, own.or loc, bound, generator, async⟩ (exprFunctions standing.inParams params)
      body.functions

/-- What function declarations hold comes first. -/
def Block.functions : Block → List (FunctionTree FunctionSite)
  | .mk _ body => pickedFunctions true body ++ pickedFunctions false body

def handlerFunctions : Option Catch → List (FunctionTree FunctionSite)
  | none => []
  | some (.mk _ param body) => optionFunctions .elsewhere param ++ body.functions

def finalizerFunctions : Option Block → List (FunctionTree FunctionSite)
  | none => []
  | some block => block.functions

def Declarator.functions : Declarator → List (FunctionTree FunctionSite)
  | .mk _ id init _ => id.functions .elsewhere ++ optionFunctions .elsewhere init

def declaratorFunctions : List Declarator → List (FunctionTree FunctionSite)
  | [] => []
  | declarator :: declarators => declarator.functions ++ declaratorFunctions declarators

/-- A statement always stands in a body. -/
def Stmt.functions : Stmt → List (FunctionTree FunctionSite)
  | .expression _ value | .throwing _ value => value.functions .elsewhere
  | .block _ body => body.functions
  | .empty _ | .breaking _ | .continuing _ => []
  | .ifElse _ test consequent none => test.functions .elsewhere ++ consequent.functions
  | .ifElse _ test consequent (some alternate) =>
    test.functions .elsewhere ++ consequent.functions ++ alternate.functions
  | .whileLoop _ test body | .doWhile _ body test => test.functions .elsewhere ++ body.functions
  | .forIn _ left right body | .forOf _ left right body =>
    left.functions .elsewhere ++ right.functions .elsewhere ++ body.functions
  | .returning _ argument | .yielding _ argument => optionFunctions .elsewhere argument
  | .trying _ block handler finalizer =>
    block.functions ++ handlerFunctions handler ++ finalizerFunctions finalizer
  | .declaring _ declarators => declaratorFunctions declarators
  | .function loc id definition =>
    id.functions .elsewhere ++ [definition.tree .elsewhere (definition.loc.or loc)]
  | .assignment _ _ left right => left.functions .elsewhere ++ right.functions .elsewhere
  | .cascade _ root steps _ => root.functions .elsewhere ++ stmtFunctions steps

def stmtFunctions : List Stmt → List (FunctionTree FunctionSite)
  | [] => []
  | stmt :: stmts => stmt.functions ++ stmtFunctions stmts

/-- The functions of the statements that are hoisted, or of those that are not. -/
def pickedFunctions (hoisted : Bool) : List Stmt → List (FunctionTree FunctionSite)
  | [] => []
  | stmt :: stmts =>
    if stmt.isHoisted == hoisted then stmt.functions ++ pickedFunctions hoisted stmts
    else pickedFunctions hoisted stmts

end

def Program.functions (program : Program) : List (FunctionTree FunctionSite) :=
  pickedFunctions true program.body ++ pickedFunctions false program.body

end Script

namespace Target

/-- How a function is written. -/
structure FunctionForm where
  /-- An arrow function captures the surrounding `this`. -/
  arrow : Bool
  loc : Option Location
  generator : Bool
  async : Bool
deriving DecidableEq, Repr

mutual

def Expr.functions : Expr → List (FunctionTree FunctionForm)
  | .identifier .. | .literal .. | .thisObject _ => []
  | .array _ items | .sequence _ items => exprFunctions items
  | .object _ properties => propertyFunctions properties
  | .function _ definition => [definition.tree false]
  | .arrow _ definition => [definition.tree true]
  | .unary _ _ argument | .awaiting _ argument => argument.functions
  | .binary _ _ left right | .logical _ _ left right | .assignment _ _ left right
  | .member _ left right _ => left.functions ++ right.functions
  | .conditional _ test consequent alternate =>
    test.functions ++ consequent.functions ++ alternate.functions
  | .call _ callee arguments | .construct _ callee arguments =>
    callee.functions ++ exprFunctions arguments
  | .yielding _ argument _ => optionFunctions argument

def exprFunctions : List Expr → List (FunctionTree FunctionForm)
  | [] => []
  | expr :: exprs => expr.functions ++ exprFunctions exprs

def optionFunctions : Option Expr → List (FunctionTree FunctionForm)
  | none => []
  | some expr => expr.functions

def Property.functions : Property → List (FunctionTree FunctionForm)
  | .mk _ key value _ _ _ _ => key.functions ++ value.functions

def propertyFunctions : List Property → List (FunctionTree FunctionForm)
  | [] => []
  | property :: properties => property.functions ++ propertyFunctions properties

def Function.tree (arrow : Bool) : Function → FunctionTree FunctionForm
  | .mk loc none params body generator async =>
    .mk ⟨arrow, loc, generator, async⟩ (exprFunctions params) body.functions
  | .mk loc (some id) params body generator async =>
    .mk ⟨arrow, loc, generator, async⟩ (id.functions ++ exprFunctions params) body.functions

def Block.functions : Block → List (FunctionTree FunctionForm)
  | .mk _ body => stmtFunctions body

def handlerFunctions : Option Catch → List (FunctionTree FunctionForm)
  | none => []
  | some (.mk _ param body) => optionFunctions param ++ body.functions

def finalizerFunctions : Option Block → List (FunctionTree FunctionForm)
  | none => []
  | some block => block.functions

def Declarator.functions : Declarator → List (FunctionTree FunctionForm)
  | .mk _ id init => id.functions ++ optionFunctions init

def declaratorFunctions : List Declarator → List (FunctionTree FunctionForm)
  | [] => []
  | declarator :: declarators => declarator.functions ++ declaratorFunctions declarators

def Stmt.functions : Stmt → List (FunctionTree FunctionForm)
  | .expression _ value | .throwing _ value => value.functions
  | .block _ body => body.functions
  | .empty _ | .breaking _ | .continuing _ => []
  | .ifElse _ test consequent none => test.functions ++ consequent.functions
  | .ifElse _ test consequent (some alternate) =>
    test.functions ++ consequent.functions ++ alternate.functions
  | .whileLoop _ test body | .doWhile _ body test => test.functions ++ body.functions
  | .forIn _ left right body | .forOf _ left right body =>
    left.functions ++ right.functions ++ body.functions
  | .returning _ argument => optionFunctions argument
  | .trying _ block handler finalizer =>
    block.functions ++ handlerFunctions handler ++ finalizerFunctions finalizer
  | .declaring _ _ declarators => declaratorFunctions declarators

def stmtFunctions : List Stmt → List (FunctionTree FunctionForm)
  | [] => []
  | stmt :: stmts => stmt.functions ++ stmtFunctions stmts

end

def Program.functions (program : Program) : List (FunctionTree FunctionForm) :=
  stmtFunctions program.body

@[simp] theorem stmtFunctions_append (before after : List Stmt) :
    stmtFunctions (before ++ after) = stmtFunctions before ++ stmtFunctions after := by
  induction before with
  | nil => rfl
  | cons stmt stmts ih => simp [stmtFunctions, ih]

@[simp] theorem declaratorFunctions_append (before after : List Declarator) :
    declaratorFunctions (before ++ after) =
      declaratorFunctions before ++ declaratorFunctions after := by
  induction before with
  | nil => rfl
  | cons declarator declarators ih => simp [declaratorFunctions, ih]

end Target

namespace Lowering

open Script (FunctionSite)
open Target (FunctionForm)

/-- The form of a lowered function. An arrow function cannot generate. -/
def formOf (site : FunctionSite) : FunctionForm :=
  ⟨site.captures, site.loc, site.generator && !site.captures, site.async⟩

/-- The form of the generator that a capturing generator calls. -/
def generatorForm (site : FunctionSite) : FunctionForm := ⟨false, site.loc, true, false⟩

mutual

/-- What becomes of a function. The body of a capturing generator moves to a generator of its own, which
is all that the arrow function holds beside its parameters. -/
def loweredTree : FunctionTree FunctionSite → FunctionTree FunctionForm
  | .mk site params body =>
    .mk (formOf site) (loweredAll params)
      (if site.captures && site.generator then [.mk (generatorForm site) [] (loweredAll body)]
      else loweredAll body)

@[simp] def loweredAll : List (FunctionTree FunctionSite) → List (FunctionTree FunctionForm)
  | [] => []
  | tree :: trees => loweredTree tree :: loweredAll trees

end

@[simp] theorem loweredAll_append (before after : List (FunctionTree FunctionSite)) :
    loweredAll (before ++ after) = loweredAll before ++ loweredAll after := by
  induction before with
  | nil => rfl
  | cons tree trees ih => simp [ih]

/-- Where a script does not say whether a function is bound, its standing decides. -/
theorem arrow_formOf_iff {site : FunctionSite} (unspecified : site.bound = none) :
    (formOf site).arrow = true ↔ site.standing = .elsewhere := by
  rw [← Script.Standing.direct_eq_false]
  simp [formOf, FunctionSite.captures, unspecified]

end Lowering

end Offside
