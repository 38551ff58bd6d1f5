import Offside.Lowering.Pass

/-! Lowering of scripts, node by node. A node that the target has as well is copied with its parts
lowered; the others are expanded. Parts are lowered in reading order, and a node that has no location
of its own takes that of the node around it. -/

namespace Offside.Lowering

open Script (BinaryOp)

def rootStem : String := "_root"

def cascadeStem : String := "_cascade"

def tempStem : String := "_temp"

/-- Floor division has no operator in the target. -/
def floorDivision : String := "Math.floor(<%= left %> / <%= right %>)"

/-- Calls a generator on the `this` of the arrow function around it. -/
def applyGenerator : String := "(<%= fn %>).apply(this, [])"

section

variable (vocabulary : Target.Vocabulary)

def require (kind : Target.NodeKind) : Lower Unit := .ofExcept (vocabulary.require kind.name)

def buildExpr (node : Target.Expr) : Lower Target.Expr := .ofExcept (vocabulary.expr node)

def buildStmt (node : Target.Stmt) : Lower Target.Stmt := .ofExcept (vocabulary.stmt node)

def identifier (loc : Option Location) (name : String) : Lower Target.Expr :=
  buildExpr vocabulary (.identifier loc name)

/-- Assigns to a name, as an expression. -/
def assign (loc : Option Location) (name : String) (value : Target.Expr) : Lower Target.Expr := do
  let left ← identifier vocabulary loc name
  buildExpr vocabulary (.assignment loc .assign left value)

/-- Assigns to a name, as a statement. -/
def assignStmt (loc : Option Location) (name : String) (value : Target.Expr) :
    Lower Target.Stmt := do
  buildStmt vocabulary (.expression loc (← assign vocabulary loc name value))

/-- An instance of a template as an expression. -/
def instantiate (source : String) (bindings : Template.Bindings) (loc : Option Location) :
    Lower Target.Expr := do
  let template ← template source
  .ofExcept (template.expression vocabulary bindings loc)

def declarator (loc : Option Location) (id : Target.Expr) (init : Option Target.Expr) :
    Lower Target.Declarator := do
  require vocabulary .variableDeclarator
  return .mk loc id init

/-- Declarators without values. -/
def declareAll (loc : Option Location) : List String → Lower (List Target.Declarator)
  | [] => return []
  | name :: names => do
    let first ← declarator vocabulary loc (← identifier vocabulary loc name) none
    return first :: (← declareAll loc names)

/-- The declaration of the names made up in a scope, if there are any. -/
def declareNames (loc : Option Location) (names : List String) : Lower (List Target.Stmt) := do
  if names.isEmpty then return []
  else
    let declarators ← declareAll vocabulary loc names
    return [← buildStmt vocabulary (.declaring loc .let declarators)]

/-- What the statements of a scope become. Function declarations are kept apart, since they are moved
before the others. -/
structure Hoisted where
  functions : List Target.Stmt := []
  others : List Target.Stmt := []

/-- Adds what a run of function declarations, or of other statements, became. -/
def Hoisted.extend (body : Hoisted) (hoisted : Bool) (run : List Target.Stmt) : Hoisted :=
  if hoisted then { body with functions := body.functions ++ run }
  else { body with others := body.others ++ run }

/-- Lowers the statements of a scope and declares at its top the names made up in it. -/
def scopeBody (loc : Option Location) (lowering : Lower Hoisted) : Lower (List Target.Stmt) := do
  let (body, frame) ← lowering.withFrame .scope
  match frame with
  | .scope names =>
    let declarations ← declareNames vocabulary loc names
    return declarations ++ body.functions ++ body.others
  | _ => .fail (.frames .notScope)

/-- Lowers a statement where only one may stand. -/
def single (kind : String) (lowering : Lower (Expansion Target.Stmt)) : Lower Target.Stmt := do
  match (← lowering).normalize with
  | .single stmt => return stmt
  | .spread _ => .fail (.severalNodes kind)

/-- The target's operator for a comparison in a chain. -/
def comparison (op : BinaryOp) : Lower Target.BinaryOp :=
  match op.target? with
  | some op => return op
  | none => .fail (.unsupportedOperator op)

/-- Adds a comparison to those before it. -/
def chainLink (loc : Option Location) (op : Target.BinaryOp) (left right : Target.Expr)
    (chain : Option Target.Expr) : Lower Target.Expr := do
  let link ← buildExpr vocabulary (.binary loc op left right)
  match chain with
  | some chain => buildExpr vocabulary (.logical loc .and chain link)
  | none => return link

/-- A run of variables, all constant or none. -/
def declaration (loc : Option Location) (constant : Bool) (declarators : List Target.Declarator) :
    Lower Target.Stmt :=
  buildStmt vocabulary (.declaring loc (if constant then .const else .let) declarators)

/-- The function expression for a lowered function. A bound function becomes an arrow function; an
arrow function cannot generate, so a bound generator becomes one that calls it. -/
def functionExpr (loc own : Option Location) (bound generator async : Bool)
    (params : List Target.Expr) (body : Target.Block) : Lower Target.Expr := do
  if !bound then
    buildExpr vocabulary (.function loc (.mk own none params body generator async))
  else if generator then
    let inner ← buildExpr vocabulary (.function loc (.mk own none [] body true false))
    let applied ← instantiate vocabulary applyGenerator [("fn", inner)] loc
    let result ← buildStmt vocabulary (.returning loc (some applied))
    require vocabulary .blockStatement
    buildExpr vocabulary (.arrow loc (.mk own none params (.mk loc [result]) false async))
  else
    buildExpr vocabulary (.arrow loc (.mk own none params body false async))

mutual

def lowerExpr : Script.Expr → Lower Target.Expr
  | .identifier loc name => do
    require vocabulary .identifier
    return .identifier loc name
  | .literal loc value => do
    require vocabulary .literal
    return .literal loc value
  | .thisObject loc => do
    require vocabulary .thisExpression
    return .thisObject loc
  | .virtualObject loc => do
    match innermostReceiver (← surroundings) with
    | some receiver => identifier vocabulary loc receiver
    | none => .fail (.cascade .outside loc)
  | .array loc elements => do
    require vocabulary .arrayExpression
    return .array loc (← lowerExprs elements)
  | .object loc properties => do
    require vocabulary .objectExpression
    return .object loc (← lowerProperties properties)
  | .function loc definition => lowerFunction loc definition
  | .unary loc op argument => do
    require vocabulary .unaryExpression
    return .unary loc op (← lowerExpr argument)
  | .binary loc op left right => do
    let left ← lowerExpr left
    let right ← lowerExpr right
    match op.target? with
    | some op => buildExpr vocabulary (.binary loc op left right)
    | none => instantiate vocabulary floorDivision [("left", left), ("right", right)] loc
  | .logical loc op left right => do
    require vocabulary .logicalExpression
    let left ← lowerExpr left
    return .logical loc op left (← lowerExpr right)
  | .conditional loc test consequent alternate => do
    require vocabulary .conditionalExpression
    let test ← lowerExpr test
    let consequent ← lowerExpr consequent
    return .conditional loc test consequent (← lowerExpr alternate)
  | .assignment loc op left right => do
    require vocabulary .assignmentExpression
    let left ← lowerExpr left
    return .assignment loc op.target left (← lowerExpr right)
  | .call loc callee arguments => do
    require vocabulary .callExpression
    let callee ← lowerExpr callee
    return .call loc callee (← lowerExprs arguments)
  | .construct loc callee arguments => do
    require vocabulary .newExpression
    let callee ← lowerExpr callee
    return .construct loc callee (← lowerExprs arguments)
  | .member loc object property computed => do
    require vocabulary .memberExpression
    let object ← lowerExpr object
    return .member loc object (← lowerExpr property) computed
  | .sequence loc items => do
    require vocabulary .sequenceExpression
    return .sequence loc (← lowerExprs items)
  | .yielding loc argument delegate => do
    require vocabulary .yieldExpression
    return .yielding loc (← lowerOption argument) delegate
  | .awaiting loc argument => do
    require vocabulary .awaitExpression
    return .awaiting loc (← lowerExpr argument)
  | .compareChain loc operands operators =>
    if operators.isEmpty || operands.length != operators.length + 1 then
      .fail (.shape (.chainLength operands.length operators.length))
    else
      match operands, operators with
      | _, [] => .fail (.shape .emptyChain)
      | [], _ :: _ => .fail (.shape .chainEnded)
      | first :: operands, op :: operators => do
        let op ← comparison op
        let left ← lowerExpr first
        lowerChain loc op left none operators operands

def lowerExprs : List Script.Expr → Lower (List Target.Expr)
  | [] => return []
  | expr :: exprs => do
    let first ← lowerExpr expr
    return first :: (← lowerExprs exprs)

def lowerOption : Option Script.Expr → Lower (Option Target.Expr)
  | none => return none
  | some expr => return some (← lowerExpr expr)

/-- The rest of a comparison chain after its first operand. Every operand between two comparisons is
stored under a name, so that it is evaluated once. -/
def lowerChain (loc : Option Location) (op : Target.BinaryOp) (left : Target.Expr)
    (chain : Option Target.Expr) (operators : List BinaryOp) :
    List Script.Expr → Lower Target.Expr
  | [] => .fail (.shape .chainEnded)
  | operand :: operands =>
    match operators with
    | [] => do chainLink vocabulary loc op left (← lowerExpr operand) chain
    | next :: operators => do
      let name ← freshName tempStem
      let value ← lowerExpr operand
      let right ← assign vocabulary loc name value
      let chain ← chainLink vocabulary loc op left right chain
      let op ← comparison next
      let left ← identifier vocabulary loc name
      lowerChain loc op left (some chain) operators operands

def lowerProperty : Script.Property → Lower Target.Property
  | .keyValue loc key value => do
    let key ← lowerExpr key
    let value ← lowerExpr value
    require vocabulary .property
    return .mk loc key value .init false false false
  | .method loc key definition => do
    let key ← lowerExpr key
    let (value, _) ← (lowerFunction (definition.loc.or loc) definition).withFrame .method
    require vocabulary .property
    return .mk loc key value .init (!definition.bound.getD false) false false

def lowerProperties : List Script.Property → Lower (List Target.Property)
  | [] => return []
  | property :: properties => do
    let first ← lowerProperty property
    return first :: (← lowerProperties properties)

def lowerFunction (loc : Option Location) : Script.Function → Lower Target.Expr
  | .mk own params body bound generator async => do
    let bound := bound.getD !inMethod (← surroundings)
    if bound && generator && async then .fail .boundAsyncGenerator
    else
      let params ← lowerExprs params
      let body ← lowerBlock loc body
      functionExpr vocabulary loc (own.or loc) bound generator async params body

def lowerBlock (loc : Option Location) : Script.Block → Lower Target.Block
  | .mk own stmts => do
    let body ← scopeBody vocabulary (own.or loc) (lowerBody stmts)
    require vocabulary .blockStatement
    return .mk (own.or loc) body

def lowerHandler (loc : Option Location) : Option Script.Catch → Lower (Option Target.Catch)
  | none => return none
  | some (.mk own param body) => do
    let param ← lowerOption param
    let body ← lowerBlock loc body
    require vocabulary .catchClause
    return some (.mk (own.or loc) param body)

def lowerFinalizer (loc : Option Location) : Option Script.Block → Lower (Option Target.Block)
  | none => return none
  | some block => return some (← lowerBlock loc block)

def lowerDeclarator (loc : Option Location) : Script.Declarator → Lower Target.Declarator
  | .mk own id init _ => do
    let id ← lowerExpr id
    let init ← lowerOption init
    declarator vocabulary (own.or loc) id init

/-- Declares variables in runs of constants and of others. `run` holds the run at hand. -/
def lowerRuns (loc : Option Location) (constant : Bool) (run : List Target.Declarator) :
    List Script.Declarator → Lower (List Target.Stmt)
  | [] => return [← declaration vocabulary loc constant run]
  | next :: declarators => do
    if next.constant == constant then
      let lowered ← lowerDeclarator loc next
      lowerRuns loc constant (run ++ [lowered]) declarators
    else
      let done ← declaration vocabulary loc constant run
      let lowered ← lowerDeclarator loc next
      return done :: (← lowerRuns loc next.constant [lowered] declarators)

def lowerStmt : Script.Stmt → Lower (Expansion Target.Stmt)
  | .expression loc value => do
    require vocabulary .expressionStatement
    return .single (.expression loc (← lowerExpr value))
  | .block loc body => do
    let body ← lowerBlock loc body
    return .single (← buildStmt vocabulary (.block loc body))
  | .empty loc => do
    require vocabulary .emptyStatement
    return .single (.empty loc)
  | .ifElse loc test consequent none => do
    require vocabulary .ifStatement
    let test ← lowerExpr test
    let consequent ← single consequent.kindName (lowerStmt consequent)
    return .single (.ifElse loc test consequent none)
  | .ifElse loc test consequent (some alternate) => do
    require vocabulary .ifStatement
    let test ← lowerExpr test
    let consequent ← single consequent.kindName (lowerStmt consequent)
    let alternate ← single alternate.kindName (lowerStmt alternate)
    return .single (.ifElse loc test consequent (some alternate))
  | .whileLoop loc test body => do
    require vocabulary .whileStatement
    let test ← lowerExpr test
    return .single (.whileLoop loc test (← single body.kindName (lowerStmt body)))
  | .doWhile loc body test => do
    require vocabulary .doWhileStatement
    let body ← single body.kindName (lowerStmt body)
    return .single (.doWhile loc body (← lowerExpr test))
  | .forIn loc left right body => do
    require vocabulary .forInStatement
    let left ← lowerExpr left
    let right ← lowerExpr right
    return .single (.forIn loc left right (← single body.kindName (lowerStmt body)))
  | .forOf loc left right body => do
    require vocabulary .forOfStatement
    let left ← lowerExpr left
    let right ← lowerExpr right
    return .single (.forOf loc left right (← single body.kindName (lowerStmt body)))
  | .returning loc argument => do
    require vocabulary .returnStatement
    return .single (.returning loc (← lowerOption argument))
  | .breaking loc => do
    require vocabulary .breakStatement
    return .single (.breaking loc)
  | .continuing loc => do
    require vocabulary .continueStatement
    return .single (.continuing loc)
  | .throwing loc argument => do
    require vocabulary .throwStatement
    return .single (.throwing loc (← lowerExpr argument))
  | .trying loc block handler finalizer => do
    require vocabulary .tryStatement
    let block ← lowerBlock loc block
    let handler ← lowerHandler loc handler
    return .single (.trying loc block handler (← lowerFinalizer loc finalizer))
  | .declaring loc declarators =>
    match declarators with
    | [] => .fail (.shape .noDeclarators)
    | first :: _ => do
      return (Expansion.spread (← lowerRuns loc first.constant [] declarators)).normalize
  | .function loc id definition => do
    let id ← lowerExpr id
    let value ← lowerFunction (definition.loc.or loc) definition
    let binding ← declarator vocabulary loc id (some value)
    return .single (← buildStmt vocabulary (.declaring loc .const [binding]))
  | .assignment loc op left right => do
    let left ← lowerExpr left
    let right ← lowerExpr right
    let value ← buildExpr vocabulary (.assignment loc op.target left right)
    return .single (← buildStmt vocabulary (.expression loc value))
  | .cascade loc root steps degrees =>
    if steps.length != degrees.length then
      .fail (.cascade (.stepCount steps.length degrees.length) loc)
    else do
      let name ← freshName rootStem
      let root ← lowerExpr root
      let first ← assignStmt vocabulary loc name root
      let (rest, _) ← Lower.withOwnFrame (.cascade name) fun opened =>
        lowerSteps opened loc degrees steps
      return .spread (first :: rest)
  | .yielding loc argument => do
    let argument ← lowerOption argument
    let value ← buildExpr vocabulary (.yielding loc argument false)
    return .single (← buildStmt vocabulary (.expression loc value))

/-- Lowers the statements of a scope in runs of function declarations and of others. -/
def lowerBody : List Script.Stmt → Lower Hoisted
  | [] => return {}
  | first :: stmts => do
    let lowered ← lowerStmt first
    lowerBodyRuns first.isHoisted lowered.toList {} stmts

/-- The statements after the first. `run` holds what the run at hand became and `body` what the runs
before it became. -/
def lowerBodyRuns (hoisted : Bool) (run : List Target.Stmt) (body : Hoisted) :
    List Script.Stmt → Lower Hoisted
  | [] => return body.extend hoisted run
  | next :: stmts => do
    let lowered ← lowerStmt next
    if next.isHoisted == hoisted then
      lowerBodyRuns hoisted (run ++ lowered.toList) body stmts
    else
      lowerBodyRuns next.isHoisted lowered.toList (body.extend hoisted run) stmts

/-- The steps of a cascade. A step that a deeper one follows is stored under a name, and is the
receiver of that one. `opened` says whether the visit of the cascade opened its frame. -/
def lowerSteps (opened : Bool) (loc : Option Location) (degrees : List Nat) :
    List Script.Stmt → Lower (List Target.Stmt)
  | [] => return []
  | step :: steps =>
    match degrees with
    | [] => return []
    | degree :: degrees => do
      let held ← receivers opened
      if degree == 0 || held.length < degree then
        .fail (.cascade (.noReceiver degree held.length) (step.loc.or loc))
      else
        setReceivers opened (held.take degree)
        let next := degrees.head?.getD 0
        if next ≤ degree then
          let lowered ← lowerStmt step
          return lowered.toList ++ (← lowerSteps opened loc degrees steps)
        else if degree + 1 < next then
          .fail (.cascade (.degreeJump degree next) (step.loc.or loc))
        else
          match step with
          | .expression _ value =>
            let name ← freshName cascadeStem
            let value ← lowerExpr value
            let stored ← assignStmt vocabulary loc name value
            setReceivers opened (held.take degree ++ [name])
            return stored :: (← lowerSteps opened loc degrees steps)
          | _ => .fail (.cascade (.notExpression step.kindName) (step.loc.or loc))

end

def lowerProgram (program : Script.Program) : Lower Target.Program := do
  let body ← scopeBody vocabulary program.loc (lowerBody vocabulary program.body)
  require vocabulary .program
  return ⟨program.loc, body, .script⟩

end

end Offside.Lowering
