import Offside.Proofs.PassInvariant

/-! A virtual object is the name of its receiver. Inside a step of a cascade, wherever it stands, it is
lowered as if the name of the receiver were written in its place; only the steps of a cascade further
inside have receivers of their own. -/

namespace Offside

namespace Script

mutual

/-- The node with a name in place of the virtual objects that stand for it. In the steps of a cascade
inside, virtual objects stand for other receivers. -/
def Expr.withReceiver (receiver : String) : Expr → Expr
  | .identifier loc name => .identifier loc name
  | .literal loc value => .literal loc value
  | .thisObject loc => .thisObject loc
  | .virtualObject loc => .identifier loc receiver
  | .array loc elements => .array loc (exprsWithReceiver receiver elements)
  | .object loc properties => .object loc (propertiesWithReceiver receiver properties)
  | .function loc definition => .function loc (definition.withReceiver receiver)
  | .unary loc op argument => .unary loc op (argument.withReceiver receiver)
  | .binary loc op left right =>
    .binary loc op (left.withReceiver receiver) (right.withReceiver receiver)
  | .logical loc op left right =>
    .logical loc op (left.withReceiver receiver) (right.withReceiver receiver)
  | .conditional loc test consequent alternate =>
    .conditional loc (test.withReceiver receiver) (consequent.withReceiver receiver)
      (alternate.withReceiver receiver)
  | .assignment loc op left right =>
    .assignment loc op (left.withReceiver receiver) (right.withReceiver receiver)
  | .call loc callee arguments =>
    .call loc (callee.withReceiver receiver) (exprsWithReceiver receiver arguments)
  | .construct loc callee arguments =>
    .construct loc (callee.withReceiver receiver) (exprsWithReceiver receiver arguments)
  | .member loc object property computed =>
    .member loc (object.withReceiver receiver) (property.withReceiver receiver) computed
  | .sequence loc items => .sequence loc (exprsWithReceiver receiver items)
  | .yielding loc argument delegate => .yielding loc (optionWithReceiver receiver argument) delegate
  | .awaiting loc argument => .awaiting loc (argument.withReceiver receiver)
  | .compareChain loc operands operators =>
    .compareChain loc (exprsWithReceiver receiver operands) operators

def exprsWithReceiver (receiver : String) : List Expr → List Expr
  | [] => []
  | expr :: exprs => expr.withReceiver receiver :: exprsWithReceiver receiver exprs

def optionWithReceiver (receiver : String) : Option Expr → Option Expr
  | none => none
  | some expr => some (expr.withReceiver receiver)

def Property.withReceiver (receiver : String) : Property → Property
  | .keyValue loc key value =>
    .keyValue loc (key.withReceiver receiver) (value.withReceiver receiver)
  | .method loc key definition =>
    .method loc (key.withReceiver receiver) (definition.withReceiver receiver)

def propertiesWithReceiver (receiver : String) : List Property → List Property
  | [] => []
  | property :: properties =>
    property.withReceiver receiver :: propertiesWithReceiver receiver properties

def Function.withReceiver (receiver : String) : Function → Function
  | .mk loc params body bound generator async =>
    .mk loc (exprsWithReceiver receiver params) (body.withReceiver receiver) bound generator async

def Block.withReceiver (receiver : String) : Block → Block
  | .mk loc body => .mk loc (stmtsWithReceiver receiver body)

def handlerWithReceiver (receiver : String) : Option Catch → Option Catch
  | none => none
  | some (.mk loc param body) =>
    some (.mk loc (optionWithReceiver receiver param) (body.withReceiver receiver))

def finalizerWithReceiver (receiver : String) : Option Block → Option Block
  | none => none
  | some block => some (block.withReceiver receiver)

def Declarator.withReceiver (receiver : String) : Declarator → Declarator
  | .mk loc id init constant =>
    .mk loc (id.withReceiver receiver) (optionWithReceiver receiver init) constant

def declaratorsWithReceiver (receiver : String) : List Declarator → List Declarator
  | [] => []
  | declarator :: declarators =>
    declarator.withReceiver receiver :: declaratorsWithReceiver receiver declarators

def Stmt.withReceiver (receiver : String) : Stmt → Stmt
  | .expression loc value => .expression loc (value.withReceiver receiver)
  | .block loc body => .block loc (body.withReceiver receiver)
  | .empty loc => .empty loc
  | .ifElse loc test consequent none =>
    .ifElse loc (test.withReceiver receiver) (consequent.withReceiver receiver) none
  | .ifElse loc test consequent (some alternate) =>
    .ifElse loc (test.withReceiver receiver) (consequent.withReceiver receiver)
      (some (alternate.withReceiver receiver))
  | .whileLoop loc test body =>
    .whileLoop loc (test.withReceiver receiver) (body.withReceiver receiver)
  | .doWhile loc body test =>
    .doWhile loc (body.withReceiver receiver) (test.withReceiver receiver)
  | .forIn loc left right body =>
    .forIn loc (left.withReceiver receiver) (right.withReceiver receiver) (body.withReceiver receiver)
  | .forOf loc left right body =>
    .forOf loc (left.withReceiver receiver) (right.withReceiver receiver) (body.withReceiver receiver)
  | .returning loc argument => .returning loc (optionWithReceiver receiver argument)
  | .breaking loc => .breaking loc
  | .continuing loc => .continuing loc
  | .throwing loc argument => .throwing loc (argument.withReceiver receiver)
  | .trying loc block handler finalizer =>
    .trying loc (block.withReceiver receiver) (handlerWithReceiver receiver handler)
      (finalizerWithReceiver receiver finalizer)
  | .declaring loc declarators => .declaring loc (declaratorsWithReceiver receiver declarators)
  | .function loc id definition =>
    .function loc (id.withReceiver receiver) (definition.withReceiver receiver)
  | .assignment loc op left right =>
    .assignment loc op (left.withReceiver receiver) (right.withReceiver receiver)
  | .cascade loc root steps degrees => .cascade loc (root.withReceiver receiver) steps degrees
  | .yielding loc argument => .yielding loc (optionWithReceiver receiver argument)

def stmtsWithReceiver (receiver : String) : List Stmt → List Stmt
  | [] => []
  | stmt :: stmts => stmt.withReceiver receiver :: stmtsWithReceiver receiver stmts

end

variable (receiver : String)

@[simp] theorem length_exprsWithReceiver (exprs : List Expr) :
    (exprsWithReceiver receiver exprs).length = exprs.length := by
  induction exprs with
  | nil => rfl
  | cons expr exprs ih => rw [exprsWithReceiver, List.length_cons, ih, List.length_cons]

@[simp] theorem Function.loc_withReceiver (definition : Function) :
    (definition.withReceiver receiver).loc = definition.loc := by
  cases definition
  rfl

@[simp] theorem Function.bound_withReceiver (definition : Function) :
    (definition.withReceiver receiver).bound = definition.bound := by
  cases definition
  rfl

@[simp] theorem Declarator.constant_withReceiver (declarator : Declarator) :
    (declarator.withReceiver receiver).constant = declarator.constant := by
  cases declarator
  rfl

@[simp] theorem Stmt.kindName_withReceiver (stmt : Stmt) :
    (stmt.withReceiver receiver).kindName = stmt.kindName := by
  cases stmt with
  | ifElse loc test consequent alternate => cases alternate <;> rfl
  | _ => rfl

@[simp] theorem Stmt.isHoisted_withReceiver (stmt : Stmt) :
    (stmt.withReceiver receiver).isHoisted = stmt.isHoisted := by
  cases stmt with
  | ifElse loc test consequent alternate => cases alternate <;> rfl
  | _ => rfl

end Script

namespace Lowering

open Script (exprsWithReceiver optionWithReceiver propertiesWithReceiver handlerWithReceiver
  finalizerWithReceiver declaratorsWithReceiver stmtsWithReceiver)

variable {receiver : String}

theorem select_withReceiver {p : Script.Stmt → Bool}
    (blind : ∀ stmt, p (stmt.withReceiver receiver) = p stmt) (stmts : List Script.Stmt)
    (lowered : List (List Target.Stmt)) :
    (((stmtsWithReceiver receiver stmts).zip lowered).filter fun pair => p pair.1).flatMap Prod.snd =
      ((stmts.zip lowered).filter fun pair => p pair.1).flatMap Prod.snd := by
  induction stmts generalizing lowered with
  | nil => rfl
  | cons stmt stmts ih =>
    cases lowered with
    | nil => rfl
    | cons first lowered =>
      rw [stmtsWithReceiver, List.zip_cons_cons, List.zip_cons_cons, List.filter_cons,
        List.filter_cons, blind]
      split
      · rw [List.flatMap_cons, List.flatMap_cons, ih]
      · exact ih lowered

private theorem hoist_withReceiver (stmts : List Script.Stmt) (lowered : List (List Target.Stmt)) :
    hoist (stmtsWithReceiver receiver stmts) lowered = hoist stmts lowered := by
  have hoisted := Script.Stmt.isHoisted_withReceiver receiver
  have functions := select_withReceiver hoisted stmts lowered
  have others := select_withReceiver (p := fun stmt => !stmt.isHoisted)
    (fun stmt => congrArg not (hoisted stmt)) stmts lowered
  unfold hoist
  rw [functions, others]

/-- Two steps that do the same wherever the innermost receiver has the name. -/
structure AgreesUnder (receiver : String) (step other : Lower α) : Prop where
  keeps : Keeps step
  same : ∀ pass : Pass, innermostReceiver pass.frames = some receiver → other pass = step pass

namespace AgreesUnder

theorem of_keeps {step : Lower α} (keeps : Keeps step) : AgreesUnder receiver step step :=
  ⟨keeps, fun _ _ => rfl⟩

theorem pure (a : α) : AgreesUnder receiver (Pure.pure a : Lower α) (Pure.pure a) :=
  of_keeps (closed_keeps.pure a)

theorem fail (fault : Fault) : AgreesUnder receiver (.fail fault : Lower α) (.fail fault) :=
  of_keeps (closed_keeps.fail fault)

/-- The receiver is still the innermost one when a step is done. -/
theorem bind {first other : Lower α} {next otherNext : α → Lower β}
    (agrees : AgreesUnder receiver first other)
    (rest : ∀ a, AgreesUnder receiver (next a) (otherNext a)) :
    AgreesUnder receiver (first >>= next) (other >>= otherNext) where
  keeps := agrees.keeps.bind fun a => (rest a).keeps
  same pass known := by
    obtain ⟨names, frames⟩ := (agrees.keeps pass).frames
    have still : innermostReceiver (first pass).2.frames = some receiver := by
      rw [frames, innermostReceiver_extendScope, known]
    rw [Lower.bind_apply, Lower.bind_apply, agrees.same pass known]
    generalize first pass = outcome at still
    obtain ⟨fault | a, later⟩ := outcome
    · rfl
    · exact (rest a).same later still

theorem map {first other : Lower α} (agrees : AgreesUnder receiver first other) (f : α → β) :
    AgreesUnder receiver (first >>= fun a => Pure.pure (f a)) (other >>= fun a => Pure.pure (f a)) :=
  agrees.bind fun a => pure (f a)

theorem require (vocabulary : Target.Vocabulary) (kind : Target.NodeKind) {next other : Unit → Lower α}
    (rest : ∀ a, AgreesUnder receiver (next a) (other a)) :
    AgreesUnder receiver (require vocabulary kind >>= next) (require vocabulary kind >>= other) :=
  (of_keeps (closed_keeps.require vocabulary kind)).bind rest

theorem withFrame {step other : Lower α} {opening : Opening} (agrees : AgreesUnder receiver step other)
    (keeps : Keeps (step.withFrame opening))
    (transparent : ∀ frames, innermostReceiver (opening.frame :: frames) = innermostReceiver frames) :
    AgreesUnder receiver (step.withFrame opening) (other.withFrame opening) where
  keeps := keeps
  same pass known := by
    have inside := agrees.same (pass.push opening)
      ((transparent pass.frames).trans known)
    rw [Lower.withFrame_apply, inside, Lower.withFrame_apply]

theorem listBody (vocabulary : Target.Vocabulary) (loc : Option Location) (stmts : List Script.Stmt)
    {lowering other : Lower (List (List Target.Stmt))} (agrees : AgreesUnder receiver lowering other) :
    AgreesUnder receiver (listBody vocabulary loc stmts lowering)
      (listBody vocabulary loc (stmtsWithReceiver receiver stmts) other) := by
  have inside := agrees.withFrame agrees.keeps.withScope fun _ => rfl
  refine inside.bind fun ⟨lowered, frame⟩ => ?_
  match frame with
  | .scope names =>
    have declared := closed_keeps.declareNames vocabulary loc names
    refine (of_keeps declared).bind fun declarations => ?_
    rw [hoist_withReceiver]
    exact pure _
  | .cascade _ | .method => exact fail _

theorem single (stmt : Script.Stmt) {lowering other : Lower (Expansion Target.Stmt)}
    (agrees : AgreesUnder receiver lowering other) :
    AgreesUnder receiver (single stmt.kindName lowering)
      (single (stmt.withReceiver receiver).kindName other) := by
  rw [Script.Stmt.kindName_withReceiver]
  refine agrees.bind fun expansion => ?_
  split
  · exact pure _
  · exact fail _

end AgreesUnder

section

variable (vocabulary : Target.Vocabulary)

private theorem lowerExpr_identifier (loc : Option Location) (name : String) :
    lowerExpr vocabulary (.identifier loc name) = identifier vocabulary loc name := by
  rw [lowerExpr, identifier, buildExpr, Target.Vocabulary.expr, require]
  funext pass
  change _ = ((vocabulary.require Target.NodeKind.identifier.name >>= fun _ => _), pass)
  cases vocabulary.require Target.NodeKind.identifier.name <;> rfl

private theorem agrees_virtualObject (loc : Option Location) :
    AgreesUnder receiver (lowerExpr vocabulary (.virtualObject loc))
      (lowerExpr vocabulary (.identifier loc receiver)) where
  keeps := closed_keeps.expr vocabulary _
  same pass known := by
    rw [lowerExpr_identifier, lowerExpr, Lower.bind_apply]
    simp only [surroundings, known]

mutual

theorem agrees_expr : ∀ node : Script.Expr,
    AgreesUnder receiver (lowerExpr vocabulary node) (lowerExpr vocabulary (node.withReceiver receiver))
  | .identifier .. | .literal .. | .thisObject _ => .of_keeps (closed_keeps.expr vocabulary _)
  | .virtualObject loc => agrees_virtualObject vocabulary loc
  | .array loc elements => by
    rw [Script.Expr.withReceiver, lowerExpr, lowerExpr]
    exact .require vocabulary _ fun _ => (agrees_exprs elements).map _
  | .object loc properties => by
    rw [Script.Expr.withReceiver, lowerExpr, lowerExpr]
    exact .require vocabulary _ fun _ => (agrees_properties properties).map _
  | .function loc definition => by
    rw [Script.Expr.withReceiver, lowerExpr, lowerExpr]
    exact agrees_function loc definition
  | .unary loc op argument => by
    rw [Script.Expr.withReceiver, lowerExpr, lowerExpr]
    exact .require vocabulary _ fun _ => (agrees_expr argument).map _
  | .binary loc op left right => by
    rw [Script.Expr.withReceiver, lowerExpr, lowerExpr]
    refine (agrees_expr left).bind fun left => (agrees_expr right).bind fun right => ?_
    split
    · exact .of_keeps (closed_keeps.buildExpr vocabulary _)
    · exact .of_keeps (closed_keeps.instantiate vocabulary _ _ loc)
  | .logical loc op left right => by
    rw [Script.Expr.withReceiver, lowerExpr, lowerExpr]
    exact .require vocabulary _ fun _ => (agrees_expr left).bind fun _ => (agrees_expr right).map _
  | .conditional loc test consequent alternate => by
    rw [Script.Expr.withReceiver, lowerExpr, lowerExpr]
    exact .require vocabulary _ fun _ => (agrees_expr test).bind fun _ =>
      (agrees_expr consequent).bind fun _ => (agrees_expr alternate).map _
  | .assignment loc op left right => by
    rw [Script.Expr.withReceiver, lowerExpr, lowerExpr]
    exact .require vocabulary _ fun _ => (agrees_expr left).bind fun _ => (agrees_expr right).map _
  | .call loc callee arguments => by
    rw [Script.Expr.withReceiver, lowerExpr, lowerExpr]
    exact .require vocabulary _ fun _ => (agrees_expr callee).bind fun _ =>
      (agrees_exprs arguments).map _
  | .construct loc callee arguments => by
    rw [Script.Expr.withReceiver, lowerExpr, lowerExpr]
    exact .require vocabulary _ fun _ => (agrees_expr callee).bind fun _ =>
      (agrees_exprs arguments).map _
  | .member loc object property computed => by
    rw [Script.Expr.withReceiver, lowerExpr, lowerExpr]
    exact .require vocabulary _ fun _ => (agrees_expr object).bind fun _ =>
      (agrees_expr property).map _
  | .sequence loc items => by
    rw [Script.Expr.withReceiver, lowerExpr, lowerExpr]
    exact .require vocabulary _ fun _ => (agrees_exprs items).map _
  | .yielding loc argument delegate => by
    rw [Script.Expr.withReceiver, lowerExpr, lowerExpr]
    exact .require vocabulary _ fun _ => (agrees_option argument).map _
  | .awaiting loc argument => by
    rw [Script.Expr.withReceiver, lowerExpr, lowerExpr]
    exact .require vocabulary _ fun _ => (agrees_expr argument).map _
  | .compareChain loc operands [] => by
    rw [Script.Expr.withReceiver, lowerExpr_compareChain_fail vocabulary loc (.inl rfl),
      lowerExpr_compareChain_fail vocabulary loc (.inl rfl), Script.length_exprsWithReceiver]
    exact .fail _
  | .compareChain loc [] (op :: operators) => by
    rw [Script.Expr.withReceiver, exprsWithReceiver]
    exact .of_keeps (closed_keeps.expr vocabulary _)
  | .compareChain loc (first :: operands) (op :: operators) => by
    rw [Script.Expr.withReceiver, exprsWithReceiver]
    by_cases fit : operands.length = operators.length + 1
    · have fitOther : (exprsWithReceiver receiver operands).length = operators.length + 1 := by
        rw [Script.length_exprsWithReceiver, fit]
      rw [lowerExpr_compareChain_cons vocabulary loc first op fit,
        lowerExpr_compareChain_cons vocabulary loc _ op fitOther]
      refine (AgreesUnder.of_keeps (closed_keeps.comparison op)).bind fun op => ?_
      exact (agrees_expr first).bind fun left => agrees_chain loc op left none operators operands
    · rw [lowerExpr_compareChain_fail vocabulary loc (.inr (by simpa using fit)),
        lowerExpr_compareChain_fail vocabulary loc (.inr (by simpa using fit))]
      simp only [List.length_cons, Script.length_exprsWithReceiver]
      exact .fail _

theorem agrees_exprs : ∀ nodes : List Script.Expr,
    AgreesUnder receiver (lowerExprs vocabulary nodes)
      (lowerExprs vocabulary (exprsWithReceiver receiver nodes))
  | [] => .of_keeps (closed_keeps.exprs vocabulary [])
  | node :: nodes => by
    rw [exprsWithReceiver, lowerExprs, lowerExprs]
    exact (agrees_expr node).bind fun _ => (agrees_exprs nodes).map _

theorem agrees_option : ∀ node : Option Script.Expr,
    AgreesUnder receiver (lowerOption vocabulary node)
      (lowerOption vocabulary (optionWithReceiver receiver node))
  | none => .of_keeps (closed_keeps.option vocabulary none)
  | some node => by
    rw [optionWithReceiver, lowerOption, lowerOption]
    exact (agrees_expr node).map _

theorem agrees_chain (loc : Option Location) (op : Target.BinaryOp) (left : Target.Expr)
    (chain : Option Target.Expr) (operators : List Script.BinaryOp) :
    ∀ operands : List Script.Expr,
      AgreesUnder receiver (lowerChain vocabulary loc op left chain operators operands)
        (lowerChain vocabulary loc op left chain operators (exprsWithReceiver receiver operands))
  | [] => .of_keeps (closed_keeps.chain vocabulary loc op left chain operators [])
  | operand :: operands => by
    rw [exprsWithReceiver]
    cases operators with
    | nil =>
      rw [lowerChain_last, lowerChain_last]
      exact (agrees_expr operand).bind fun right =>
        .of_keeps (closed_keeps.chainLink vocabulary loc op left right chain)
    | cons next operators =>
      rw [lowerChain_cons, lowerChain_cons]
      refine (AgreesUnder.of_keeps (keeps_freshName tempStem)).bind fun name => ?_
      refine (agrees_expr operand).bind fun value => ?_
      refine (AgreesUnder.of_keeps (closed_keeps.assign vocabulary loc name value)).bind fun right => ?_
      refine (AgreesUnder.of_keeps (closed_keeps.chainLink vocabulary loc op left right chain)).bind
        fun link => ?_
      refine (AgreesUnder.of_keeps (closed_keeps.comparison next)).bind fun op => ?_
      refine (AgreesUnder.of_keeps (closed_keeps.identifier vocabulary loc name)).bind fun left => ?_
      exact agrees_chain loc op left (some link) operators operands

theorem agrees_property : ∀ node : Script.Property,
    AgreesUnder receiver (lowerProperty vocabulary node)
      (lowerProperty vocabulary (node.withReceiver receiver))
  | .keyValue loc key value => by
    rw [Script.Property.withReceiver, lowerProperty, lowerProperty]
    refine (agrees_expr key).bind fun key => (agrees_expr value).bind fun value => ?_
    exact .require vocabulary _ fun _ => .pure _
  | .method loc key definition => by
    rw [Script.Property.withReceiver, lowerProperty, lowerProperty,
      Script.Function.loc_withReceiver, Script.Function.bound_withReceiver]
    have inside := agrees_function (definition.loc.or loc) definition
    refine (agrees_expr key).bind fun key => ?_
    refine (inside.withFrame inside.keeps.withMethod fun _ => rfl).bind fun value => ?_
    exact .require vocabulary _ fun _ => .pure _

theorem agrees_properties : ∀ nodes : List Script.Property,
    AgreesUnder receiver (lowerProperties vocabulary nodes)
      (lowerProperties vocabulary (propertiesWithReceiver receiver nodes))
  | [] => .of_keeps (closed_keeps.properties vocabulary [])
  | node :: nodes => by
    rw [propertiesWithReceiver, lowerProperties, lowerProperties]
    exact (agrees_property node).bind fun _ => (agrees_properties nodes).map _

theorem agrees_function (loc : Option Location) : ∀ node : Script.Function,
    AgreesUnder receiver (lowerFunction vocabulary loc node)
      (lowerFunction vocabulary loc (node.withReceiver receiver))
  | .mk own params body bound generator async => by
    rw [Script.Function.withReceiver, lowerFunction, lowerFunction]
    refine (AgreesUnder.of_keeps closed_keeps.surroundings).bind fun frames => ?_
    dsimp only
    split
    · exact .fail _
    · refine (agrees_exprs params).bind fun params => (agrees_block loc body).bind fun body => ?_
      exact .of_keeps (closed_keeps.functionExpr vocabulary loc _ _ generator async params body)

theorem agrees_block (loc : Option Location) : ∀ node : Script.Block,
    AgreesUnder receiver (lowerBlock vocabulary loc node)
      (lowerBlock vocabulary loc (node.withReceiver receiver))
  | .mk own body => by
    rw [Script.Block.withReceiver, lowerBlock_eq, lowerBlock_eq]
    refine (AgreesUnder.listBody vocabulary _ body (agrees_stmts body)).bind fun body => ?_
    exact .require vocabulary _ fun _ => .pure _

theorem agrees_handler (loc : Option Location) : ∀ node : Option Script.Catch,
    AgreesUnder receiver (lowerHandler vocabulary loc node)
      (lowerHandler vocabulary loc (handlerWithReceiver receiver node))
  | none => .of_keeps (closed_keeps.handler vocabulary loc none)
  | some (.mk own param body) => by
    rw [handlerWithReceiver, lowerHandler, lowerHandler]
    refine (agrees_option param).bind fun param => (agrees_block loc body).bind fun body => ?_
    exact .require vocabulary _ fun _ => .pure _

theorem agrees_finalizer (loc : Option Location) : ∀ node : Option Script.Block,
    AgreesUnder receiver (lowerFinalizer vocabulary loc node)
      (lowerFinalizer vocabulary loc (finalizerWithReceiver receiver node))
  | none => .of_keeps (closed_keeps.finalizer vocabulary loc none)
  | some node => by
    rw [finalizerWithReceiver, lowerFinalizer, lowerFinalizer]
    exact (agrees_block loc node).map _

theorem agrees_declarator (loc : Option Location) : ∀ node : Script.Declarator,
    AgreesUnder receiver (lowerDeclarator vocabulary loc node)
      (lowerDeclarator vocabulary loc (node.withReceiver receiver))
  | .mk own id init constant => by
    rw [Script.Declarator.withReceiver, lowerDeclarator, lowerDeclarator]
    refine (agrees_expr id).bind fun id => (agrees_option init).bind fun init => ?_
    exact .of_keeps (closed_keeps.declarator vocabulary _ id init)

theorem agrees_runs (loc : Option Location) (constant : Bool) (run : List Target.Declarator) :
    ∀ nodes : List Script.Declarator,
      AgreesUnder receiver (lowerRuns vocabulary loc constant run nodes)
        (lowerRuns vocabulary loc constant run (declaratorsWithReceiver receiver nodes))
  | [] => .of_keeps (closed_keeps.runs vocabulary loc constant run [])
  | node :: nodes => by
    rw [declaratorsWithReceiver, lowerRuns, lowerRuns, Script.Declarator.constant_withReceiver]
    split
    · exact (agrees_declarator loc node).bind fun lowered => agrees_runs loc constant _ nodes
    · refine (AgreesUnder.of_keeps (closed_keeps.buildStmt vocabulary _)).bind fun done => ?_
      refine (agrees_declarator loc node).bind fun lowered => ?_
      exact (agrees_runs loc node.constant [lowered] nodes).map _

theorem agrees_stmt : ∀ node : Script.Stmt,
    AgreesUnder receiver (lowerStmt vocabulary node) (lowerStmt vocabulary (node.withReceiver receiver))
  | .expression loc value => by
    rw [Script.Stmt.withReceiver, lowerStmt, lowerStmt]
    exact .require vocabulary _ fun _ => (agrees_expr value).map _
  | .block loc body => by
    rw [Script.Stmt.withReceiver, lowerStmt, lowerStmt]
    refine (agrees_block loc body).bind fun body => ?_
    exact (AgreesUnder.of_keeps (closed_keeps.buildStmt vocabulary _)).map _
  | .empty _ | .breaking _ | .continuing _ => .of_keeps (closed_keeps.stmt vocabulary _)
  | .ifElse loc test consequent none => by
    rw [Script.Stmt.withReceiver, lowerStmt, lowerStmt]
    exact .require vocabulary _ fun _ => (agrees_expr test).bind fun _ =>
      (AgreesUnder.single consequent (agrees_stmt consequent)).map _
  | .ifElse loc test consequent (some alternate) => by
    rw [Script.Stmt.withReceiver, lowerStmt, lowerStmt]
    exact .require vocabulary _ fun _ => (agrees_expr test).bind fun _ =>
      (AgreesUnder.single consequent (agrees_stmt consequent)).bind fun _ =>
        (AgreesUnder.single alternate (agrees_stmt alternate)).map _
  | .whileLoop loc test body => by
    rw [Script.Stmt.withReceiver, lowerStmt, lowerStmt]
    exact .require vocabulary _ fun _ => (agrees_expr test).bind fun _ =>
      (AgreesUnder.single body (agrees_stmt body)).map _
  | .doWhile loc body test => by
    rw [Script.Stmt.withReceiver, lowerStmt, lowerStmt]
    exact .require vocabulary _ fun _ => (AgreesUnder.single body (agrees_stmt body)).bind fun _ =>
      (agrees_expr test).map _
  | .forIn loc left right body => by
    rw [Script.Stmt.withReceiver, lowerStmt, lowerStmt]
    exact .require vocabulary _ fun _ => (agrees_expr left).bind fun _ =>
      (agrees_expr right).bind fun _ => (AgreesUnder.single body (agrees_stmt body)).map _
  | .forOf loc left right body => by
    rw [Script.Stmt.withReceiver, lowerStmt, lowerStmt]
    exact .require vocabulary _ fun _ => (agrees_expr left).bind fun _ =>
      (agrees_expr right).bind fun _ => (AgreesUnder.single body (agrees_stmt body)).map _
  | .returning loc argument => by
    rw [Script.Stmt.withReceiver, lowerStmt, lowerStmt]
    exact .require vocabulary _ fun _ => (agrees_option argument).map _
  | .throwing loc argument => by
    rw [Script.Stmt.withReceiver, lowerStmt, lowerStmt]
    exact .require vocabulary _ fun _ => (agrees_expr argument).map _
  | .trying loc block handler finalizer => by
    rw [Script.Stmt.withReceiver, lowerStmt, lowerStmt]
    exact .require vocabulary _ fun _ => (agrees_block loc block).bind fun _ =>
      (agrees_handler loc handler).bind fun _ => (agrees_finalizer loc finalizer).map _
  | .declaring loc [] => by
    rw [Script.Stmt.withReceiver, declaratorsWithReceiver]
    exact .of_keeps (closed_keeps.stmt vocabulary _)
  | .declaring loc (first :: declarators) => by
    have runs := agrees_runs loc first.constant [] (first :: declarators)
    rw [declaratorsWithReceiver] at runs
    rw [Script.Stmt.withReceiver, declaratorsWithReceiver, lowerStmt, lowerStmt,
      Script.Declarator.constant_withReceiver]
    exact runs.map _
  | .function loc id definition => by
    rw [Script.Stmt.withReceiver, lowerStmt, lowerStmt, Script.Function.loc_withReceiver]
    refine (agrees_expr id).bind fun id => ?_
    refine (agrees_function (definition.loc.or loc) definition).bind fun value => ?_
    refine (AgreesUnder.of_keeps (closed_keeps.declarator vocabulary loc id _)).bind fun binding => ?_
    exact (AgreesUnder.of_keeps (closed_keeps.buildStmt vocabulary _)).map _
  | .assignment loc op left right => by
    rw [Script.Stmt.withReceiver, lowerStmt, lowerStmt]
    refine (agrees_expr left).bind fun left => (agrees_expr right).bind fun right => ?_
    refine (AgreesUnder.of_keeps (closed_keeps.buildExpr vocabulary _)).bind fun value => ?_
    exact (AgreesUnder.of_keeps (closed_keeps.buildStmt vocabulary _)).map _
  | .cascade loc root steps degrees => by
    rw [Script.Stmt.withReceiver, lowerStmt, lowerStmt]
    split
    · exact .fail _
    · refine (AgreesUnder.of_keeps (keeps_freshName rootStem)).bind fun name => ?_
      refine (agrees_expr root).bind fun root => ?_
      have stores := closed_keeps.assignStmt vocabulary loc name root
      refine (AgreesUnder.of_keeps stores).bind fun first => ?_
      -- The steps are the same on both sides: they have a receiver of their own.
      have steps := closed_keeps.cascade name (closed_keeps.cascadeSteps vocabulary loc degrees steps)
      exact (AgreesUnder.of_keeps steps).map _
  | .yielding loc argument => by
    rw [Script.Stmt.withReceiver, lowerStmt, lowerStmt]
    refine (agrees_option argument).bind fun argument => ?_
    refine (AgreesUnder.of_keeps (closed_keeps.buildExpr vocabulary _)).bind fun value => ?_
    exact (AgreesUnder.of_keeps (closed_keeps.buildStmt vocabulary _)).map _

theorem agrees_stmts : ∀ nodes : List Script.Stmt,
    AgreesUnder receiver (lowerStmts vocabulary nodes)
      (lowerStmts vocabulary (stmtsWithReceiver receiver nodes))
  | [] => .of_keeps (closed_keeps.stmts vocabulary [])
  | node :: nodes => by
    rw [stmtsWithReceiver, lowerStmts, lowerStmts]
    exact (agrees_stmt node).bind fun _ => (agrees_stmts nodes).map _

end

end

end Lowering

end Offside
