import Offside.Proofs.StatementRuns

/-! Lowering is put together from a few kinds of steps. What holds of these, and of steps put together
from steps of which it holds, holds of the lowering of every node, whether it succeeds or fails. -/

namespace Offside.Lowering

/-- The stems from which names are made up. -/
def stems : List String := [rootStem, cascadeStem, tempStem]

section

variable (vocabulary : Target.Vocabulary)

theorem lowerExpr_compareChain_fail (loc : Option Location) {operands : List Script.Expr}
    {operators : List Script.BinaryOp}
    (bad : operators = [] ∨ operands.length ≠ operators.length + 1) :
    lowerExpr vocabulary (.compareChain loc operands operators) =
      .fail (.shape (.chainLength operands.length operators.length)) := by
  cases operands <;> cases operators <;> simp_all [lowerExpr]

theorem lowerExpr_compareChain_cons (loc : Option Location) (first : Script.Expr)
    (op : Script.BinaryOp) {operands : List Script.Expr} {operators : List Script.BinaryOp}
    (fit : operands.length = operators.length + 1) :
    lowerExpr vocabulary (.compareChain loc (first :: operands) (op :: operators)) = (do
      let op ← comparison op
      let left ← lowerExpr vocabulary first
      lowerChain vocabulary loc op left none operators operands) := by
  rw [lowerExpr]
  simp [fit]

theorem lowerChain_last (loc : Option Location) (op : Target.BinaryOp) (left : Target.Expr)
    (chain : Option Target.Expr) (operand : Script.Expr) (operands : List Script.Expr) :
    lowerChain vocabulary loc op left chain [] (operand :: operands) = (do
      let right ← lowerExpr vocabulary operand
      chainLink vocabulary loc op left right chain) := rfl

theorem lowerChain_cons (loc : Option Location) (op : Target.BinaryOp) (left : Target.Expr)
    (chain : Option Target.Expr) (next : Script.BinaryOp) (operators : List Script.BinaryOp)
    (operand : Script.Expr) (operands : List Script.Expr) :
    lowerChain vocabulary loc op left chain (next :: operators) (operand :: operands) = (do
      let name ← freshName tempStem
      let value ← lowerExpr vocabulary operand
      let right ← assign vocabulary loc name value
      let chain ← chainLink vocabulary loc op left right chain
      let op ← comparison next
      let left ← identifier vocabulary loc name
      lowerChain vocabulary loc op left (some chain) operators operands) := rfl

theorem lowerSteps_nil (loc : Option Location) (degrees : List Nat) :
    lowerSteps vocabulary true loc degrees [] = pure [] := rfl

/-- A step that deeper steps follow. Its value is their receiver. -/
def lowerStored (loc : Option Location) (held : List String) (step : Script.Stmt) :
    Lower Target.Stmt :=
  match step with
  | .expression _ value => do
    let name ← freshName cascadeStem
    let value ← lowerExpr vocabulary value
    let stored ← assignStmt vocabulary loc name value
    setReceivers true (held ++ [name])
    return stored
  | _ => .fail (.cascade (.notExpression step.kindName) (step.loc.or loc))

theorem lowerSteps_cons (loc : Option Location) (degree : Nat) (degrees : List Nat)
    (step : Script.Stmt) (steps : List Script.Stmt) :
    lowerSteps vocabulary true loc (degree :: degrees) (step :: steps) = (do
      let held ← receivers true
      if degree = 0 ∨ held.length < degree then
        .fail (.cascade (.noReceiver degree held.length) (step.loc.or loc))
      else
        setReceivers true (held.take degree)
        if degrees.head?.getD 0 ≤ degree then
          let lowered ← lowerStmt vocabulary step
          return lowered.toList ++ (← lowerSteps vocabulary true loc degrees steps)
        else if degree + 1 < degrees.head?.getD 0 then
          .fail (.cascade (.degreeJump degree (degrees.head?.getD 0)) (step.loc.or loc))
        else
          let stored ← lowerStored vocabulary loc (held.take degree) step
          return stored :: (← lowerSteps vocabulary true loc degrees steps)) := by
  have unfolded : lowerSteps vocabulary true loc (degree :: degrees) (step :: steps) = (do
      let held ← receivers true
      if degree == 0 || held.length < degree then
        .fail (.cascade (.noReceiver degree held.length) (step.loc.or loc))
      else
        setReceivers true (held.take degree)
        if degrees.head?.getD 0 ≤ degree then
          let lowered ← lowerStmt vocabulary step
          return lowered.toList ++ (← lowerSteps vocabulary true loc degrees steps)
        else if degree + 1 < degrees.head?.getD 0 then
          .fail (.cascade (.degreeJump degree (degrees.head?.getD 0)) (step.loc.or loc))
        else
          let stored ← lowerStored vocabulary loc (held.take degree) step
          return stored :: (← lowerSteps vocabulary true loc degrees steps)) := by
    cases step with
    | expression at_ value => simp only [lowerStored, bind_assoc, pure_bind]; rfl
    | _ => rfl
  simpa using unfolded

end

/-- A property of steps that lowering preserves. The steps of a cascade change the receivers in its
frame, which no other step does; they have a property of their own. -/
structure Closed (general inCascade : ∀ α : Type, Lower α → Prop) : Prop where
  pure (a : α) : general α (pure a)
  bind {first : Lower α} {next : α → Lower β} :
    general α first → (∀ a, general β (next a)) → general β (first >>= next)
  result (result : Except Fault α) : general α (.ofExcept result)
  surroundings : general (List Frame) surroundings
  template (source : String) : general Template (template source)
  fresh : stem ∈ stems → general String (freshName stem)
  scope {step : Lower α} : general α step → general (α × Frame) (step.withFrame .scope)
  method {step : Lower α} : general α step → general (α × Frame) (step.withFrame .method)
  cascade {step : Lower α} (name : String) :
    inCascade α step → general (α × Frame) (step.withFrame (.cascade name))
  ofGeneral {step : Lower α} : general α step → inCascade α step
  bindInCascade {first : Lower α} {next : α → Lower β} :
    inCascade α first → (∀ a, inCascade β (next a)) → inCascade β (first >>= next)
  receivers : inCascade (List String) (receivers true)
  setReceivers (names : List String) : inCascade Unit (setReceivers true names)

namespace Closed

variable {general inCascade : ∀ α : Type, Lower α → Prop} (closed : Closed general inCascade)
variable (vocabulary : Target.Vocabulary)

include closed

theorem fail (fault : Fault) : general α (.fail fault) := closed.result (.error fault)

theorem require (kind : Target.NodeKind) : general Unit (require vocabulary kind) :=
  closed.result _

theorem buildExpr (node : Target.Expr) : general Target.Expr (buildExpr vocabulary node) :=
  closed.result _

theorem buildStmt (node : Target.Stmt) : general Target.Stmt (buildStmt vocabulary node) :=
  closed.result _

theorem identifier (loc : Option Location) (name : String) :
    general Target.Expr (identifier vocabulary loc name) := closed.result _

theorem assign (loc : Option Location) (name : String) (value : Target.Expr) :
    general Target.Expr (assign vocabulary loc name value) :=
  closed.bind (closed.identifier vocabulary loc name) fun _ => closed.buildExpr vocabulary _

theorem assignStmt (loc : Option Location) (name : String) (value : Target.Expr) :
    general Target.Stmt (assignStmt vocabulary loc name value) :=
  closed.bind (closed.assign vocabulary loc name value) fun _ => closed.buildStmt vocabulary _

theorem instantiate (source : String) (bindings : Template.Bindings) (loc : Option Location) :
    general Target.Expr (instantiate vocabulary source bindings loc) :=
  closed.bind (closed.template source) fun _ => closed.result _

theorem declarator (loc : Option Location) (id : Target.Expr) (init : Option Target.Expr) :
    general Target.Declarator (declarator vocabulary loc id init) :=
  closed.bind (closed.require vocabulary _) fun _ => closed.pure _

theorem declareAll (loc : Option Location) (names : List String) :
    general (List Target.Declarator) (declareAll vocabulary loc names) := by
  induction names with
  | nil => exact closed.pure _
  | cons name names ih =>
    refine closed.bind (closed.identifier vocabulary loc name) fun id => ?_
    refine closed.bind (closed.declarator vocabulary loc id none) fun _ => ?_
    exact closed.bind ih fun _ => closed.pure _

theorem declareNames (loc : Option Location) (names : List String) :
    general (List Target.Stmt) (declareNames vocabulary loc names) := by
  unfold Lowering.declareNames
  split
  · exact closed.pure _
  · refine closed.bind (closed.declareAll vocabulary loc names) fun _ => ?_
    exact closed.bind (closed.buildStmt vocabulary _) fun _ => closed.pure _

theorem listBody (loc : Option Location) (stmts : List Script.Stmt)
    (lowering : Lower (List (List Target.Stmt)))
    (inside : general (List (List Target.Stmt)) lowering) :
    general (List Target.Stmt) (listBody vocabulary loc stmts lowering) := by
  refine closed.bind (closed.scope inside) fun ⟨lowered, frame⟩ => ?_
  match frame with
  | .scope names =>
    exact closed.bind (closed.declareNames vocabulary loc names) fun _ => closed.pure _
  | .cascade _ | .method => exact closed.fail _

theorem single (kind : String) (lowering : Lower (Expansion Target.Stmt))
    (inside : general (Expansion Target.Stmt) lowering) :
    general Target.Stmt (single kind lowering) := by
  refine closed.bind inside fun expansion => ?_
  split
  · exact closed.pure _
  · exact closed.fail _

theorem comparison (op : Script.BinaryOp) : general Target.BinaryOp (comparison op) := by
  unfold Lowering.comparison
  split
  · exact closed.pure _
  · exact closed.fail _

theorem chainLink (loc : Option Location) (op : Target.BinaryOp) (left right : Target.Expr)
    (chain : Option Target.Expr) :
    general Target.Expr (chainLink vocabulary loc op left right chain) := by
  refine closed.bind (closed.buildExpr vocabulary _) fun link => ?_
  cases chain with
  | none => exact closed.pure _
  | some chain => exact closed.buildExpr vocabulary _

theorem functionExpr (loc own : Option Location) (bound generator async : Bool)
    (params : List Target.Expr) (body : Target.Block) :
    general Target.Expr (functionExpr vocabulary loc own bound generator async params body) := by
  unfold Lowering.functionExpr
  split
  · exact closed.buildExpr vocabulary _
  · split
    · refine closed.bind (closed.buildExpr vocabulary _) fun inner => ?_
      refine closed.bind (closed.instantiate vocabulary _ _ loc) fun applied => ?_
      refine closed.bind (closed.buildStmt vocabulary _) fun result => ?_
      exact closed.bind (closed.require vocabulary _) fun _ => closed.buildExpr vocabulary _
    · exact closed.buildExpr vocabulary _

mutual

theorem expr : ∀ node : Script.Expr, general Target.Expr (lowerExpr vocabulary node)
  | .identifier loc name => by
    rw [lowerExpr]
    exact closed.bind (closed.require vocabulary _) fun _ => closed.pure _
  | .literal loc value => by
    rw [lowerExpr]
    exact closed.bind (closed.require vocabulary _) fun _ => closed.pure _
  | .thisObject loc => by
    rw [lowerExpr]
    exact closed.bind (closed.require vocabulary _) fun _ => closed.pure _
  | .virtualObject loc => by
    rw [lowerExpr]
    refine closed.bind closed.surroundings fun frames => ?_
    split
    · exact closed.identifier vocabulary loc _
    · exact closed.fail _
  | .array loc elements => by
    rw [lowerExpr]
    refine closed.bind (closed.require vocabulary _) fun _ => ?_
    exact closed.bind (exprs elements) fun _ => closed.pure _
  | .object loc items => by
    rw [lowerExpr]
    refine closed.bind (closed.require vocabulary _) fun _ => ?_
    exact closed.bind (properties items) fun _ => closed.pure _
  | .function loc definition => by
    rw [lowerExpr]
    exact function loc definition
  | .unary loc op argument => by
    rw [lowerExpr]
    refine closed.bind (closed.require vocabulary _) fun _ => ?_
    exact closed.bind (expr argument) fun _ => closed.pure _
  | .binary loc op left right => by
    rw [lowerExpr]
    refine closed.bind (expr left) fun _ => closed.bind (expr right) fun _ => ?_
    split
    · exact closed.buildExpr vocabulary _
    · exact closed.instantiate vocabulary _ _ loc
  | .logical loc op left right => by
    rw [lowerExpr]
    refine closed.bind (closed.require vocabulary _) fun _ => ?_
    exact closed.bind (expr left) fun _ => closed.bind (expr right) fun _ => closed.pure _
  | .conditional loc test consequent alternate => by
    rw [lowerExpr]
    refine closed.bind (closed.require vocabulary _) fun _ => closed.bind (expr test) fun _ => ?_
    exact closed.bind (expr consequent) fun _ => closed.bind (expr alternate) fun _ => closed.pure _
  | .assignment loc op left right => by
    rw [lowerExpr]
    refine closed.bind (closed.require vocabulary _) fun _ => ?_
    exact closed.bind (expr left) fun _ => closed.bind (expr right) fun _ => closed.pure _
  | .call loc callee arguments => by
    rw [lowerExpr]
    refine closed.bind (closed.require vocabulary _) fun _ => ?_
    exact closed.bind (expr callee) fun _ => closed.bind (exprs arguments) fun _ => closed.pure _
  | .construct loc callee arguments => by
    rw [lowerExpr]
    refine closed.bind (closed.require vocabulary _) fun _ => ?_
    exact closed.bind (expr callee) fun _ => closed.bind (exprs arguments) fun _ => closed.pure _
  | .member loc object property computed => by
    rw [lowerExpr]
    refine closed.bind (closed.require vocabulary _) fun _ => ?_
    exact closed.bind (expr object) fun _ => closed.bind (expr property) fun _ => closed.pure _
  | .sequence loc items => by
    rw [lowerExpr]
    refine closed.bind (closed.require vocabulary _) fun _ => ?_
    exact closed.bind (exprs items) fun _ => closed.pure _
  | .yielding loc argument delegate => by
    rw [lowerExpr]
    refine closed.bind (closed.require vocabulary _) fun _ => ?_
    exact closed.bind (option argument) fun _ => closed.pure _
  | .awaiting loc argument => by
    rw [lowerExpr]
    refine closed.bind (closed.require vocabulary _) fun _ => ?_
    exact closed.bind (expr argument) fun _ => closed.pure _
  | .compareChain loc [] operators => by
    rw [lowerExpr_compareChain_fail vocabulary loc (.inr (by simp))]
    exact closed.fail _
  | .compareChain loc (first :: operands) [] => by
    rw [lowerExpr_compareChain_fail vocabulary loc (.inl rfl)]
    exact closed.fail _
  | .compareChain loc (first :: operands) (op :: operators) => by
    by_cases fit : operands.length = operators.length + 1
    · rw [lowerExpr_compareChain_cons vocabulary loc first op fit]
      refine closed.bind (closed.comparison op) fun op => ?_
      exact closed.bind (expr first) fun left => chain loc op left none operators operands
    · rw [lowerExpr_compareChain_fail vocabulary loc (.inr (by simpa using fit))]
      exact closed.fail _

theorem exprs : ∀ nodes : List Script.Expr,
    general (List Target.Expr) (lowerExprs vocabulary nodes)
  | [] => by
    rw [lowerExprs]
    exact closed.pure _
  | node :: nodes => by
    rw [lowerExprs]
    exact closed.bind (expr node) fun _ => closed.bind (exprs nodes) fun _ => closed.pure _

theorem option : ∀ node : Option Script.Expr,
    general (Option Target.Expr) (lowerOption vocabulary node)
  | none => by
    rw [lowerOption]
    exact closed.pure _
  | some node => by
    rw [lowerOption]
    exact closed.bind (expr node) fun _ => closed.pure _

theorem chain (loc : Option Location) (op : Target.BinaryOp) (left : Target.Expr)
    (before : Option Target.Expr) (operators : List Script.BinaryOp) :
    ∀ operands : List Script.Expr,
      general Target.Expr (lowerChain vocabulary loc op left before operators operands)
  | [] => closed.fail _
  | operand :: operands => by
    cases operators with
    | nil =>
      exact closed.bind (expr operand) fun _ => closed.chainLink vocabulary loc op left _ before
    | cons next operators =>
      rw [lowerChain_cons]
      refine closed.bind (closed.fresh (by simp [stems])) fun name => ?_
      refine closed.bind (expr operand) fun value => ?_
      refine closed.bind (closed.assign vocabulary loc name value) fun right => ?_
      refine closed.bind (closed.chainLink vocabulary loc op left right before) fun link => ?_
      refine closed.bind (closed.comparison next) fun op => ?_
      refine closed.bind (closed.identifier vocabulary loc name) fun left => ?_
      exact chain loc op left (some link) operators operands

theorem property : ∀ node : Script.Property,
    general Target.Property (lowerProperty vocabulary node)
  | .keyValue loc key value => by
    rw [lowerProperty]
    refine closed.bind (expr key) fun _ => closed.bind (expr value) fun _ => ?_
    exact closed.bind (closed.require vocabulary _) fun _ => closed.pure _
  | .method loc key definition => by
    rw [lowerProperty]
    refine closed.bind (expr key) fun _ => ?_
    refine closed.bind (closed.method (function (definition.loc.or loc) definition)) fun _ => ?_
    exact closed.bind (closed.require vocabulary _) fun _ => closed.pure _

theorem properties : ∀ nodes : List Script.Property,
    general (List Target.Property) (lowerProperties vocabulary nodes)
  | [] => by
    rw [lowerProperties]
    exact closed.pure _
  | node :: nodes => by
    rw [lowerProperties]
    exact closed.bind (property node) fun _ => closed.bind (properties nodes) fun _ => closed.pure _

theorem function (loc : Option Location) : ∀ node : Script.Function,
    general Target.Expr (lowerFunction vocabulary loc node)
  | .mk own params body bound generator async => by
    rw [lowerFunction]
    refine closed.bind closed.surroundings fun frames => ?_
    dsimp only
    split
    · exact closed.fail _
    · refine closed.bind (exprs params) fun _ => closed.bind (block loc body) fun _ => ?_
      exact closed.functionExpr vocabulary loc _ _ generator async _ _

theorem block (loc : Option Location) : ∀ node : Script.Block,
    general Target.Block (lowerBlock vocabulary loc node)
  | .mk own body => by
    rw [lowerBlock_eq]
    refine closed.bind (closed.listBody vocabulary _ body _ (stmts body)) fun _ => ?_
    exact closed.bind (closed.require vocabulary _) fun _ => closed.pure _

theorem handler (loc : Option Location) : ∀ node : Option Script.Catch,
    general (Option Target.Catch) (lowerHandler vocabulary loc node)
  | none => by
    rw [lowerHandler]
    exact closed.pure _
  | some (.mk own param body) => by
    rw [lowerHandler]
    refine closed.bind (option param) fun _ => closed.bind (block loc body) fun _ => ?_
    exact closed.bind (closed.require vocabulary _) fun _ => closed.pure _

theorem finalizer (loc : Option Location) : ∀ node : Option Script.Block,
    general (Option Target.Block) (lowerFinalizer vocabulary loc node)
  | none => by
    rw [lowerFinalizer]
    exact closed.pure _
  | some node => by
    rw [lowerFinalizer]
    exact closed.bind (block loc node) fun _ => closed.pure _

theorem declaratorOf (loc : Option Location) : ∀ node : Script.Declarator,
    general Target.Declarator (lowerDeclarator vocabulary loc node)
  | .mk own id init constant => by
    rw [lowerDeclarator]
    refine closed.bind (expr id) fun _ => closed.bind (option init) fun _ => ?_
    exact closed.declarator vocabulary _ _ _

theorem runs (loc : Option Location) (constant : Bool) (run : List Target.Declarator) :
    ∀ nodes : List Script.Declarator,
      general (List Target.Stmt) (lowerRuns vocabulary loc constant run nodes)
  | [] => by
    rw [lowerRuns]
    exact closed.bind (closed.buildStmt vocabulary _) fun _ => closed.pure _
  | node :: nodes => by
    rw [lowerRuns]
    split
    · exact closed.bind (declaratorOf loc node) fun _ => runs loc constant _ nodes
    · refine closed.bind (closed.buildStmt vocabulary _) fun _ => ?_
      refine closed.bind (declaratorOf loc node) fun _ => ?_
      exact closed.bind (runs loc node.constant _ nodes) fun _ => closed.pure _

theorem stmt : ∀ node : Script.Stmt,
    general (Expansion Target.Stmt) (lowerStmt vocabulary node)
  | .expression loc value => by
    rw [lowerStmt]
    refine closed.bind (closed.require vocabulary _) fun _ => ?_
    exact closed.bind (expr value) fun _ => closed.pure _
  | .block loc body => by
    rw [lowerStmt]
    refine closed.bind (block loc body) fun _ => ?_
    exact closed.bind (closed.buildStmt vocabulary _) fun _ => closed.pure _
  | .empty loc => by
    rw [lowerStmt]
    exact closed.bind (closed.require vocabulary _) fun _ => closed.pure _
  | .ifElse loc test consequent none => by
    rw [lowerStmt]
    refine closed.bind (closed.require vocabulary _) fun _ => closed.bind (expr test) fun _ => ?_
    exact closed.bind (closed.single _ _ (stmt consequent)) fun _ => closed.pure _
  | .ifElse loc test consequent (some alternate) => by
    rw [lowerStmt]
    refine closed.bind (closed.require vocabulary _) fun _ => closed.bind (expr test) fun _ => ?_
    refine closed.bind (closed.single _ _ (stmt consequent)) fun _ => ?_
    exact closed.bind (closed.single _ _ (stmt alternate)) fun _ => closed.pure _
  | .whileLoop loc test body => by
    rw [lowerStmt]
    refine closed.bind (closed.require vocabulary _) fun _ => closed.bind (expr test) fun _ => ?_
    exact closed.bind (closed.single _ _ (stmt body)) fun _ => closed.pure _
  | .doWhile loc body test => by
    rw [lowerStmt]
    refine closed.bind (closed.require vocabulary _) fun _ => ?_
    refine closed.bind (closed.single _ _ (stmt body)) fun _ => ?_
    exact closed.bind (expr test) fun _ => closed.pure _
  | .forIn loc left right body => by
    rw [lowerStmt]
    refine closed.bind (closed.require vocabulary _) fun _ => closed.bind (expr left) fun _ => ?_
    refine closed.bind (expr right) fun _ => ?_
    exact closed.bind (closed.single _ _ (stmt body)) fun _ => closed.pure _
  | .forOf loc left right body => by
    rw [lowerStmt]
    refine closed.bind (closed.require vocabulary _) fun _ => closed.bind (expr left) fun _ => ?_
    refine closed.bind (expr right) fun _ => ?_
    exact closed.bind (closed.single _ _ (stmt body)) fun _ => closed.pure _
  | .returning loc argument => by
    rw [lowerStmt]
    refine closed.bind (closed.require vocabulary _) fun _ => ?_
    exact closed.bind (option argument) fun _ => closed.pure _
  | .breaking loc => by
    rw [lowerStmt]
    exact closed.bind (closed.require vocabulary _) fun _ => closed.pure _
  | .continuing loc => by
    rw [lowerStmt]
    exact closed.bind (closed.require vocabulary _) fun _ => closed.pure _
  | .throwing loc argument => by
    rw [lowerStmt]
    refine closed.bind (closed.require vocabulary _) fun _ => ?_
    exact closed.bind (expr argument) fun _ => closed.pure _
  | .trying loc body clause last => by
    rw [lowerStmt]
    refine closed.bind (closed.require vocabulary _) fun _ => closed.bind (block loc body) fun _ => ?_
    refine closed.bind (handler loc clause) fun _ => ?_
    exact closed.bind (finalizer loc last) fun _ => closed.pure _
  | .declaring loc [] => by
    rw [lowerStmt]
    exact closed.fail _
  | .declaring loc (first :: declarators) => by
    rw [lowerStmt]
    exact closed.bind (runs loc first.constant [] (first :: declarators)) fun _ => closed.pure _
  | .function loc id definition => by
    rw [lowerStmt]
    refine closed.bind (expr id) fun _ => ?_
    refine closed.bind (function (definition.loc.or loc) definition) fun _ => ?_
    refine closed.bind (closed.declarator vocabulary loc _ _) fun _ => ?_
    exact closed.bind (closed.buildStmt vocabulary _) fun _ => closed.pure _
  | .assignment loc op left right => by
    rw [lowerStmt]
    refine closed.bind (expr left) fun _ => closed.bind (expr right) fun _ => ?_
    refine closed.bind (closed.buildExpr vocabulary _) fun _ => ?_
    exact closed.bind (closed.buildStmt vocabulary _) fun _ => closed.pure _
  | .cascade loc root steps degrees => by
    rw [lowerStmt]
    split
    · exact closed.fail _
    · refine closed.bind (closed.fresh (by simp [stems])) fun name => ?_
      refine closed.bind (expr root) fun root => ?_
      refine closed.bind (closed.assignStmt vocabulary loc name root) fun _ => ?_
      exact closed.bind (closed.cascade name (cascadeSteps loc degrees steps)) fun _ => closed.pure _
  | .yielding loc argument => by
    rw [lowerStmt]
    refine closed.bind (option argument) fun _ => ?_
    refine closed.bind (closed.buildExpr vocabulary _) fun _ => ?_
    exact closed.bind (closed.buildStmt vocabulary _) fun _ => closed.pure _

theorem stmts : ∀ nodes : List Script.Stmt,
    general (List (List Target.Stmt)) (lowerStmts vocabulary nodes)
  | [] => by
    rw [lowerStmts]
    exact closed.pure _
  | node :: nodes => by
    rw [lowerStmts]
    exact closed.bind (stmt node) fun _ => closed.bind (stmts nodes) fun _ => closed.pure _

theorem cascadeSteps (loc : Option Location) (degrees : List Nat) : ∀ nodes : List Script.Stmt,
    inCascade (List Target.Stmt) (lowerSteps vocabulary true loc degrees nodes)
  | [] => closed.ofGeneral (closed.pure _)
  | node :: nodes => by
    cases degrees with
    | nil => exact closed.ofGeneral (closed.pure _)
    | cons degree degrees =>
      rw [lowerSteps_cons]
      refine closed.bindInCascade closed.receivers fun held => ?_
      split
      · exact closed.ofGeneral (closed.fail _)
      refine closed.bindInCascade (closed.setReceivers _) fun _ => ?_
      split
      · refine closed.bindInCascade (closed.ofGeneral (stmt node)) fun _ => ?_
        exact closed.bindInCascade (cascadeSteps loc degrees nodes) fun _ =>
          closed.ofGeneral (closed.pure _)
      split
      · exact closed.ofGeneral (closed.fail _)
      refine closed.bindInCascade (stored loc _ node) fun _ => ?_
      exact closed.bindInCascade (cascadeSteps loc degrees nodes) fun _ =>
        closed.ofGeneral (closed.pure _)

theorem stored (loc : Option Location) (held : List String) : ∀ node : Script.Stmt,
    inCascade Target.Stmt (lowerStored vocabulary loc held node)
  | .expression own value => by
    rw [lowerStored]
    refine closed.bindInCascade (closed.ofGeneral (closed.fresh (by simp [stems]))) fun name => ?_
    refine closed.bindInCascade (closed.ofGeneral (expr value)) fun value => ?_
    refine closed.bindInCascade
      (closed.ofGeneral (closed.assignStmt vocabulary loc name value)) fun _ => ?_
    exact closed.bindInCascade (closed.setReceivers _) fun _ => closed.ofGeneral (closed.pure _)
  | .block .. | .empty _ | .ifElse .. | .whileLoop .. | .doWhile .. | .forIn .. | .forOf ..
  | .returning .. | .breaking _ | .continuing _ | .throwing .. | .trying .. | .declaring ..
  | .function .. | .assignment .. | .cascade .. | .yielding .. => closed.ofGeneral (closed.fail _)

end

theorem program (node : Script.Program) :
    general Target.Program (lowerProgram vocabulary node) := by
  rw [lowerProgram_eq]
  refine closed.bind (closed.listBody vocabulary _ _ _ (closed.stmts vocabulary node.body)) fun _ => ?_
  exact closed.bind (closed.require vocabulary _) fun _ => closed.pure _

end Closed

end Offside.Lowering
