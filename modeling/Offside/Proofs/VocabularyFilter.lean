import Offside.Proofs.FilteredSteps

/-! Restricting the vocabulary is exactly a filter. What the full vocabulary makes of a program is what
any vocabulary makes of it that has all the kinds in it; any other refuses the program, for one of
those kinds that it lacks. -/

namespace Offside.Lowering

open Target (NodeKind Vocabulary)

section

variable (vocabulary : Vocabulary)

mutual

theorem filters_expr (role : Role) : ∀ node : Script.Expr,
    Filters vocabulary [] (fun lowered => Target.kinds (lowered.nodes role))
      (lowerExpr .full node) (lowerExpr vocabulary node)
  | .identifier loc name => by
    simp only [lowerExpr, require_full, pure_bind]
    exact .require _ (.pure (by simp [Target.Expr.nodes, Target.Node.kind?, Target.Expr.kind]))
  | .literal loc value => by
    simp only [lowerExpr, require_full, pure_bind]
    exact .require _ (.pure (by simp [Target.Expr.nodes, Target.Node.kind?, Target.Expr.kind]))
  | .thisObject loc => by
    simp only [lowerExpr, require_full, pure_bind]
    exact .require _ (.pure (by simp [Target.Expr.nodes, Target.Node.kind?, Target.Expr.kind]))
  | .virtualObject loc => by
    simp only [lowerExpr]
    refine .skip .surroundings fun frames => ?_
    cases innermostReceiver frames with
    | none => exact .fail (by simp)
    | some receiver =>
      simp only [identifier_full]
      exact .builtExpr (by simp [Target.Expr.nodes, Target.Node.kind?])
  | .array loc elements => by
    simp only [lowerExpr, require_full, pure_bind]
    refine .require _ (.part (filters_exprs elements) fun _ => .pure ?_)
    simp [Target.Expr.nodes, Target.Node.kind?, Target.Expr.kind]
  | .sequence loc elements => by
    simp only [lowerExpr, require_full, pure_bind]
    refine .require _ (.part (filters_exprs elements) fun _ => .pure ?_)
    simp [Target.Expr.nodes, Target.Node.kind?, Target.Expr.kind]
  | .object loc properties => by
    simp only [lowerExpr, require_full, pure_bind]
    refine .require _ (.part (filters_properties properties) fun _ => .pure ?_)
    simp [Target.Expr.nodes, Target.Node.kind?, Target.Expr.kind]
  | .function loc definition => by
    simp only [lowerExpr]
    exact filters_function role loc definition
  | .unary loc op argument => by
    simp only [lowerExpr, require_full, pure_bind]
    refine .require _ (.part (filters_expr .plain argument) fun _ => .pure ?_)
    simp [Target.Expr.nodes, Target.Node.kind?, Target.Expr.kind]
  | .awaiting loc argument => by
    simp only [lowerExpr, require_full, pure_bind]
    refine .require _ (.part (filters_expr .plain argument) fun _ => .pure ?_)
    simp [Target.Expr.nodes, Target.Node.kind?, Target.Expr.kind]
  | .binary loc op left right => by
    simp only [lowerExpr]
    refine .part (filters_expr .plain left) fun left => ?_
    refine .part (filters_expr .plain right) fun right => ?_
    cases op.target? with
    | none => exact (Filters.floorDivision role loc left right).congr (by simp)
    | some op =>
      simp only [buildExpr_full]
      exact .builtExpr (by simp [Target.Expr.nodes, Target.Node.kind?])
  | .logical loc op left right => by
    simp only [lowerExpr, require_full, pure_bind]
    refine .require _ (.part (filters_expr .plain left) fun _ => ?_)
    refine .part (filters_expr .plain right) fun _ => .pure ?_
    simp [Target.Expr.nodes, Target.Node.kind?, Target.Expr.kind]
  | .member loc object property computed => by
    simp only [lowerExpr, require_full, pure_bind]
    refine .require _ (.part (filters_expr .plain object) fun _ => ?_)
    refine .part (filters_expr .plain property) fun _ => .pure ?_
    simp [Target.Expr.nodes, Target.Node.kind?, Target.Expr.kind]
  | .assignment loc op left right => by
    simp only [lowerExpr, require_full, pure_bind]
    refine .require _ (.part (filters_expr .assigned left) fun _ => ?_)
    refine .part (filters_expr .plain right) fun _ => .pure ?_
    simp [Target.Expr.nodes, Target.Node.kind?, Target.Expr.kind]
  | .conditional loc test consequent alternate => by
    simp only [lowerExpr, require_full, pure_bind]
    refine .require _ (.part (filters_expr .plain test) fun _ => ?_)
    refine .part (filters_expr .plain consequent) fun _ => ?_
    refine .part (filters_expr .plain alternate) fun _ => .pure ?_
    simp [Target.Expr.nodes, Target.Node.kind?, Target.Expr.kind]
  | .call loc callee arguments => by
    simp only [lowerExpr, require_full, pure_bind]
    refine .require _ (.part (filters_expr .plain callee) fun _ => ?_)
    refine .part (filters_exprs arguments) fun _ => .pure ?_
    simp [Target.Expr.nodes, Target.Node.kind?, Target.Expr.kind]
  | .construct loc callee arguments => by
    simp only [lowerExpr, require_full, pure_bind]
    refine .require _ (.part (filters_expr .plain callee) fun _ => ?_)
    refine .part (filters_exprs arguments) fun _ => .pure ?_
    simp [Target.Expr.nodes, Target.Node.kind?, Target.Expr.kind]
  | .yielding loc argument delegate => by
    simp only [lowerExpr, require_full, pure_bind]
    refine .require _ (.part (filters_option argument) fun _ => .pure ?_)
    simp [Target.Expr.nodes, Target.Node.kind?, Target.Expr.kind]
  | .compareChain loc [] operators => by
    simp only [lowerExpr_compareChain_fail _ loc
      (.inr (by simp) : operators = [] ∨ ([] : List Script.Expr).length ≠ operators.length + 1)]
    exact .fail (by simp)
  | .compareChain loc (first :: operands) [] => by
    simp only [lowerExpr_compareChain_fail _ loc
      (.inl rfl : ([] : List Script.BinaryOp) = [] ∨ (first :: operands).length ≠ 1)]
    exact .fail (by simp)
  | .compareChain loc (first :: operands) (op :: operators) => by
    by_cases fit : operands.length = operators.length + 1
    · simp only [lowerExpr_compareChain_cons _ loc first op fit]
      refine .skip (.comparison op) fun op => ?_
      refine .part (filters_expr .plain first) fun left => ?_
      exact (filters_chain role loc op left none operators operands).congr (by
        simp [Target.optionNodes])
    · rw [lowerExpr_compareChain_fail .full loc (.inr (by simpa using fit)),
        lowerExpr_compareChain_fail vocabulary loc (.inr (by simpa using fit))]
      exact .fail (by simp)

theorem filters_exprs : ∀ nodes : List Script.Expr,
    Filters vocabulary [] (fun lowered => Target.kinds (Target.exprNodes lowered))
      (lowerExprs .full nodes) (lowerExprs vocabulary nodes)
  | [] => .pure (by simp [Target.exprNodes])
  | node :: nodes => by
    simp only [lowerExprs]
    refine .part (filters_expr .plain node) fun _ => .part (filters_exprs nodes) fun _ => .pure ?_
    simp [Target.exprNodes]

theorem filters_option : ∀ node : Option Script.Expr,
    Filters vocabulary [] (fun lowered => Target.kinds (Target.optionNodes lowered))
      (lowerOption .full node) (lowerOption vocabulary node)
  | none => .pure (by simp [Target.optionNodes])
  | some node => by
    simp only [lowerOption]
    refine .part (filters_expr .plain node) fun _ => .pure ?_
    simp [Target.optionNodes]

theorem filters_chain (role : Role) (loc : Option Location) (op : Target.BinaryOp)
    (left : Target.Expr) (chain : Option Target.Expr) (operators : List Script.BinaryOp) :
    ∀ operands : List Script.Expr,
      Filters vocabulary (Target.kinds (Target.optionNodes chain ++ left.nodes .plain))
        (fun lowered => Target.kinds (lowered.nodes role))
        (lowerChain .full loc op left chain operators operands)
        (lowerChain vocabulary loc op left chain operators operands)
  | [] => .fail (by simp)
  | operand :: operands => by
    cases operators with
    | nil =>
      simp only [lowerChain_last]
      refine .part (filters_expr .plain operand) fun right => ?_
      exact (Filters.chainLink role loc op left right chain).congr (by simp)
    | cons next operators =>
      simp only [lowerChain_cons, assign_full, identifier_full, pure_bind]
      refine .skip (.fresh tempStem) fun name => ?_
      refine .part (filters_expr .plain operand) fun value => ?_
      refine .assign loc name value ?_
      refine .bindOn [] (.chainLink .plain loc op left _ chain) (fun kind => ?_) fun link => ?_
      · simp only [Target.Expr.nodes, Target.kinds_append, Target.kinds_cons, Target.kinds_nil,
          Target.Node.kind?, Target.Expr.kind, Option.toList_some, List.nil_append, List.mem_append,
          List.mem_cons, List.not_mem_nil]
        tauto
      refine .skip (.comparison next) fun op => .identifier loc name ?_
      refine (filters_chain role loc op _ (some link) operators operands).congr ?_
      simp [Target.Expr.nodes, Target.optionNodes, Target.Node.kind?, Target.Expr.kind, or_comm]

theorem filters_property : ∀ node : Script.Property,
    Filters vocabulary [] (fun lowered => Target.kinds lowered.nodes)
      (lowerProperty .full node) (lowerProperty vocabulary node)
  | .keyValue loc key value => by
    simp only [lowerProperty, require_full, pure_bind]
    refine .part (filters_expr .plain key) fun _ => .part (filters_expr .plain value) fun _ => ?_
    exact .require _ (.pure (by simp [Target.Property.nodes, Target.Node.kind?]))
  | .method loc key definition => by
    simp only [lowerProperty, require_full, pure_bind]
    refine .part (filters_expr .plain key) fun _ => ?_
    refine .part ((filters_function .plain (definition.loc.or loc) definition).withFrame .method) ?_
    exact fun _ => .require _ (.pure (by simp [Target.Property.nodes, Target.Node.kind?]))

theorem filters_properties : ∀ nodes : List Script.Property,
    Filters vocabulary [] (fun lowered => Target.kinds (Target.propertyNodes lowered))
      (lowerProperties .full nodes) (lowerProperties vocabulary nodes)
  | [] => .pure (by simp [Target.propertyNodes])
  | node :: nodes => by
    simp only [lowerProperties]
    refine .part (filters_property node) fun _ => .part (filters_properties nodes) fun _ => .pure ?_
    simp [Target.propertyNodes]

theorem filters_function (role : Role) (loc : Option Location) : ∀ node : Script.Function,
    Filters vocabulary [] (fun lowered => Target.kinds (lowered.nodes role))
      (lowerFunction .full loc node) (lowerFunction vocabulary loc node)
  | .mk own params body bound generator async => by
    simp only [lowerFunction]
    refine .skip .surroundings fun frames => ?_
    split
    · exact .fail (by simp)
    · refine .part (filters_exprs params) fun params => .part (filters_block loc body) fun body => ?_
      exact (Filters.functionExpr role loc _ _ generator async params body).congr (by simp)

theorem filters_block (loc : Option Location) : ∀ node : Script.Block,
    Filters vocabulary [] (fun lowered => Target.kinds lowered.nodes)
      (lowerBlock .full loc node) (lowerBlock vocabulary loc node)
  | .mk own body => by
    simp only [lowerBlock_eq, require_full, pure_bind]
    refine .part (.listBody _ body (filters_stmts body)) fun _ => .require _ (.pure ?_)
    simp [Target.Block.nodes, Target.Node.kind?]

theorem filters_handler (loc : Option Location) : ∀ node : Option Script.Catch,
    Filters vocabulary [] (fun lowered => Target.kinds (lowered.elim [] Target.Catch.nodes))
      (lowerHandler .full loc node) (lowerHandler vocabulary loc node)
  | none => .pure (by simp)
  | some (.mk own param body) => by
    simp only [lowerHandler, require_full, pure_bind]
    refine .part (filters_option param) fun _ => .part (filters_block loc body) fun _ => ?_
    exact .require _ (.pure (by simp [Target.Catch.nodes, Target.Node.kind?]))

theorem filters_finalizer (loc : Option Location) : ∀ node : Option Script.Block,
    Filters vocabulary [] (fun lowered => Target.kinds (lowered.elim [] Target.Block.nodes))
      (lowerFinalizer .full loc node) (lowerFinalizer vocabulary loc node)
  | none => .pure (by simp)
  | some node => by
    simp only [lowerFinalizer]
    exact .part (filters_block loc node) fun _ => .pure (by simp)

theorem filters_declarator (loc : Option Location) : ∀ node : Script.Declarator,
    Filters vocabulary [] (fun lowered => Target.kinds lowered.nodes)
      (lowerDeclarator .full loc node) (lowerDeclarator vocabulary loc node)
  | .mk own id init constant => by
    simp only [lowerDeclarator, declarator, require_full, pure_bind]
    refine .part (filters_expr .declared id) fun _ => .part (filters_option init) fun _ => ?_
    exact .require _ (.pure (by simp [Target.Declarator.nodes, Target.Node.kind?]))

theorem filters_runs (loc : Option Location) (constant : Bool) (run : List Target.Declarator) :
    ∀ nodes : List Script.Declarator,
      Filters vocabulary (Target.kinds (Target.declaratorNodes run))
        (fun lowered => Target.kinds (Target.stmtNodes lowered))
        (lowerRuns .full loc constant run nodes) (lowerRuns vocabulary loc constant run nodes)
  | [] => by
    simp only [lowerRuns, declaration, buildStmt_full, pure_bind]
    refine .buildStmt _ (.pure ?_)
    simp [Target.stmtNodes, Target.Stmt.nodes, Target.Node.kind?]
  | node :: nodes => by
    simp only [lowerRuns]
    split
    · refine .part (filters_declarator loc node) fun lowered => ?_
      refine (filters_runs loc constant (run ++ [lowered]) nodes).congr ?_
      simp [Target.declaratorNodes]
    · simp only [declaration, buildStmt_full, pure_bind]
      refine .buildStmt _ (.part (filters_declarator loc node) fun lowered => ?_)
      refine .bindOn (.variableDeclaration :: Target.kinds (Target.declaratorNodes run))
        (filters_runs loc node.constant [lowered] nodes) ?_ fun rest => .pure ?_
      · simp [Target.declaratorNodes, Target.Stmt.kind]
      · simp [Target.stmtNodes, Target.Stmt.nodes, Target.Node.kind?, Target.Stmt.kind]

theorem filters_stmt : ∀ node : Script.Stmt,
    Filters vocabulary [] (fun lowered => Target.kinds (Target.stmtNodes lowered.toList))
      (lowerStmt .full node) (lowerStmt vocabulary node)
  | .expression loc value => by
    simp only [lowerStmt, require_full, pure_bind]
    refine .require _ (.part (filters_expr .plain value) fun _ => .pure ?_)
    simp [Expansion.toList, Target.stmtNodes, Target.Stmt.nodes, Target.Node.kind?, Target.Stmt.kind]
  | .block loc body => by
    simp only [lowerStmt, buildStmt_full, pure_bind]
    refine .part (filters_block loc body) fun _ => .buildStmt _ (.pure ?_)
    simp [Expansion.toList, Target.stmtNodes, Target.Stmt.nodes, Target.Node.kind?]
  | .empty loc => by
    simp only [lowerStmt, require_full, pure_bind]
    refine .require _ (.pure ?_)
    simp [Expansion.toList, Target.stmtNodes, Target.Stmt.nodes, Target.Node.kind?, Target.Stmt.kind]
  | .ifElse loc test consequent none => by
    simp only [lowerStmt, require_full, pure_bind]
    refine .require _ (.part (filters_expr .plain test) fun _ => ?_)
    refine .part (.single _ (filters_stmt consequent)) fun _ => .pure ?_
    simp [Expansion.toList, Target.stmtNodes, Target.Stmt.nodes, Target.Node.kind?, Target.Stmt.kind]
  | .ifElse loc test consequent (some alternate) => by
    simp only [lowerStmt, require_full, pure_bind]
    refine .require _ (.part (filters_expr .plain test) fun _ => ?_)
    refine .part (.single _ (filters_stmt consequent)) fun _ => ?_
    refine .part (.single _ (filters_stmt alternate)) fun _ => .pure ?_
    simp [Expansion.toList, Target.stmtNodes, Target.Stmt.nodes, Target.Node.kind?, Target.Stmt.kind]
  | .whileLoop loc test body => by
    simp only [lowerStmt, require_full, pure_bind]
    refine .require _ (.part (filters_expr .plain test) fun _ => ?_)
    refine .part (.single _ (filters_stmt body)) fun _ => .pure ?_
    simp [Expansion.toList, Target.stmtNodes, Target.Stmt.nodes, Target.Node.kind?, Target.Stmt.kind]
  | .doWhile loc body test => by
    simp only [lowerStmt, require_full, pure_bind]
    refine .require _ (.part (.single _ (filters_stmt body)) fun _ => ?_)
    refine .part (filters_expr .plain test) fun _ => .pure ?_
    simp [Expansion.toList, Target.stmtNodes, Target.Stmt.nodes, Target.Node.kind?, Target.Stmt.kind]
  | .forIn loc left right body => by
    simp only [lowerStmt, require_full, pure_bind]
    refine .require _ (.part (filters_expr .plain left) fun _ => ?_)
    refine .part (filters_expr .plain right) fun _ => ?_
    refine .part (.single _ (filters_stmt body)) fun _ => .pure ?_
    simp [Expansion.toList, Target.stmtNodes, Target.Stmt.nodes, Target.Node.kind?, Target.Stmt.kind]
  | .forOf loc left right body => by
    simp only [lowerStmt, require_full, pure_bind]
    refine .require _ (.part (filters_expr .plain left) fun _ => ?_)
    refine .part (filters_expr .plain right) fun _ => ?_
    refine .part (.single _ (filters_stmt body)) fun _ => .pure ?_
    simp [Expansion.toList, Target.stmtNodes, Target.Stmt.nodes, Target.Node.kind?, Target.Stmt.kind]
  | .returning loc argument => by
    simp only [lowerStmt, require_full, pure_bind]
    refine .require _ (.part (filters_option argument) fun _ => .pure ?_)
    simp [Expansion.toList, Target.stmtNodes, Target.Stmt.nodes, Target.Node.kind?, Target.Stmt.kind]
  | .breaking loc => by
    simp only [lowerStmt, require_full, pure_bind]
    refine .require _ (.pure ?_)
    simp [Expansion.toList, Target.stmtNodes, Target.Stmt.nodes, Target.Node.kind?, Target.Stmt.kind]
  | .continuing loc => by
    simp only [lowerStmt, require_full, pure_bind]
    refine .require _ (.pure ?_)
    simp [Expansion.toList, Target.stmtNodes, Target.Stmt.nodes, Target.Node.kind?, Target.Stmt.kind]
  | .throwing loc argument => by
    simp only [lowerStmt, require_full, pure_bind]
    refine .require _ (.part (filters_expr .plain argument) fun _ => .pure ?_)
    simp [Expansion.toList, Target.stmtNodes, Target.Stmt.nodes, Target.Node.kind?, Target.Stmt.kind]
  | .trying loc block handler finalizer => by
    simp only [lowerStmt, require_full, pure_bind]
    refine .require _ (.part (filters_block loc block) fun _ => ?_)
    refine .part (filters_handler loc handler) fun handler => ?_
    refine .part (filters_finalizer loc finalizer) fun finalizer => .pure ?_
    cases handler <;> cases finalizer <;>
      simp [Expansion.toList, Target.stmtNodes, Target.Stmt.nodes, Target.Node.kind?,
        Target.Stmt.kind]
  | .declaring loc [] => by
    simp only [lowerStmt]
    exact .fail (by simp)
  | .declaring loc (first :: declarators) => by
    simp only [lowerStmt]
    refine .part (filters_runs loc first.constant [] (first :: declarators)) fun _ => .pure ?_
    intro kind
    rw [Expansion.toList_normalize]
    exact Iff.rfl
  | .function loc id definition => by
    simp only [lowerStmt, declarator, require_full, buildStmt_full, pure_bind, bind_assoc]
    refine .part (filters_expr .declared id) fun _ => ?_
    refine .part (filters_function .plain (definition.loc.or loc) definition) fun _ => ?_
    refine .require _ (.buildStmt _ (.pure ?_))
    simp [Expansion.toList, Target.stmtNodes, Target.Stmt.nodes, Target.declaratorNodes,
      Target.Declarator.nodes, Target.optionNodes, Target.Node.kind?]
  | .assignment loc op left right => by
    simp only [lowerStmt, buildExpr_full, buildStmt_full, pure_bind]
    refine .part (filters_expr .assigned left) fun _ => .part (filters_expr .plain right) fun _ => ?_
    refine .buildExpr _ (.buildStmt _ (.pure ?_))
    simp [Expansion.toList, Target.stmtNodes, Target.Stmt.nodes, Target.Expr.nodes, Target.Node.kind?]
  | .cascade loc root steps degrees => by
    simp only [lowerStmt, assignStmt_full, pure_bind]
    split
    · exact .fail (by simp)
    refine .skip (.fresh rootStem) fun name => .part (filters_expr .plain root) fun root => ?_
    refine .assignStmt loc name root ?_
    refine .part ((filters_steps loc degrees steps).withFrame (.cascade name)) fun _ => .pure ?_
    simp [Expansion.toList, Target.stmtNodes, Target.Stmt.nodes, Target.Expr.nodes, Target.Node.kind?,
      Target.Stmt.kind, Target.Expr.kind]
  | .yielding loc argument => by
    simp only [lowerStmt, buildExpr_full, buildStmt_full, pure_bind]
    refine .part (filters_option argument) fun _ => .buildExpr _ (.buildStmt _ (.pure ?_))
    simp [Expansion.toList, Target.stmtNodes, Target.Stmt.nodes, Target.Expr.nodes, Target.Node.kind?]

theorem filters_stmts : ∀ nodes : List Script.Stmt,
    Filters vocabulary [] (fun lists => Target.kinds (Target.stmtNodes (hoist nodes lists)))
      (lowerStmts .full nodes) (lowerStmts vocabulary nodes)
  | [] => .pure (by simp [hoist, Target.stmtNodes])
  | node :: nodes => by
    simp only [lowerStmts]
    refine .part (filters_stmt node) fun expansion => .part (filters_stmts nodes) fun lists => ?_
    exact .pure (mem_kinds_hoist_cons node nodes expansion.toList lists)

theorem filters_steps (loc : Option Location) (degrees : List Nat) : ∀ nodes : List Script.Stmt,
    Filters vocabulary [] (fun lowered => Target.kinds (Target.stmtNodes lowered))
      (lowerSteps .full true loc degrees nodes) (lowerSteps vocabulary true loc degrees nodes)
  | [] => .pure (by simp [Target.stmtNodes])
  | node :: nodes => by
    cases degrees with
    | nil => exact .pure (by simp [Target.stmtNodes])
    | cons degree degrees =>
      simp only [lowerSteps_cons]
      refine .skip .receivers fun held => ?_
      split
      · exact .fail (by simp)
      refine .skip (.setReceivers _) fun _ => ?_
      split
      · refine .part (filters_stmt node) fun _ => .part (filters_steps loc degrees nodes) fun _ => ?_
        exact .pure (by simp)
      split
      · exact .fail (by simp)
      refine .part (filters_stored loc _ node) fun _ => ?_
      refine .part (filters_steps loc degrees nodes) fun _ => .pure ?_
      simp [Target.stmtNodes]

theorem filters_stored (loc : Option Location) (held : List String) : ∀ node : Script.Stmt,
    Filters vocabulary [] (fun lowered => Target.kinds lowered.nodes)
      (lowerStored .full loc held node) (lowerStored vocabulary loc held node)
  | .expression own value => by
    simp only [lowerStored, assignStmt_full, pure_bind]
    refine .skip (.fresh cascadeStem) fun name => .part (filters_expr .plain value) fun value => ?_
    refine .assignStmt loc name value (.skip (.setReceivers _) fun _ => .pure ?_)
    simp [Target.Stmt.nodes, Target.Expr.nodes, Target.Node.kind?, Target.Stmt.kind, Target.Expr.kind]
  | .block .. | .empty _ | .ifElse .. | .whileLoop .. | .doWhile .. | .forIn .. | .forOf ..
  | .returning .. | .breaking _ | .continuing _ | .throwing .. | .trying .. | .declaring ..
  | .function .. | .assignment .. | .cascade .. | .yielding .. => .fail (by simp)

end

private theorem filters_program (program : Script.Program) :
    Filters vocabulary [] Target.Program.kinds (lowerProgram .full program)
      (lowerProgram vocabulary program) := by
  simp only [lowerProgram_eq, require_full, pure_bind]
  refine .part (.listBody _ _ (filters_stmts vocabulary program.body)) fun _ => ?_
  exact .require _ (.pure (by simp [Target.Program.kinds, Target.Program.nodes]))

end

/-- What comes of a run, if it leaves no frame. -/
def settled (run : Except Fault Target.Program × Pass) : Except Fault Target.Program := do
  let lowered ← run.1
  if run.2.frames.isEmpty then return lowered else .error (.frames .leftOver)

theorem settled_of_error (ran : run.1 = .error fault) : settled run = .error fault := by
  rw [settled, ran]
  rfl

private theorem settled_eq_ok (settles : settled run = .ok lowered) : run.1 = .ok lowered := by
  unfold settled at settles
  cases ran : run.1 with
  | error fault =>
    rw [ran] at settles
    cases settles
  | ok result =>
    rw [ran] at settles
    cases empty : run.2.frames.isEmpty
    · rw [empty] at settles
      cases settles
    · rw [empty] at settles
      exact settles

namespace Filtered

variable {vocabulary : Vocabulary} {checked : List NodeKind}
  {complete restricted : Except Fault Target.Program × Pass}

private theorem settled_supported (filtered : Filtered vocabulary checked complete restricted)
    (kind : String) : settled complete ≠ .error (.unsupportedNode kind) := by
  intro settles
  unfold settled at settles
  cases ran : complete.1 with
  | error fault =>
    rw [ran] at settles
    cases settles
    exact filtered.supported kind ran
  | ok result =>
    rw [ran] at settles
    cases empty : complete.2.frames.isEmpty
    · rw [empty] at settles
      cases settles
    · rw [empty] at settles
      cases settles

theorem settled_same (filtered : Filtered vocabulary checked complete restricted)
    (all : ∀ kind ∈ checked, vocabulary.contains kind.name = true) :
    settled restricted = settled complete := by
  obtain ⟨same, alike⟩ := filtered.same all
  rw [settled, settled, same, alike.frames]

/-- Either the vocabulary has all kinds that are checked, or it refuses one of them. -/
private theorem settled_cases (filtered : Filtered vocabulary checked complete restricted) :
    settled restricted = settled complete ∨ ∃ kind : NodeKind,
      vocabulary.contains kind.name = false ∧
        settled restricted = .error (.unsupportedNode kind.name) := by
  by_cases all : ∀ kind ∈ checked, vocabulary.contains kind.name = true
  · exact .inl (filtered.settled_same all)
  · obtain ⟨missing, lacking⟩ := not_forall.mp all
    obtain ⟨member, lacks⟩ := Classical.not_imp.mp lacking
    obtain ⟨kind, -, lacks, refused⟩ :=
      filtered.refused missing member (Bool.eq_false_of_not_eq_true lacks)
    exact .inr ⟨kind, lacks, settled_of_error refused⟩

end Filtered

namespace Engine

/-- What an engine makes of a program after it lowered others. -/
def outcome (engine : Engine) (earlier : List Script.Program) (program : Script.Program) :
    Except Fault Target.Program :=
  ((engine.after earlier).lower program).1

theorem outcome_eq_settled (engine : Engine) (earlier : List Script.Program)
    (program : Script.Program) :
    engine.outcome earlier program =
      settled (lowerProgram engine.vocabulary program ((engine.after earlier).start program)) := by
  unfold outcome lower
  rw [after_vocabulary]
  rcases lowerProgram engine.vocabulary program ((engine.after earlier).start program) with
    ⟨_ | _, later⟩ <;> rfl

/-- Whatever engines lowered before, they start a program alike. -/
private theorem start_alike (vocabulary : Vocabulary) (earlier others : List Script.Program)
    (program : Script.Program) :
    Alike ((({} : Engine).after earlier).start program)
      (((⟨vocabulary, {}⟩ : Engine).after others).start program) :=
  ⟨rfl, rfl, after_faithful .empty earlier, after_faithful .empty others⟩

/-- Restricting the vocabulary is exactly a filter. If the full vocabulary gives a program, then one
that has all kinds in it gives the same, and one that lacks some refuses a kind that is in it and that
it lacks. If the full vocabulary gives a fault, which is never a refusal, then every vocabulary gives
this fault or refuses a kind that it lacks. -/
theorem outcome_filtered (vocabulary : Vocabulary) (earlier others : List Script.Program)
    (program : Script.Program) :
    (∀ lowered, ({} : Engine).outcome earlier program = .ok lowered →
      ((∀ kind ∈ lowered.kinds, vocabulary.contains kind.name = true) →
        (⟨vocabulary, {}⟩ : Engine).outcome others program = .ok lowered) ∧
      ((∃ kind ∈ lowered.kinds, vocabulary.contains kind.name = false) →
        ∃ kind ∈ lowered.kinds, vocabulary.contains kind.name = false ∧
          (⟨vocabulary, {}⟩ : Engine).outcome others program =
            .error (.unsupportedNode kind.name))) ∧
    ∀ fault, ({} : Engine).outcome earlier program = .error fault →
      (∀ kind, fault ≠ .unsupportedNode kind) ∧
      ((⟨vocabulary, {}⟩ : Engine).outcome others program = .error fault ∨
        ∃ kind : NodeKind, vocabulary.contains kind.name = false ∧
          (⟨vocabulary, {}⟩ : Engine).outcome others program =
            .error (.unsupportedNode kind.name)) := by
  obtain ⟨checked, filtered, seen⟩ :=
    filters_program vocabulary program _ _ (start_alike vocabulary earlier others program)
  rw [outcome_eq_settled, outcome_eq_settled]
  constructor
  · intro lowered settles
    have kinds : ∀ kind, kind ∈ lowered.kinds ↔ kind ∈ checked := by
      simpa using seen lowered (settled_eq_ok settles)
    constructor
    · intro all
      rw [← settles]
      exact filtered.settled_same fun kind member => all kind ((kinds kind).mpr member)
    · rintro ⟨missing, member, lacks⟩
      obtain ⟨kind, member, lacks, refused⟩ :=
        filtered.refused missing ((kinds missing).mp member) lacks
      exact ⟨kind, (kinds kind).mpr member, lacks, settled_of_error refused⟩
  · intro fault settles
    constructor
    · rintro kind rfl
      exact filtered.settled_supported kind settles
    · rw [← settles]
      exact filtered.settled_cases

/-- A function without statements. Nothing in it is a block but its body. -/
def emptyFunction : Script.Program :=
  ⟨none, [.expression none (.function none (.mk none [] (.mk none []) none false false))]⟩

def loweredFunction : Target.Program :=
  ⟨none, [.expression none (.arrow none (.mk none none [] (.mk none []) false false))], .script⟩

/-- A target without blocks has no functions either. -/
theorem outcome_filtered_emptyFunction :
    ({} : Engine).outcome [] emptyFunction = .ok loweredFunction ∧
      .blockStatement ∈ loweredFunction.kinds ∧
      ∃ kind ∈ loweredFunction.kinds, (Vocabulary.full.without "BlockStatement").contains kind.name =
          false ∧
        (⟨Vocabulary.full.without "BlockStatement", {}⟩ : Engine).outcome [] emptyFunction =
          .error (.unsupportedNode kind.name) := by
  have lowers : ({} : Engine).outcome [] emptyFunction = .ok loweredFunction := by
    with_unfolding_all rfl
  have block : NodeKind.blockStatement ∈ loweredFunction.kinds := by decide
  have lacks : (Vocabulary.full.without "BlockStatement").contains
      NodeKind.blockStatement.name = false := by decide
  obtain ⟨filters, -⟩ :=
    outcome_filtered (Vocabulary.full.without "BlockStatement") [] [] emptyFunction
  exact ⟨lowers, block, (filters loweredFunction lowers).2 ⟨_, block, lacks⟩⟩

end Engine

end Offside.Lowering
