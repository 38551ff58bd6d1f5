import Offside.Proofs.LeafSteps

/-! Lowering traces the leaves of every node. Whatever nodes the vocabulary has, if lowering succeeds
then a derivation leads from the leaves of the script to those of the target. -/

namespace Offside.Lowering

section

variable (vocabulary : Target.Vocabulary)

private theorem completes_binary (role : Role) (loc : Option Location) (op : Script.BinaryOp)
    (left right : Target.Expr) :
    Completes (if op = .floorDiv then [.floorDivision] else [])
      (Target.leaves (left.nodes .plain) ++ Target.leaves (right.nodes .plain))
      (fun lowered => Target.leaves (lowered.nodes role))
      (match op.target? with
        | some op => buildExpr vocabulary (.binary loc op left right)
        | none => instantiate vocabulary floorDivision [("left", left), ("right", right)] loc) := by
  cases known : op.target? with
  | none =>
    rw [if_pos (op.target?_eq_none_iff.mp known)]
    exact .floorDivision vocabulary role left right loc
  | some target =>
    have other : op ≠ .floorDiv := by
      rintro rfl
      cases known
    rw [if_neg other]
    exact .silent (Silent.buildExpr vocabulary _) (by
      simp [Target.Expr.nodes, Target.leaves_cons, Target.Node.leaf?])

mutual

theorem appends_expr (place : Script.Place) (available : List String) (role : Role) :
    ∀ node : Script.Expr, Appends place available (Script.leaves (node.nodes place role)) []
      (fun lowered => Target.leaves (lowered.nodes role)) (lowerExpr vocabulary node)
  | .identifier loc name => by
    rw [lowerExpr]
    exact .skip (Silent.require vocabulary _) fun _ _ =>
      .ends (Silent.pure rfl) (fun _ same => same ▸ rfl) fun _ => .name
  | .literal loc value => by
    rw [lowerExpr]
    exact .skip (Silent.require vocabulary _) fun _ _ =>
      .ends (Silent.pure rfl) (fun _ same => same ▸ rfl) fun _ => .literal
  | .thisObject loc => by
    rw [lowerExpr]
    exact .skip (Silent.require vocabulary _) fun _ _ => .pure rfl
  | .virtualObject loc => by
    rw [lowerExpr]
    refine Appends.surroundings fun frames receiver _ => ?_
    cases found : innermostReceiver frames with
    | none => exact .fail _
    | some x =>
      exact .ends (Silent.identifier vocabulary loc x) (fun _ same => same ▸ rfl) fun _ =>
        .receiver (receiver x found)
  | .array _ items => by
    rw [lowerExpr]
    refine Appends.of_eq (.skip (Silent.require vocabulary _) fun _ _ =>
      .bind (appends_exprs place available items) fun _ => .pure ?_) ?_
    · simp [Target.Expr.nodes, Target.leaves_cons, Target.Node.leaf?]
    · simp [Script.Expr.nodes, Script.leaves_cons, Script.Node.leaf?]
  | .sequence _ items => by
    rw [lowerExpr]
    refine Appends.of_eq (.skip (Silent.require vocabulary _) fun _ _ =>
      .bind (appends_exprs place available items) fun _ => .pure ?_) ?_
    · simp [Target.Expr.nodes, Target.leaves_cons, Target.Node.leaf?]
    · simp [Script.Expr.nodes, Script.leaves_cons, Script.Node.leaf?]
  | .object _ properties => by
    rw [lowerExpr]
    refine Appends.of_eq (.skip (Silent.require vocabulary _) fun _ _ =>
      .bind (appends_properties place available properties) fun _ => .pure ?_) ?_
    · simp [Target.Expr.nodes, Target.leaves_cons, Target.Node.leaf?]
    · simp [Script.Expr.nodes, Script.leaves_cons, Script.Node.leaf?]
  | .function loc definition => by
    rw [lowerExpr]
    exact (appends_function place available role loc definition).of_eq (by
      simp [Script.Expr.nodes, Script.leaves_cons, Script.Node.leaf?])
  | .unary _ _ argument => by
    rw [lowerExpr]
    refine Appends.of_eq (.skip (Silent.require vocabulary _) fun _ _ =>
      .bind (appends_expr place available .plain argument) fun _ => .pure ?_) ?_
    · simp [Target.Expr.nodes, Target.leaves_cons, Target.Node.leaf?]
    · simp [Script.Expr.nodes, Script.leaves_cons, Script.Node.leaf?]
  | .awaiting _ argument => by
    rw [lowerExpr]
    refine Appends.of_eq (.skip (Silent.require vocabulary _) fun _ _ =>
      .bind (appends_expr place available .plain argument) fun _ => .pure ?_) ?_
    · simp [Target.Expr.nodes, Target.leaves_cons, Target.Node.leaf?]
    · simp [Script.Expr.nodes, Script.leaves_cons, Script.Node.leaf?]
  | .binary loc op left right => by
    rw [lowerExpr]
    refine Appends.of_eq (.complete (appends_expr place available .plain left)
      (appends_expr place available .plain right) (completes_binary vocabulary role loc op)) ?_
    by_cases floor : op = .floorDiv
    · simp [floor, Script.Expr.nodes, Script.leaves_cons, Script.Node.leaf?]
    · simp [floor, Script.Expr.nodes, Script.leaves_cons, Script.Node.leaf?]
  | .logical _ _ left right => by
    rw [lowerExpr]
    refine Appends.of_eq (.skip (Silent.require vocabulary _) fun _ _ =>
      .bind (appends_expr place available .plain left) fun _ =>
      .bind (appends_expr place available .plain right) fun _ => .pure ?_) ?_
    · simp [Target.Expr.nodes, Target.leaves_cons, Target.Node.leaf?]
    · simp [Script.Expr.nodes, Script.leaves_cons, Script.Node.leaf?]
  | .member _ left right _ => by
    rw [lowerExpr]
    refine Appends.of_eq (.skip (Silent.require vocabulary _) fun _ _ =>
      .bind (appends_expr place available .plain left) fun _ =>
      .bind (appends_expr place available .plain right) fun _ => .pure ?_) ?_
    · simp [Target.Expr.nodes, Target.leaves_cons, Target.Node.leaf?]
    · simp [Script.Expr.nodes, Script.leaves_cons, Script.Node.leaf?]
  | .assignment _ _ left right => by
    rw [lowerExpr]
    refine Appends.of_eq (.skip (Silent.require vocabulary _) fun _ _ =>
      .bind (appends_expr place available .assigned left) fun _ =>
      .bind (appends_expr place available .plain right) fun _ => .pure ?_) ?_
    · simp [Target.Expr.nodes, Target.leaves_cons, Target.Node.leaf?]
    · simp [Script.Expr.nodes, Script.leaves_cons, Script.Node.leaf?]
  | .conditional _ test consequent alternate => by
    rw [lowerExpr]
    refine Appends.of_eq (.skip (Silent.require vocabulary _) fun _ _ =>
      .bind (appends_expr place available .plain test) fun _ =>
      .bind (appends_expr place available .plain consequent) fun _ =>
      .bind (appends_expr place available .plain alternate) fun _ => .pure ?_) ?_
    · simp [Target.Expr.nodes, Target.leaves_cons, Target.Node.leaf?]
    · simp [Script.Expr.nodes, Script.leaves_cons, Script.Node.leaf?]
  | .call _ callee arguments => by
    rw [lowerExpr]
    refine Appends.of_eq (.skip (Silent.require vocabulary _) fun _ _ =>
      .bind (appends_expr place available .plain callee) fun _ =>
      .bind (appends_exprs place available arguments) fun _ => .pure ?_) ?_
    · simp [Target.Expr.nodes, Target.leaves_cons, Target.Node.leaf?]
    · simp [Script.Expr.nodes, Script.leaves_cons, Script.Node.leaf?]
  | .construct _ callee arguments => by
    rw [lowerExpr]
    refine Appends.of_eq (.skip (Silent.require vocabulary _) fun _ _ =>
      .bind (appends_expr place available .plain callee) fun _ =>
      .bind (appends_exprs place available arguments) fun _ => .pure ?_) ?_
    · simp [Target.Expr.nodes, Target.leaves_cons, Target.Node.leaf?]
    · simp [Script.Expr.nodes, Script.leaves_cons, Script.Node.leaf?]
  | .yielding _ argument _ => by
    rw [lowerExpr]
    refine Appends.of_eq (.skip (Silent.require vocabulary _) fun _ _ =>
      .bind (appends_option place available argument) fun _ => .pure ?_) ?_
    · simp [Target.Expr.nodes, Target.leaves_cons, Target.Node.leaf?]
    · simp [Script.Expr.nodes, Script.leaves_cons, Script.Node.leaf?]
  | .compareChain loc operands [] => by
    rw [lowerExpr_compareChain_fail vocabulary loc (.inl rfl)]
    exact .fail _
  | .compareChain loc [] (op :: operators) => by
    rw [lowerExpr_compareChain_fail vocabulary loc (.inr (by simp))]
    exact .fail _
  | .compareChain loc (first :: operands) (op :: operators) => by
    by_cases fit : operands.length = operators.length + 1
    · rw [lowerExpr_compareChain_cons vocabulary loc first op fit]
      refine Appends.of_eq (.skip (Silent.comparison op) fun op _ =>
        .bind (appends_expr place available .plain first) fun left =>
          appends_chain place available role loc op left none operators operands fit) ?_
      simp [Script.Expr.nodes, Script.exprNodes, Script.leaves_cons, Script.Node.leaf?]
    · rw [lowerExpr_compareChain_fail vocabulary loc (.inr (by simpa using fit))]
      exact .fail _

theorem appends_exprs (place : Script.Place) (available : List String) : ∀ nodes : List Script.Expr,
    Appends place available (Script.leaves (Script.exprNodes place nodes)) []
      (fun lowered => Target.leaves (Target.exprNodes lowered)) (lowerExprs vocabulary nodes)
  | [] => .pure rfl
  | expr :: exprs => by
    rw [lowerExprs]
    refine Appends.of_eq (.bind (appends_expr place available .plain expr) fun _ =>
      .bind (appends_exprs place available exprs) fun _ => .pure ?_) ?_
    · simp [Target.exprNodes]
    · simp [Script.exprNodes]

theorem appends_option (place : Script.Place) (available : List String) : ∀ node : Option Script.Expr,
    Appends place available (Script.leaves (Script.optionNodes place node)) []
      (fun lowered => Target.leaves (Target.optionNodes lowered)) (lowerOption vocabulary node)
  | none => .pure rfl
  | some expr => by
    rw [lowerOption]
    refine Appends.of_eq (.bind (appends_expr place available .plain expr) fun _ => .pure ?_) ?_
    · simp [Target.optionNodes]
    · simp [Script.optionNodes]

/-- The operands of a chain but for the first. A name is made up for each but the last. -/
theorem appends_chain (place : Script.Place) (available : List String) (role : Role) (loc : Option Location)
    (op : Target.BinaryOp) (left : Target.Expr) (chain : Option Target.Expr)
    (operators : List Script.BinaryOp) :
    ∀ operands : List Script.Expr, operands.length = operators.length + 1 →
      Appends place available (Script.leaves (Script.exprNodes place operands))
        (Target.leaves (Target.optionNodes chain) ++ Target.leaves (left.nodes .plain))
        (fun lowered => Target.leaves (lowered.nodes role))
        (lowerChain vocabulary loc op left chain operators operands)
  | [], fit => by simp at fit
  | operand :: operands, fit => by
    cases operators with
    | nil =>
      have last : operands = [] := by simpa using fit
      rw [lowerChain_last]
      refine Appends.of_eq (.bind (appends_expr place available .plain operand) fun right =>
        .ends (Silent.chainLink vocabulary loc op left right chain) (fun link seen => ?_)
          fun _ => .nil) ?_
      · rw [seen role, List.append_nil]
      · simp [last, Script.exprNodes]
    | cons next operators =>
      have fit : operands.length = operators.length + 1 := by simpa using fit
      rw [lowerChain_cons]
      -- The name is available to the rest of the chain, which starts by using it.
      refine .mint (by simp [stems]) fun name => .of_eq
        (.bind (appends_expr place (name :: available) .plain operand) fun value =>
          .given (Silent.assign vocabulary loc name value) <|
            .skip (Silent.chainLink vocabulary loc op left _ chain) fun chain seen =>
              .skip (Silent.comparison next) fun op _ =>
                .given (Silent.identifier vocabulary loc name) <|
                  .reuse (List.mem_cons_self ..) <|
                    .start_eq (appends_chain place (name :: available) role loc op _ (some chain)
                      operators operands fit) ?_) ?_
      · simp [seen .plain, Target.optionNodes, Target.Expr.nodes, Target.leaves_cons,
          Target.Node.leaf?]
      · simp [Script.exprNodes]

theorem appends_property (place : Script.Place) (available : List String) :
    ∀ node : Script.Property,
    Appends place available (Script.leaves (node.nodes place)) []
      (fun lowered => Target.leaves lowered.nodes) (lowerProperty vocabulary node)
  | .keyValue _ key value => by
    rw [lowerProperty]
    refine Appends.of_eq (.bind (appends_expr place available .plain key) fun _ =>
      .bind (appends_expr place available .plain value) fun _ =>
        .skip (Silent.require vocabulary _) fun _ _ => .pure ?_) ?_
    · simp [Target.Property.nodes, Target.leaves_cons, Target.Node.leaf?]
    · simp [Script.Property.nodes, Script.leaves_cons, Script.Node.leaf?]
  | .method loc key definition => by
    rw [lowerProperty]
    refine Appends.of_eq (.bind (appends_expr place available .plain key) fun _ =>
      .bind (.withMethod (appends_function place.inDefinition available .plain _ definition)) fun _ =>
        .skip (Silent.require vocabulary _) fun _ _ => .pure ?_) ?_
    · simp [Target.Property.nodes, Target.leaves_cons, Target.Node.leaf?]
    · simp [Script.Property.nodes, Script.leaves_cons, Script.Node.leaf?]

theorem appends_properties (place : Script.Place) (available : List String) :
    ∀ nodes : List Script.Property,
    Appends place available (Script.leaves (Script.propertyNodes place nodes)) []
      (fun lowered => Target.leaves (Target.propertyNodes lowered))
      (lowerProperties vocabulary nodes)
  | [] => .pure rfl
  | property :: properties => by
    rw [lowerProperties]
    refine Appends.of_eq (.bind (appends_property place available property) fun _ =>
      .bind (appends_properties place available properties) fun _ => .pure ?_) ?_
    · simp [Target.propertyNodes]
    · simp [Script.propertyNodes]

theorem appends_function (place : Script.Place) (available : List String) (role : Role)
    (loc : Option Location) : ∀ node : Script.Function,
    Appends place available (Script.leaves (node.nodes place)) []
      (fun lowered => Target.leaves (lowered.nodes role)) (lowerFunction vocabulary loc node)
  | .mk own params body bound generator async => by
    rw [lowerFunction]
    refine Appends.surroundings fun frames _ inMethod => ?_
    rw [inMethod]
    dsimp only
    split
    · exact .fail _
    · refine Appends.of_eq (.complete (appends_exprs place available params)
        (appends_block place available loc body)
        (.functionExpr vocabulary role loc (own.or loc) _ generator async)) ?_
      simp only [Script.Function.nodes, Script.leaves_cons, Script.Node.leaf?, Script.leaves_append]
      split <;> simp_all

theorem appends_block (place : Script.Place) (available : List String) (loc : Option Location) :
    ∀ node : Script.Block, Appends place available (Script.leaves (node.nodes place)) []
      (fun lowered => Target.leaves lowered.nodes) (lowerBlock vocabulary loc node)
  | .mk own stmts => by
    intro pass block later holds ran
    rw [lowerBlock_eq] at ran
    obtain ⟨body, middle, ranBody, continued⟩ := Lower.bind_eq_ok.mp ran
    obtain ⟨_, last, required, same⟩ := Lower.bind_eq_ok.mp continued
    obtain ⟨rfl, -⟩ := Silent.require vocabulary _ _ _ _ required
    cases same
    have inside : Holds place.inBody available (pass.push .scope) :=
      ⟨holds.receiver, rfl, holds.faithful⟩
    obtain ⟨frames, faithful, lowers⟩ :=
      listBody_traced (appends_stmts place.inBody available stmts) inside ranBody
    refine ⟨Target.leaves (Target.Block.mk (own.or loc) body).nodes, [], rfl, by simp [frames],
      faithful, ?_⟩
    simpa [Script.Block.nodes, Script.leaves_cons, Script.Node.leaf?, Target.Block.nodes,
      Target.leaves_cons, Target.Node.leaf?] using lowers

theorem appends_stmts (place : Script.Place) (available : List String) : ∀ nodes : List Script.Stmt,
    Appends place available (Script.leaves (Script.stmtNodes place nodes)) []
      (fun lowered => Target.leaves (Target.stmtNodes (hoist nodes lowered)))
      (lowerStmts vocabulary nodes)
  | [] => .pure rfl
  | stmt :: stmts => by
    rw [lowerStmts]
    refine Appends.of_eq (.hoisted stmt stmts (appends_stmt place available stmt)
      (appends_stmts place available stmts)) ?_
    simp [Script.stmtNodes]

theorem appends_handler (place : Script.Place) (available : List String)
    (loc : Option Location) :
    ∀ node : Option Script.Catch,
      Appends place available (Script.leaves (node.elim [] (Script.Catch.nodes place))) []
        (fun lowered => Target.leaves (lowered.elim [] Target.Catch.nodes))
        (lowerHandler vocabulary loc node)
  | none => .pure rfl
  | some (.mk _ param body) => by
    rw [lowerHandler]
    refine Appends.of_eq (.bind (appends_option place available param) fun _ =>
      .bind (appends_block place available loc body) fun _ =>
        .skip (Silent.require vocabulary _) fun _ _ => .pure ?_) ?_
    · simp [Target.Catch.nodes, Target.leaves_cons, Target.Node.leaf?]
    · simp [Script.Catch.nodes, Script.leaves_cons, Script.Node.leaf?]

theorem appends_finalizer (place : Script.Place) (available : List String)
    (loc : Option Location) :
    ∀ node : Option Script.Block,
      Appends place available (Script.leaves (node.elim [] (Script.Block.nodes place))) []
        (fun lowered => Target.leaves (lowered.elim [] Target.Block.nodes))
        (lowerFinalizer vocabulary loc node)
  | none => .pure rfl
  | some block => by
    rw [lowerFinalizer]
    exact .map (appends_block place available loc block) [] fun _ => rfl

theorem appends_declarator (place : Script.Place) (available : List String) (loc : Option Location) :
    ∀ node : Script.Declarator, Appends place available (Script.leaves (node.nodes place)) []
      (fun lowered => Target.leaves lowered.nodes) (lowerDeclarator vocabulary loc node)
  | .mk own id init _ => by
    rw [lowerDeclarator]
    refine Appends.of_eq (.bind (appends_expr place available .declared id) fun _ =>
      .bind (appends_option place available init) fun _ =>
        .ends (Silent.declarator vocabulary _ _ _) (fun _ same => ?_) fun _ => .nil) ?_
    · simp [same, Target.Declarator.nodes, Target.leaves_cons, Target.Node.leaf?]
    · simp [Script.Declarator.nodes, Script.leaves_cons, Script.Node.leaf?]

/-- The run at hand comes before the declarators that are left. -/
theorem appends_runs (place : Script.Place) (available : List String) (loc : Option Location)
    (constant : Bool) (run : List Target.Declarator) : ∀ nodes : List Script.Declarator,
    Appends place available (Script.leaves (Script.declaratorNodes place nodes))
      (Target.leaves (Target.declaratorNodes run))
      (fun lowered => Target.leaves (Target.stmtNodes lowered))
      (lowerRuns vocabulary loc constant run nodes)
  | [] => by
    rw [lowerRuns, declaration]
    exact .given (Silent.buildStmt vocabulary _) <| .pure (by
      simp [Target.stmtNodes, Target.Stmt.nodes, Target.leaves_cons, Target.Node.leaf?])
  | next :: declarators => by
    rw [lowerRuns, declaration]
    split
    · refine Appends.of_eq (.bind (appends_declarator place available loc next) fun lowered =>
        .start_eq (appends_runs place available loc constant _ declarators) ?_) ?_
      · simp [Target.declaratorNodes]
      · simp [Script.declaratorNodes]
    · refine Appends.of_eq (.given (Silent.buildStmt vocabulary _) <|
        .bind (appends_declarator place available loc next) fun lowered =>
          .start_eq (.map (appends_runs place available loc next.constant [lowered] declarators)
            (Target.leaves (Target.declaratorNodes run)) fun rest => ?_) ?_) ?_
      · simp [Target.stmtNodes, Target.Stmt.nodes, Target.leaves_cons, Target.Node.leaf?]
      · simp [Target.declaratorNodes]
      · simp [Script.declaratorNodes]

theorem appends_stmt (place : Script.Place) (available : List String) : ∀ node : Script.Stmt,
    Appends place available (Script.leaves (node.nodes place false)) []
      (fun lowered => Target.leaves (Target.stmtNodes lowered.toList))
      (lowerStmt vocabulary node)
  | .empty _ => by
    rw [lowerStmt]
    refine Appends.of_eq (.skip (Silent.require vocabulary _) fun _ _ =>
      .pure ?_) ?_
    · simp [Expansion.toList, Target.stmtNodes, Target.Stmt.nodes, Target.leaves_cons,
        Target.Node.leaf?]
    · simp [Script.Stmt.nodes, Script.leaves_cons, Script.Node.leaf?]
  | .breaking _ => by
    rw [lowerStmt]
    refine Appends.of_eq (.skip (Silent.require vocabulary _) fun _ _ =>
      .pure ?_) ?_
    · simp [Expansion.toList, Target.stmtNodes, Target.Stmt.nodes, Target.leaves_cons,
        Target.Node.leaf?]
    · simp [Script.Stmt.nodes, Script.leaves_cons, Script.Node.leaf?]
  | .continuing _ => by
    rw [lowerStmt]
    refine Appends.of_eq (.skip (Silent.require vocabulary _) fun _ _ =>
      .pure ?_) ?_
    · simp [Expansion.toList, Target.stmtNodes, Target.Stmt.nodes, Target.leaves_cons,
        Target.Node.leaf?]
    · simp [Script.Stmt.nodes, Script.leaves_cons, Script.Node.leaf?]
  | .expression _ value => by
    rw [lowerStmt]
    refine Appends.of_eq (.skip (Silent.require vocabulary _) fun _ _ =>
      .bind (appends_expr place available .plain value) fun _ =>
      .pure ?_) ?_
    · simp [Expansion.toList, Target.stmtNodes, Target.Stmt.nodes, Target.leaves_cons,
        Target.Node.leaf?]
    · simp [Script.Stmt.nodes, Script.leaves_cons, Script.Node.leaf?]
  | .throwing _ value => by
    rw [lowerStmt]
    refine Appends.of_eq (.skip (Silent.require vocabulary _) fun _ _ =>
      .bind (appends_expr place available .plain value) fun _ =>
      .pure ?_) ?_
    · simp [Expansion.toList, Target.stmtNodes, Target.Stmt.nodes, Target.leaves_cons,
        Target.Node.leaf?]
    · simp [Script.Stmt.nodes, Script.leaves_cons, Script.Node.leaf?]
  | .block loc body => by
    rw [lowerStmt]
    refine Appends.of_eq (.bind (appends_block place available loc body) fun _ =>
      .given (Silent.buildStmt vocabulary _) <|
      .pure ?_) ?_
    · simp [Expansion.toList, Target.stmtNodes, Target.Stmt.nodes, Target.leaves_cons,
        Target.Node.leaf?]
    · simp [Script.Stmt.nodes, Script.leaves_cons, Script.Node.leaf?]
  | .ifElse _ test consequent none => by
    rw [lowerStmt]
    refine Appends.of_eq (.skip (Silent.require vocabulary _) fun _ _ =>
      .bind (appends_expr place available .plain test) fun _ =>
      .bind (.single _ (appends_stmt place available consequent)) fun _ =>
      .pure ?_) ?_
    · simp [Expansion.toList, Target.stmtNodes, Target.Stmt.nodes, Target.leaves_cons,
        Target.Node.leaf?]
    · simp [Script.Stmt.nodes, Script.leaves_cons, Script.Node.leaf?]
  | .ifElse _ test consequent (some alternate) => by
    rw [lowerStmt]
    refine Appends.of_eq (.skip (Silent.require vocabulary _) fun _ _ =>
      .bind (appends_expr place available .plain test) fun _ =>
      .bind (.single _ (appends_stmt place available consequent)) fun _ =>
      .bind (.single _ (appends_stmt place available alternate)) fun _ =>
      .pure ?_) ?_
    · simp [Expansion.toList, Target.stmtNodes, Target.Stmt.nodes, Target.leaves_cons,
        Target.Node.leaf?]
    · simp [Script.Stmt.nodes, Script.leaves_cons, Script.Node.leaf?]
  | .whileLoop _ test body => by
    rw [lowerStmt]
    refine Appends.of_eq (.skip (Silent.require vocabulary _) fun _ _ =>
      .bind (appends_expr place available .plain test) fun _ =>
      .bind (.single _ (appends_stmt place available body)) fun _ =>
      .pure ?_) ?_
    · simp [Expansion.toList, Target.stmtNodes, Target.Stmt.nodes, Target.leaves_cons,
        Target.Node.leaf?]
    · simp [Script.Stmt.nodes, Script.leaves_cons, Script.Node.leaf?]
  | .doWhile _ body test => by
    rw [lowerStmt]
    -- The nodes of a script list the test first, but the body is lowered first.
    refine Appends.perm (.skip (Silent.require vocabulary _) fun _ _ =>
      .bind (.single _ (appends_stmt place available body)) fun _ =>
      .bind (appends_expr place available .plain test) fun _ =>
      .pure ?_) ?_
    · simp [Expansion.toList, Target.stmtNodes, Target.Stmt.nodes, Target.leaves_cons,
        Target.Node.leaf?]
    · simpa [Script.Stmt.nodes, Script.leaves_cons, Script.Node.leaf?] using List.perm_append_comm
  | .forIn _ left right body => by
    rw [lowerStmt]
    refine Appends.of_eq (.skip (Silent.require vocabulary _) fun _ _ =>
      .bind (appends_expr place available .plain left) fun _ =>
      .bind (appends_expr place available .plain right) fun _ =>
      .bind (.single _ (appends_stmt place available body)) fun _ =>
      .pure ?_) ?_
    · simp [Expansion.toList, Target.stmtNodes, Target.Stmt.nodes, Target.leaves_cons,
        Target.Node.leaf?]
    · simp [Script.Stmt.nodes, Script.leaves_cons, Script.Node.leaf?]
  | .forOf _ left right body => by
    rw [lowerStmt]
    refine Appends.of_eq (.skip (Silent.require vocabulary _) fun _ _ =>
      .bind (appends_expr place available .plain left) fun _ =>
      .bind (appends_expr place available .plain right) fun _ =>
      .bind (.single _ (appends_stmt place available body)) fun _ =>
      .pure ?_) ?_
    · simp [Expansion.toList, Target.stmtNodes, Target.Stmt.nodes, Target.leaves_cons,
        Target.Node.leaf?]
    · simp [Script.Stmt.nodes, Script.leaves_cons, Script.Node.leaf?]
  | .returning _ argument => by
    rw [lowerStmt]
    refine Appends.of_eq (.skip (Silent.require vocabulary _) fun _ _ =>
      .bind (appends_option place available argument) fun _ =>
      .pure ?_) ?_
    · simp [Expansion.toList, Target.stmtNodes, Target.Stmt.nodes, Target.leaves_cons,
        Target.Node.leaf?]
    · simp [Script.Stmt.nodes, Script.leaves_cons, Script.Node.leaf?]
  | .yielding _ argument => by
    rw [lowerStmt]
    refine Appends.of_eq (.bind (appends_option place available argument) fun _ =>
      .given (Silent.buildExpr vocabulary _) <| .given (Silent.buildStmt vocabulary _) <|
      .pure ?_) ?_
    · simp [Expansion.toList, Target.stmtNodes, Target.Stmt.nodes, Target.Expr.nodes,
        Target.leaves_cons, Target.Node.leaf?]
    · simp [Script.Stmt.nodes, Script.leaves_cons, Script.Node.leaf?]
  | .assignment _ _ left right => by
    rw [lowerStmt]
    refine Appends.of_eq (.bind (appends_expr place available .assigned left) fun _ =>
      .bind (appends_expr place available .plain right) fun _ =>
      .given (Silent.buildExpr vocabulary _) <| .given (Silent.buildStmt vocabulary _) <|
      .pure ?_) ?_
    · simp [Expansion.toList, Target.stmtNodes, Target.Stmt.nodes, Target.Expr.nodes,
        Target.leaves_cons, Target.Node.leaf?]
    · simp [Script.Stmt.nodes, Script.leaves_cons, Script.Node.leaf?]
  | .function loc id definition => by
    rw [lowerStmt]
    refine Appends.of_eq (.bind (appends_expr place available .declared id) fun _ =>
      .bind (appends_function place available .plain _ definition) fun _ =>
      .given (Silent.declarator vocabulary loc _ _) <| .given (Silent.buildStmt vocabulary _) <|
      .pure ?_) ?_
    · simp [Expansion.toList, Target.stmtNodes, Target.Stmt.nodes, Target.declaratorNodes,
        Target.Declarator.nodes, Target.optionNodes, Target.leaves_cons, Target.Node.leaf?]
    · simp [Script.Stmt.nodes, Script.leaves_cons, Script.Node.leaf?]
  | .declaring loc [] => .fail _
  | .declaring loc (first :: declarators) => by
    rw [lowerStmt]
    refine Appends.of_eq (.start_eq (.map
      (appends_runs place available loc first.constant [] (first :: declarators)) [] fun _ => ?_) ?_) ?_
    · rw [Expansion.toList_normalize]
      rfl
    · simp [Target.declaratorNodes]
    · simp [Script.Stmt.nodes, Script.leaves_cons, Script.Node.leaf?]
  | .trying loc block handler finalizer => by
    rw [lowerStmt]
    refine Appends.of_eq (.skip (Silent.require vocabulary _) fun _ _ =>
      .bind (appends_block place available loc block) fun _ =>
      .bind (appends_handler place available loc handler) fun _ =>
      .bind (appends_finalizer place available loc finalizer) fun _ =>
      .pure ?_) ?_
    · simp [Expansion.toList, Target.stmtNodes, Target.leaves_trying]
    · simp [Script.leaves_trying]
  | .cascade loc root steps degrees => by
    rw [lowerStmt]
    split
    · exact .fail _
    next count =>
      have count : steps.length = degrees.length := by simpa using count
      refine Appends.of_eq (.mint (by simp [stems]) fun name =>
        .bind (appends_expr place (name :: available) .plain root) fun value =>
        .given (Silent.assignStmt vocabulary loc name value) <|
        .bind (.withCascade (appends_steps (name :: available) loc degrees steps count.symm)) fun _ =>
        .pure ?_) ?_
      · simp [Expansion.toList, Target.stmtNodes, Target.Stmt.nodes, Target.Expr.nodes,
          Target.leaves_cons, Target.Node.leaf?]
      · simp [Script.Stmt.nodes, Script.leaves_cons, Script.Node.leaf?]

theorem appends_steps (available : List String) (loc : Option Location) (degrees : List Nat) :
    ∀ nodes : List Script.Stmt, degrees.length = nodes.length →
      AppendsInCascade available (Script.leaves (Script.stmtNodes .step nodes)) []
        (fun lowered => Target.leaves (Target.stmtNodes lowered))
        (lowerSteps vocabulary true loc degrees nodes)
  | [], _ => by
    rw [lowerSteps_nil]
    exact .pure rfl
  | step :: steps, count => by
    cases degrees with
    | nil => simp at count
    | cons degree degrees =>
      have count : degrees.length = steps.length := by simpa using count
      rw [lowerSteps_cons]
      refine AppendsInCascade.receivers fun held known => ?_
      have taken : held.take degree ⊆ available := fun x member => known (List.mem_of_mem_take member)
      split
      · exact .fail _
      · refine .setReceivers taken ?_
        split
        · refine AppendsInCascade.of_eq (.bind (appends_stmt .step available step) fun lowered =>
            .map (appends_steps available loc degrees steps count) fun rest => ?_) ?_
          · simp
          · simp [Script.stmtNodes]
        · split
          · exact .fail _
          · refine AppendsInCascade.of_eq (appends_stored available loc taken step fun name stored =>
              .map (appends_steps (name :: available) loc degrees steps count) fun rest => ?_) ?_
            · simp [Target.stmtNodes]
            · simp [Script.stmtNodes]

/-- A stored step is followed by steps to which its name is available. -/
theorem appends_stored (available : List String) (loc : Option Location)
    {held : List String}
    (known : held ⊆ available) {next : Target.Stmt → Lower (List Target.Stmt)} :
    ∀ node : Script.Stmt,
      (∀ name stored, AppendsInCascade (name :: available) more (Target.leaves stored.nodes)
        (fun lowered => Target.leaves (Target.stmtNodes lowered)) (next stored)) →
      AppendsInCascade available (Script.leaves (node.nodes .step false) ++ more) []
        (fun lowered => Target.leaves (Target.stmtNodes lowered))
        (lowerStored vocabulary loc held node >>= next)
  | node, rest => by
    -- The vocabulary may lack expression statements, so lowering the step as one tells nothing here.
    cases node with
    | expression own value =>
      simp only [lowerStored, bind_assoc, pure_bind]
      refine AppendsInCascade.of_eq (.mint (by simp [stems]) fun name =>
        .bind (appends_expr .step (name :: available) .plain value) fun value =>
        .given (Silent.assignStmt vocabulary loc name value) <|
        .setReceivers ?_ <| .start_eq (rest name _) ?_) ?_
      · have held : held ⊆ name :: available := List.subset_cons_of_subset name known
        simpa using held
      · simp [Target.Stmt.nodes, Target.Expr.nodes, Target.leaves_cons, Target.Node.leaf?]
      · simp [Script.Stmt.nodes, Script.leaves_cons, Script.Node.leaf?]
    | _ => exact .fail _

end

end

/-- If an engine gives a program, then a derivation leads to its leaves from those of the script, with no
names available at first and none left to declare at the end. -/
theorem Engine.lower_traced {engine : Engine} (faithful : engine.templates.Faithful)
    (ran : (engine.lower program).1 = .ok lowered) :
    Lowers [] (engine.start program).reserved (Script.leaves program.nodes)
      (.body lowered.body :: Target.leaves lowered.nodes) [] (engine.finish program).reserved := by
  obtain ⟨later, ran, -⟩ := Engine.lower_fst_eq_ok.mp ran
  have finished : engine.finish program = later := congrArg Prod.snd ran
  rw [lowerProgram_eq] at ran
  obtain ⟨body, middle, ranBody, continued⟩ := Lower.bind_eq_ok.mp ran
  obtain ⟨_, last, required, same⟩ := Lower.bind_eq_ok.mp continued
  obtain ⟨rfl, -⟩ := Silent.require _ _ _ _ _ required
  cases same
  have holds : Holds ⟨false, false⟩ [] ((engine.start program).push .scope) :=
    ⟨by simp [start, innermostReceiver], rfl, faithful⟩
  rw [finished]
  exact (listBody_traced (appends_stmts engine.vocabulary ⟨false, false⟩ [] program.body) holds
    ranBody).2.2

end Offside.Lowering
