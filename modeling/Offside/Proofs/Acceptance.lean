import Offside.Proofs.SuccessConditions

/-! Which programs the full vocabulary can lower: exactly the well-formed ones. Lowering a node decides
whether all its nodes are sound. -/

namespace Offside.Lowering

open Script (Sound)

mutual

theorem decides_expr (place : Script.Place) (role : Role) : ∀ node : Script.Expr,
    Decides place (Sound (node.nodes place role)) (lowerExpr .full node)
  | .identifier .. => by
    rw [lowerExpr, require_full, pure_bind]
    exact (Runs.pure _).congr
      (by simp [Script.Expr.nodes, Script.Node.Sound])
  | .literal .. => by
    rw [lowerExpr, require_full, pure_bind]
    exact (Runs.pure _).congr
      (by simp [Script.Expr.nodes, Script.Node.Sound])
  | .thisObject _ => by
    rw [lowerExpr, require_full, pure_bind]
    exact (Runs.pure _).congr
      (by simp [Script.Expr.nodes, Script.Node.Sound])
  | .virtualObject loc => by
    rw [lowerExpr]
    refine Decides.surroundings fun frames inStep _ => ?_
    cases found : innermostReceiver frames with
    | none =>
      have outside : place.inStep = false := by rw [← inStep, found]; rfl
      exact (Runs.fail _).congr (by simp [Script.Expr.nodes, Script.Node.Sound, outside])
    | some receiver =>
      have inside : place.inStep = true := by rw [← inStep, found]; rfl
      simp only [identifier_full]
      exact (Runs.pure _).congr (by simp [Script.Expr.nodes, Script.Node.Sound, inside])
  | .array _ items => by
    rw [lowerExpr, require_full, pure_bind]
    exact ((decides_exprs place items).map _).congr
      (by simp [Script.Expr.nodes, Script.Node.Sound])
  | .sequence _ items => by
    rw [lowerExpr, require_full, pure_bind]
    exact ((decides_exprs place items).map _).congr
      (by simp [Script.Expr.nodes, Script.Node.Sound])
  | .object _ properties => by
    rw [lowerExpr, require_full, pure_bind]
    exact ((decides_properties place properties).map _).congr
      (by simp [Script.Expr.nodes, Script.Node.Sound])
  | .function loc definition => by
    rw [lowerExpr]
    exact (decides_function place loc definition).congr (by simp [Script.Expr.nodes, Script.Node.Sound])
  | .unary _ _ argument => by
    rw [lowerExpr, require_full, pure_bind]
    exact ((decides_expr place .plain argument).map _).congr
      (by simp [Script.Expr.nodes, Script.Node.Sound])
  | .awaiting _ argument => by
    rw [lowerExpr, require_full, pure_bind]
    exact ((decides_expr place .plain argument).map _).congr
      (by simp [Script.Expr.nodes, Script.Node.Sound])
  | .binary loc op left right => by
    rw [lowerExpr]
    have operands := fun (next : Target.Expr → Target.Expr → Lower Target.Expr)
      (succeeds : ∀ left right, Decides place True (next left right)) =>
      (decides_expr place .plain left).bind fun left =>
        (decides_expr place .plain right).bind fun right => succeeds left right
    refine (operands _ fun left right => ?_).congr (by simp [Script.Expr.nodes, Script.Node.Sound])
    cases op.target? with
    | some op =>
      simp only [buildExpr_full]
      exact .pure _
    | none => exact .floorDivision left right loc
  | .logical _ _ left right => by
    rw [lowerExpr, require_full, pure_bind]
    exact ((decides_expr place .plain left).bind fun _ =>
      (decides_expr place .plain right).map _).congr
      (by simp [Script.Expr.nodes, Script.Node.Sound])
  | .member _ left right _ => by
    rw [lowerExpr, require_full, pure_bind]
    exact ((decides_expr place .plain left).bind fun _ =>
      (decides_expr place .plain right).map _).congr
      (by simp [Script.Expr.nodes, Script.Node.Sound])
  | .assignment _ _ left right => by
    rw [lowerExpr, require_full, pure_bind]
    exact ((decides_expr place .assigned left).bind fun _ =>
      (decides_expr place .plain right).map _).congr
      (by simp [Script.Expr.nodes, Script.Node.Sound])
  | .conditional _ test consequent alternate => by
    rw [lowerExpr, require_full, pure_bind]
    exact ((decides_expr place .plain test).bind fun _ =>
      (decides_expr place .plain consequent).bind fun _ =>
        (decides_expr place .plain alternate).map _).congr
      (by simp [Script.Expr.nodes, Script.Node.Sound])
  | .call _ callee arguments => by
    rw [lowerExpr, require_full, pure_bind]
    exact ((decides_expr place .plain callee).bind fun _ =>
      (decides_exprs place arguments).map _).congr
      (by simp [Script.Expr.nodes, Script.Node.Sound])
  | .construct _ callee arguments => by
    rw [lowerExpr, require_full, pure_bind]
    exact ((decides_expr place .plain callee).bind fun _ =>
      (decides_exprs place arguments).map _).congr
      (by simp [Script.Expr.nodes, Script.Node.Sound])
  | .yielding _ argument _ => by
    rw [lowerExpr, require_full, pure_bind]
    exact ((decides_option place argument).map _).congr
      (by simp [Script.Expr.nodes, Script.Node.Sound])
  | .compareChain loc operands [] => by
    rw [lowerExpr_compareChain_fail .full loc (.inl rfl)]
    exact (Runs.fail _).congr (by simp [Script.Expr.nodes, Script.Node.Sound])
  | .compareChain loc [] (op :: operators) => by
    rw [lowerExpr_compareChain_fail .full loc (.inr (by simp))]
    exact (Runs.fail _).congr (by simp [Script.Expr.nodes, Script.Node.Sound])
  | .compareChain loc (first :: operands) (op :: operators) => by
    by_cases fit : operands.length = operators.length + 1
    · rw [lowerExpr_compareChain_cons .full loc first op fit]
      refine ((Decides.comparison op).bind fun op =>
        (decides_expr place .plain first).bind fun left =>
          decides_chain place loc op left none operators operands fit).congr ?_
      simp only [Script.Expr.nodes, Script.exprNodes, Script.Node.Sound, Script.sound_cons,
        Script.sound_append, List.length_cons, List.mem_cons]
      grind
    · rw [lowerExpr_compareChain_fail .full loc (.inr (by simpa using fit))]
      exact (Runs.fail _).congr (by simp [Script.Expr.nodes, Script.Node.Sound, fit])

theorem decides_exprs (place : Script.Place) : ∀ nodes : List Script.Expr,
    Decides place (Sound (Script.exprNodes place nodes)) (lowerExprs .full nodes)
  | [] => (Runs.pure []).congr (by simp [Script.exprNodes])
  | expr :: exprs => by
    rw [lowerExprs]
    exact ((decides_expr place .plain expr).bind fun _ => (decides_exprs place exprs).map _).congr
      (by simp [Script.exprNodes])

theorem decides_option (place : Script.Place) : ∀ node : Option Script.Expr,
    Decides place (Sound (Script.optionNodes place node)) (lowerOption .full node)
  | none => (Runs.pure none).congr (by simp [Script.optionNodes])
  | some expr => by
    rw [lowerOption]
    exact ((decides_expr place .plain expr).map _).congr (by simp [Script.optionNodes])

theorem decides_chain (place : Script.Place) (loc : Option Location) (op : Target.BinaryOp)
    (left : Target.Expr) (chain : Option Target.Expr) (operators : List Script.BinaryOp) :
    ∀ operands : List Script.Expr, operands.length = operators.length + 1 →
      Decides place (.floorDiv ∉ operators ∧ Sound (Script.exprNodes place operands))
        (lowerChain .full loc op left chain operators operands)
  | [], fit => by simp at fit
  | operand :: operands, fit => by
    cases operators with
    | nil =>
      have last : operands = [] := by simpa using fit
      rw [lowerChain_last, last]
      exact ((decides_expr place .plain operand).bind fun right =>
        Decides.chainLink loc op left right chain).congr (by simp [Script.exprNodes])
    | cons next operators =>
      have fit : operands.length = operators.length + 1 := by simpa using fit
      simp only [lowerChain_cons, assign_full, identifier_full, pure_bind]
      refine ((Decides.fresh (by simp [stems])).always fun name =>
        (decides_expr place .plain operand).bind fun value =>
          (Decides.chainLink loc op left _ chain).always fun chain =>
            (Decides.comparison next).bind fun op =>
              decides_chain place loc op _ (some chain) operators operands fit).congr ?_
      simp only [Script.exprNodes, Script.sound_append, List.mem_cons]
      grind

theorem decides_property (place : Script.Place) : ∀ node : Script.Property,
    Decides place (Sound (node.nodes place)) (lowerProperty .full node)
  | .keyValue _ key value => by
    simp only [lowerProperty, require_full, pure_bind]
    exact ((decides_expr place .plain key).bind fun _ => (decides_expr place .plain value).map _).congr
      (by simp [Script.Property.nodes, Script.Node.Sound])
  | .method loc key definition => by
    simp only [lowerProperty, require_full, pure_bind]
    have defines := (decides_function place.inDefinition (definition.loc.or loc) definition).withMethod
      (closed_keeps.function .full _ definition)
    exact ((decides_expr place .plain key).bind fun _ => defines.map _).congr
      (by simp [Script.Property.nodes, Script.Node.Sound])

theorem decides_properties (place : Script.Place) : ∀ nodes : List Script.Property,
    Decides place (Sound (Script.propertyNodes place nodes)) (lowerProperties .full nodes)
  | [] => (Runs.pure []).congr (by simp [Script.propertyNodes])
  | property :: properties => by
    rw [lowerProperties]
    exact ((decides_property place property).bind fun _ =>
      (decides_properties place properties).map _).congr (by simp [Script.propertyNodes])

theorem decides_function (place : Script.Place) (loc : Option Location) : ∀ node : Script.Function,
    Decides place (Sound (node.nodes place)) (lowerFunction .full loc node)
  | .mk own params body bound generator async => by
    rw [lowerFunction]
    -- Whether an unspecified function is bound is read off the frames, which the place tells.
    refine Decides.surroundings fun frames _ inMethod => ?_
    rw [inMethod]
    by_cases bad : (bound.getD !place.inMethod && generator && async) = true
    · rw [if_pos bad]
      refine (Runs.fail _).congr ?_
      simp_all [Script.Function.nodes, Script.Node.Sound]
    · rw [if_neg bad]
      refine ((decides_exprs place params).bind fun params =>
        (decides_block place loc body).bind fun body =>
          Decides.functionExpr loc (own.or loc) _ generator async params body).congr ?_
      simp_all [Script.Function.nodes, Script.Node.Sound]

theorem decides_block (place : Script.Place) (loc : Option Location) : ∀ node : Script.Block,
    Decides place (Sound (node.nodes place)) (lowerBlock .full loc node)
  | .mk own stmts => by
    simp only [lowerBlock_eq, require_full, pure_bind]
    have body := Runs.listBody (fun _ => Fits.inBody) (fun _ _ => Fits.kept)
      (decides_stmts place.inBody stmts) (closed_keeps.stmts .full stmts) (own.or loc) stmts
    exact (body.map _).congr (by simp [Script.Block.nodes, Script.Node.Sound])

theorem decides_handler (place : Script.Place) (loc : Option Location) : ∀ node : Script.Catch,
    Decides place (Sound (node.nodes place)) (lowerHandler .full loc (some node))
  | .mk _ param body => by
    simp only [lowerHandler, require_full, pure_bind]
    exact ((decides_option place param).bind fun _ => (decides_block place loc body).map _).congr
      (by simp [Script.Catch.nodes, Script.Node.Sound])

theorem decides_declarator (place : Script.Place) (loc : Option Location) : ∀ node : Script.Declarator,
    Decides place (Sound (node.nodes place)) (lowerDeclarator .full loc node)
  | .mk _ id init _ => by
    simp only [lowerDeclarator, declarator_full]
    exact ((decides_expr place .declared id).bind fun _ => (decides_option place init).map _).congr
      (by simp [Script.Declarator.nodes, Script.Node.Sound])

theorem decides_runs (place : Script.Place) (loc : Option Location) (constant : Bool)
    (run : List Target.Declarator) : ∀ nodes : List Script.Declarator,
    Decides place (Sound (Script.declaratorNodes place nodes))
      (lowerRuns .full loc constant run nodes)
  | [] => by
    simp only [lowerRuns, declaration, buildStmt_full, pure_bind]
    exact (Runs.pure _).congr (by simp [Script.declaratorNodes])
  | next :: declarators => by
    simp only [lowerRuns, declaration, buildStmt_full, pure_bind]
    split
    · exact ((decides_declarator place loc next).bind fun _ =>
        decides_runs place loc constant _ declarators).congr (by simp [Script.declaratorNodes])
    · exact ((decides_declarator place loc next).bind fun _ =>
        (decides_runs place loc next.constant _ declarators).map _).congr
          (by simp [Script.declaratorNodes])

theorem decides_stmt (place : Script.Place) : ∀ node : Script.Stmt,
    Decides place (Sound (node.nodes place false)) (lowerStmt .full node)
  | .empty _ => by
    rw [lowerStmt, require_full, pure_bind]
    exact (Runs.pure _).congr
      (by simp [Script.Stmt.nodes, Script.Node.Sound])
  | .breaking _ => by
    rw [lowerStmt, require_full, pure_bind]
    exact (Runs.pure _).congr
      (by simp [Script.Stmt.nodes, Script.Node.Sound])
  | .continuing _ => by
    rw [lowerStmt, require_full, pure_bind]
    exact (Runs.pure _).congr
      (by simp [Script.Stmt.nodes, Script.Node.Sound])
  | .expression _ value => by
    rw [lowerStmt, require_full, pure_bind]
    exact ((decides_expr place .plain value).map _).congr
      (by simp [Script.Stmt.nodes, Script.Node.Sound])
  | .throwing _ value => by
    rw [lowerStmt, require_full, pure_bind]
    exact ((decides_expr place .plain value).map _).congr
      (by simp [Script.Stmt.nodes, Script.Node.Sound])
  | .block loc body => by
    simp only [lowerStmt, buildStmt_full, pure_bind]
    exact ((decides_block place loc body).map _).congr
      (by simp [Script.Stmt.nodes, Script.Node.Sound])
  | .ifElse _ test consequent none => by
    rw [lowerStmt, require_full, pure_bind]
    exact ((decides_expr place .plain test).bind fun _ =>
      (decides_stmt place consequent).single.map _).congr
      (by simp [Script.Stmt.nodes, Script.Node.Sound])
  | .ifElse _ test consequent (some alternate) => by
    rw [lowerStmt, require_full, pure_bind]
    exact ((decides_expr place .plain test).bind fun _ =>
      (decides_stmt place consequent).single.bind fun _ => (decides_stmt place alternate).single.map _).congr
      (by simp [Script.Stmt.nodes, Script.Node.Sound])
  | .whileLoop _ test body => by
    rw [lowerStmt, require_full, pure_bind]
    exact ((decides_expr place .plain test).bind fun _ => (decides_stmt place body).single.map _).congr
      (by simp [Script.Stmt.nodes, Script.Node.Sound])
  | .doWhile _ body test => by
    rw [lowerStmt, require_full, pure_bind]
    exact ((decides_stmt place body).single.bind fun _ => (decides_expr place .plain test).map _).congr
      (by simp [Script.Stmt.nodes, Script.Node.Sound, and_comm])
  | .forIn _ left right body => by
    rw [lowerStmt, require_full, pure_bind]
    exact ((decides_expr place .plain left).bind fun _ =>
      (decides_expr place .plain right).bind fun _ => (decides_stmt place body).single.map _).congr
      (by simp [Script.Stmt.nodes, Script.Node.Sound])
  | .forOf _ left right body => by
    rw [lowerStmt, require_full, pure_bind]
    exact ((decides_expr place .plain left).bind fun _ =>
      (decides_expr place .plain right).bind fun _ => (decides_stmt place body).single.map _).congr
      (by simp [Script.Stmt.nodes, Script.Node.Sound])
  | .returning _ argument => by
    rw [lowerStmt, require_full, pure_bind]
    exact ((decides_option place argument).map _).congr
      (by simp [Script.Stmt.nodes, Script.Node.Sound])
  | .yielding _ argument => by
    simp only [lowerStmt, buildExpr_full, buildStmt_full, pure_bind]
    exact ((decides_option place argument).map _).congr
      (by simp [Script.Stmt.nodes, Script.Node.Sound])
  | .trying loc block none none => by
    simp only [lowerStmt, lowerHandler, lowerFinalizer, require_full, pure_bind]
    exact ((decides_block place loc block).map _).congr
      (by simp [Script.Stmt.nodes, Script.Node.Sound])
  | .trying loc block (some handler) none => by
    simp only [lowerStmt, lowerFinalizer, require_full, pure_bind]
    exact ((decides_block place loc block).bind fun _ =>
      (decides_handler place loc handler).map _).congr
      (by simp [Script.Stmt.nodes, Script.Node.Sound])
  | .trying loc block none (some finalizer) => by
    simp only [lowerStmt, lowerHandler, lowerFinalizer, require_full, pure_bind, bind_assoc]
    exact ((decides_block place loc block).bind fun _ =>
      (decides_block place loc finalizer).map _).congr
      (by simp [Script.Stmt.nodes, Script.Node.Sound])
  | .trying loc block (some handler) (some finalizer) => by
    simp only [lowerStmt, lowerFinalizer, require_full, pure_bind, bind_assoc]
    exact ((decides_block place loc block).bind fun _ =>
      (decides_handler place loc handler).bind fun _ =>
        (decides_block place loc finalizer).map _).congr
      (by simp [Script.Stmt.nodes, Script.Node.Sound])
  | .declaring loc [] => (Runs.fail _).congr (by simp [Script.Stmt.nodes, Script.Node.Sound])
  | .declaring loc (first :: declarators) => by
    rw [lowerStmt]
    exact ((decides_runs place loc first.constant [] (first :: declarators)).map _).congr
      (by simp [Script.Stmt.nodes, Script.Node.Sound])
  | .function loc id definition => by
    simp only [lowerStmt, declarator_full, buildStmt_full, pure_bind]
    exact ((decides_expr place .declared id).bind fun _ =>
      (decides_function place (definition.loc.or loc) definition).map _).congr
      (by simp [Script.Stmt.nodes, Script.Node.Sound])
  | .assignment _ _ left right => by
    simp only [lowerStmt, buildExpr_full, buildStmt_full, pure_bind]
    exact ((decides_expr place .assigned left).bind fun _ =>
      (decides_expr place .plain right).map _).congr
      (by simp [Script.Stmt.nodes, Script.Node.Sound])
  | .cascade loc root steps degrees => by
    rw [lowerStmt]
    by_cases count : degrees.length = steps.length
    -- The root is lowered outside the frame of the cascade, so it keeps the place of the statement.
    · simp only [count, bne_self_eq_false, Bool.false_eq_true, ↓reduceIte, assignStmt_full, pure_bind]
      refine ((Decides.fresh (by simp [stems])).always fun name =>
        (decides_expr place .plain root).bind fun _ =>
          (Decides.withCascade (closed_keeps.cascadeSteps .full loc degrees steps) name
            (decides_steps loc 1 degrees steps count)).map _).congr ?_
      simp only [Script.Stmt.nodes, Script.Node.Sound, Script.degreesFit_iff, Script.sound_cons,
        Script.sound_append]
      grind
    · have miscounted : (steps.length != degrees.length) = true := by simpa using Ne.symm count
      rw [if_pos miscounted]
      refine (Runs.fail _).congr ?_
      simp [Script.Stmt.nodes, Script.Node.Sound, Script.degreesFit_iff, count]

theorem decides_steps (loc : Option Location) (depth : Nat) (degrees : List Nat) :
    ∀ nodes : List Script.Stmt, degrees.length = nodes.length →
      Runs (AtDepth depth) (fun _ => True)
        (Script.StepsFit depth degrees nodes ∧ Sound (Script.stmtNodes .step nodes))
        (lowerSteps .full true loc degrees nodes)
  | [], _ => by
    rw [lowerSteps_nil]
    refine (Runs.pure []).forget.congr ?_
    simp [Script.StepsFit, Script.stmtNodes]
  | step :: steps, count => by
    cases degrees with
    | nil => simp at count
    | cons degree degrees =>
      replace count : degrees.length = steps.length := by simpa using count
      rw [lowerSteps_cons]
      refine Runs.receivers fun held length => ?_
      -- The checks come in the order of the run: the receiver is there, the next step goes no more
      -- than one deeper, and if it does, this step is an expression.
      by_cases low : degree = 0 ∨ held.length < degree
      · rw [if_pos low]
        refine (Runs.fail _).congr ⟨False.elim, fun fit => ?_⟩
        have := fit.1.1
        omega
      · rw [if_neg low]
        obtain ⟨degree, rfl⟩ : ∃ less, degree = less + 1 := ⟨degree - 1, by omega⟩
        have taken : (held.take (degree + 1)).length = degree + 1 := by simp; omega
        have receives := Runs.setReceivers depth (held.take (degree + 1))
        rw [taken] at receives
        refine receives.always fun _ => ?_
        by_cases flat : degrees.head?.getD 0 ≤ degree + 1
        · rw [if_pos flat]
          refine (((decides_stmt .step step).atDepth (closed_keeps.stmt .full step)).bind fun _ =>
            (decides_steps loc (degree + 1) degrees steps count).map _).congr ?_
          simp only [Script.StepsFit, Script.stmtNodes, Script.sound_append]
          grind
        · rw [if_neg flat]
          by_cases jump : degree + 1 + 1 < degrees.head?.getD 0
          · rw [if_pos jump]
            refine (Runs.fail _).congr ⟨False.elim, fun fit => ?_⟩
            have := fit.1.2
            omega
          · rw [if_neg jump]
            refine ((Runs.stored loc taken (decides_stmt .step step)).bind fun _ =>
              (decides_steps loc (degree + 2) degrees steps count).map _).congr ?_
            simp only [Script.StepsFit, Script.stmtNodes, Script.sound_append]
            grind

theorem decides_stmts (place : Script.Place) : ∀ nodes : List Script.Stmt,
    Decides place (Sound (Script.stmtNodes place nodes)) (lowerStmts .full nodes)
  | [] => (Runs.pure []).congr (by simp [Script.stmtNodes])
  | stmt :: stmts => by
    rw [lowerStmts]
    exact ((decides_stmt place stmt).bind fun _ => (decides_stmts place stmts).map _).congr
      (by simp [Script.stmtNodes])

end

/-- A pass before or after a whole program. -/
structure AtTop (pass : Pass) : Prop where
  empty : pass.frames = []
  faithful : pass.templates.Faithful

variable {pass later : Pass}

theorem AtTop.kept (top : AtTop pass) (kept : Kept pass later) : AtTop later := by
  obtain ⟨names, frames⟩ := kept.frames
  refine ⟨?_, kept.templates top.faithful⟩
  rw [frames, top.empty]
  rfl

theorem AtTop.inBody (top : AtTop pass) :
    Fits ⟨false, false⟩ (pass.push .scope) :=
  ⟨rfl, by simp [top.empty, innermostReceiver], rfl, top.faithful⟩

theorem decides_program (program : Script.Program) :
    Runs AtTop AtTop program.WellFormed (lowerProgram .full program) := by
  simp only [lowerProgram_eq, require_full, pure_bind]
  have body := Runs.listBody (fun _ => AtTop.inBody) (fun _ _ => AtTop.kept)
    (decides_stmts ⟨false, false⟩ program.body) (closed_keeps.stmts .full program.body)
    program.loc program.body
  exact (body.map _).congr program.wellFormed_iff.symm

namespace Engine

/-- With the full vocabulary, and whatever was lowered before, a program is lowered if and only if it
is well-formed. -/
theorem lowers_iff_wellFormed (earlier : List Script.Program) (program : Script.Program) :
    (∃ lowered, ((({} : Engine).after earlier).lower program).1 = .ok lowered) ↔
      program.WellFormed := by
  have faithful : (({} : Engine).after earlier).templates.Faithful :=
    after_faithful .empty earlier
  have top : AtTop ((({} : Engine).after earlier).start program) := ⟨rfl, faithful⟩
  simp only [lower_fst_eq_ok, after_vocabulary]
  rw [← (decides_program program).iff _ top]
  constructor
  · rintro ⟨lowered, later, ran, -⟩
    exact ⟨lowered, later, ran⟩
  · rintro ⟨lowered, later, ran⟩
    exact ⟨lowered, later, ran, ((decides_program program).leaves _ _ _ top ran).empty⟩

end Engine

end Offside.Lowering
