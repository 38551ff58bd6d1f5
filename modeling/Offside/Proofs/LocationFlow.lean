import Offside.Proofs.Outcomes

/-! Locations flow from a script to what it is lowered to, node by node. The induction follows the rules
of lowering; all that it needs to know of the script is that its nodes lend locations of a kind. -/

namespace Offside.Lowering

open Script (Lend lend_cons lend_append)
open Target (Stand)

variable {kind : Option Location → Prop} (vocabulary : Target.Vocabulary)

theorem Ready.inBody {pass : Pass} (ready : Ready pass) :
    Ready (pass.push .scope) := ⟨rfl, ready.faithful⟩

theorem Ready.inDefinition {pass : Pass} (ready : Ready pass) :
    Ready (pass.push .method) := ⟨ready.reach, ready.faithful⟩

theorem Ready.inSteps {pass : Pass} (ready : Ready pass) (name : String) :
    InCascade (pass.push (.cascade name)) :=
  ⟨⟨ready.reach, ready.faithful⟩, [name], pass.frames, rfl⟩

/-- A definition that does not say where it stands takes the location around it. -/
theorem lends_definition {place : Script.Place} {definition : Script.Function}
    (lend : Lend kind (definition.nodes place)) (known : kind loc) :
    kind (definition.loc.or loc) := by
  cases definition with
  | mk own params body bound generator async => exact (lend_cons.mp lend).1.or known

theorem lends_step {place : Script.Place} {step : Script.Stmt}
    (lend : Lend kind (step.nodes place alone)) (known : kind loc) : kind (step.loc.or loc) := by
  have lends : (Script.Node.stmt alone step).Lends kind := by
    apply lend
    rw [Script.Stmt.nodes.eq_def]
    exact List.mem_cons_self ..
  exact lends.or known

private theorem lend_trying {place : Script.Place} {block : Script.Block}
    {handler : Option Script.Catch}
    {finalizer : Option Script.Block}
    (lend : Lend kind ((Script.Stmt.trying loc block handler finalizer).nodes place alone)) :
    kind loc ∧ Lend kind (block.nodes place) ∧
      (∀ node ∈ handler, Lend kind (Script.Catch.nodes place node)) ∧
      ∀ node ∈ finalizer, Lend kind (Script.Block.nodes place node) := by
  obtain ⟨own, parts⟩ := Script.forall_trying.mp lend
  exact ⟨own.main rfl, parts⟩

private theorem stand_trying {block : Target.Block} {handler : Option Target.Catch}
    {finalizer : Option Target.Block} (known : kind loc) (standsBlock : Stand kind block.nodes)
    (standsHandler : ∀ node ∈ handler, Stand kind (Target.Catch.nodes node))
    (standsFinalizer : ∀ node ∈ finalizer, Stand kind (Target.Block.nodes node)) :
    Stand kind (Target.Stmt.trying loc block handler finalizer).nodes := by
  cases handler <;> cases finalizer <;>
    simp_all [Target.Stmt.nodes]

mutual

theorem gives_expr (place : Script.Place) (role : Role) : ∀ node : Script.Expr,
    Lend kind (node.nodes place role) →
    Gives kind Ready (fun node => Stand kind (node.nodes .plain)) (lowerExpr vocabulary node)
  | .identifier loc _, lend | .literal loc _, lend | .thisObject loc, lend => by
    obtain ⟨own, -⟩ := lend_cons.mp lend
    have known : kind loc := own.main rfl
    rw [lowerExpr]
    apply Gives.required
    exact .pure (by simp [Target.Expr.nodes, known])
  | .virtualObject loc, lend => by
    obtain ⟨own, -⟩ := lend_cons.mp lend
    have known : kind loc := own.main rfl
    rw [lowerExpr]
    apply Gives.surroundings.bind
    intro frames _
    split
    · exact .identifier vocabulary known _
    · exact .fail known
  | .array loc elements, lend | .sequence loc elements, lend => by
    obtain ⟨own, parts⟩ := lend_cons.mp lend
    have known : kind loc := own.main rfl
    rw [lowerExpr]
    apply Gives.required
    apply (gives_exprs place elements parts).bind
    intro items stand
    exact .pure (by simp [Target.Expr.nodes, known, stand])
  | .object loc properties, lend => by
    obtain ⟨own, parts⟩ := lend_cons.mp lend
    have known : kind loc := own.main rfl
    rw [lowerExpr]
    apply Gives.required
    apply (gives_properties place properties parts).bind
    intro properties stand
    exact .pure (by simp [Target.Expr.nodes, known, stand])
  | .function loc definition, lend => by
    obtain ⟨own, parts⟩ := lend_cons.mp lend
    rw [lowerExpr]
    exact gives_function place loc (own.main rfl) definition parts
  | .unary loc _ argument, lend | .awaiting loc argument, lend => by
    obtain ⟨own, parts⟩ := lend_cons.mp lend
    have known : kind loc := own.main rfl
    rw [lowerExpr]
    apply Gives.required
    apply (gives_expr place .plain argument parts).bind
    intro argument stands
    exact .pure (by simp [Target.Expr.nodes, known, stands])
  | .binary loc op left right, lend => by
    obtain ⟨own, parts⟩ := lend_cons.mp lend
    obtain ⟨lendLeft, lendRight⟩ := lend_append.mp parts
    have known : kind loc := own.main rfl
    rw [lowerExpr]
    apply (gives_expr place .plain left lendLeft).bind
    intro left standsLeft
    apply (gives_expr place .plain right lendRight).bind
    intro right standsRight
    split
    · apply Gives.buildExpr
      simp [Target.Expr.nodes, known, standsLeft, standsRight]
    · exact .floorDivision vocabulary known standsLeft standsRight
  | .logical loc _ left right, lend | .member loc left right _, lend => by
    obtain ⟨own, parts⟩ := lend_cons.mp lend
    obtain ⟨lendLeft, lendRight⟩ := lend_append.mp parts
    have known : kind loc := own.main rfl
    rw [lowerExpr]
    apply Gives.required
    apply (gives_expr place .plain left lendLeft).bind
    intro left standsLeft
    apply (gives_expr place .plain right lendRight).bind
    intro right standsRight
    exact .pure (by simp [Target.Expr.nodes, known, standsLeft, standsRight])
  | .conditional loc test consequent alternate, lend => by
    obtain ⟨own, parts⟩ := lend_cons.mp lend
    obtain ⟨front, lendAlternate⟩ := lend_append.mp parts
    obtain ⟨lendTest, lendConsequent⟩ := lend_append.mp front
    have known : kind loc := own.main rfl
    rw [lowerExpr]
    apply Gives.required
    apply (gives_expr place .plain test lendTest).bind
    intro test standsTest
    apply (gives_expr place .plain consequent lendConsequent).bind
    intro consequent standsConsequent
    apply (gives_expr place .plain alternate lendAlternate).bind
    intro alternate standsAlternate
    exact .pure (by simp [Target.Expr.nodes, known, standsTest, standsConsequent, standsAlternate])
  | .assignment loc op left right, lend => by
    obtain ⟨own, parts⟩ := lend_cons.mp lend
    obtain ⟨lendLeft, lendRight⟩ := lend_append.mp parts
    have known : kind loc := own.main rfl
    rw [lowerExpr]
    apply Gives.required
    apply (gives_expr place .assigned left lendLeft).bind
    intro left standsLeft
    apply (gives_expr place .plain right lendRight).bind
    intro right standsRight
    exact .pure (by simp [Target.Expr.nodes, known, standsLeft, standsRight])
  | .call loc callee arguments, lend | .construct loc callee arguments, lend => by
    obtain ⟨own, parts⟩ := lend_cons.mp lend
    obtain ⟨lendCallee, lendArguments⟩ := lend_append.mp parts
    have known : kind loc := own.main rfl
    rw [lowerExpr]
    apply Gives.required
    apply (gives_expr place .plain callee lendCallee).bind
    intro callee standsCallee
    apply (gives_exprs place arguments lendArguments).bind
    intro items stand
    exact .pure (by simp [Target.Expr.nodes, known, standsCallee, stand])
  | .yielding loc argument delegate, lend => by
    obtain ⟨own, parts⟩ := lend_cons.mp lend
    have known : kind loc := own.main rfl
    rw [lowerExpr]
    apply Gives.required
    apply (gives_option place argument parts).bind
    intro argument stands
    exact .pure (by simp [Target.Expr.nodes, known, stands])
  | .compareChain loc [] operators, _ => by
    rw [lowerExpr_compareChain_fail vocabulary loc (.inr (by simp))]
    exact .fail trivial
  | .compareChain loc (first :: operands) [], _ => by
    rw [lowerExpr_compareChain_fail vocabulary loc (.inl rfl)]
    exact .fail trivial
  | .compareChain loc (first :: operands) (op :: operators), lend => by
    by_cases fit : operands.length = operators.length + 1
    · obtain ⟨own, parts⟩ := lend_cons.mp lend
      obtain ⟨lendFirst, lendRest⟩ := lend_append.mp parts
      rw [lowerExpr_compareChain_cons vocabulary loc first op fit]
      apply (Gives.comparison op).bind
      intro op _
      apply (gives_expr place .plain first lendFirst).bind
      intro left standsLeft
      exact gives_chain place loc (own.main rfl) op left none standsLeft
        (by simp [Target.optionNodes]) operators operands fit lendRest
    · rw [lowerExpr_compareChain_fail vocabulary loc (.inr (by simpa using fit))]
      exact .fail trivial

theorem gives_exprs (place : Script.Place) : ∀ nodes : List Script.Expr,
    Lend kind (Script.exprNodes place nodes) →
    Gives kind Ready (fun nodes => Stand kind (Target.exprNodes nodes)) (lowerExprs vocabulary nodes)
  | [], _ => by
    rw [lowerExprs]
    exact .pure (by simp [Target.exprNodes])
  | node :: nodes, lend => by
    obtain ⟨lendFirst, lendRest⟩ := lend_append.mp lend
    rw [lowerExprs]
    apply (gives_expr place .plain node lendFirst).bind
    intro first stands
    apply (gives_exprs place nodes lendRest).bind
    intro rest stand
    exact .pure (by simp [Target.exprNodes, stands, stand])

theorem gives_option (place : Script.Place) : ∀ node : Option Script.Expr,
    Lend kind (Script.optionNodes place node) →
    Gives kind Ready (fun node => Stand kind (Target.optionNodes node)) (lowerOption vocabulary node)
  | none, _ => by
    rw [lowerOption]
    exact .pure (by simp [Target.optionNodes])
  | some node, lend => by
    rw [lowerOption]
    apply (gives_expr place .plain node lend).bind
    intro lowered stands
    exact .pure stands

/-- An operand is left for every comparison, so that the chain never ends too early. -/
theorem gives_chain (place : Script.Place) (loc : Option Location) (known : kind loc)
    (op : Target.BinaryOp) (left : Target.Expr) (before : Option Target.Expr)
    (standsLeft : Stand kind (left.nodes .plain))
    (standsBefore : Stand kind (Target.optionNodes before)) (operators : List Script.BinaryOp) :
    ∀ operands : List Script.Expr, operands.length = operators.length + 1 →
      Lend kind (Script.exprNodes place operands) →
      Gives kind Ready (fun node => Stand kind (node.nodes .plain))
        (lowerChain vocabulary loc op left before operators operands)
  | [], fit, _ => by simp at fit
  | operand :: operands, fit, lend => by
    obtain ⟨lendFirst, lendRest⟩ := lend_append.mp lend
    cases operators with
    | nil =>
      rw [lowerChain_last]
      apply (gives_expr place .plain operand lendFirst).bind
      intro right standsRight
      exact .chainLink vocabulary known op standsLeft standsRight standsBefore
    | cons next operators =>
      rw [lowerChain_cons]
      apply (Gives.fresh tempStem).bind
      intro name _
      apply (gives_expr place .plain operand lendFirst).bind
      intro value standsValue
      apply (Gives.assign vocabulary known name standsValue).bind
      intro right standsRight
      apply (Gives.chainLink vocabulary known op standsLeft standsRight standsBefore).bind
      intro link standsLink
      apply (Gives.comparison next).bind
      intro op _
      apply (Gives.identifier vocabulary known name).bind
      intro left standsLeft
      exact gives_chain place loc known op left (some link) standsLeft standsLink operators operands
        (by simpa using fit) lendRest

theorem gives_property (place : Script.Place) : ∀ node : Script.Property,
    Lend kind (node.nodes place) →
    Gives kind Ready (fun node => Stand kind node.nodes) (lowerProperty vocabulary node)
  | .keyValue loc key value, lend => by
    obtain ⟨own, parts⟩ := lend_cons.mp lend
    obtain ⟨lendKey, lendValue⟩ := lend_append.mp parts
    have known : kind loc := own.main rfl
    rw [lowerProperty]
    apply (gives_expr place .plain key lendKey).bind
    intro key standsKey
    apply (gives_expr place .plain value lendValue).bind
    intro value standsValue
    apply Gives.required
    exact .pure (by simp [Target.Property.nodes, known, standsKey, standsValue])
  | .method loc key definition, lend => by
    obtain ⟨own, parts⟩ := lend_cons.mp lend
    obtain ⟨lendKey, lendDefinition⟩ := lend_append.mp parts
    have known : kind loc := own.main rfl
    have around : kind (definition.loc.or loc) := lends_definition lendDefinition known
    rw [lowerProperty]
    apply (gives_expr place .plain key lendKey).bind
    intro key standsKey
    have inside := gives_function place.inDefinition (definition.loc.or loc) around definition
      lendDefinition
    have keeps := closed_keeps.function vocabulary (definition.loc.or loc) definition
    apply (inside.withFrame (fun _ => Ready.inDefinition) (fun _ _ => Ready.kept)
      keeps.withMethod fun _ => keeps.frames_ne_nil rfl).bind
    intro value standsValue
    apply Gives.required
    exact .pure (by simp [Target.Property.nodes, known, standsKey, standsValue])

theorem gives_properties (place : Script.Place) : ∀ nodes : List Script.Property,
    Lend kind (Script.propertyNodes place nodes) →
    Gives kind Ready (fun nodes => Stand kind (Target.propertyNodes nodes))
      (lowerProperties vocabulary nodes)
  | [], _ => by
    rw [lowerProperties]
    exact .pure (by simp [Target.propertyNodes])
  | node :: nodes, lend => by
    obtain ⟨lendFirst, lendRest⟩ := lend_append.mp lend
    rw [lowerProperties]
    apply (gives_property place node lendFirst).bind
    intro first stands
    apply (gives_properties place nodes lendRest).bind
    intro rest stand
    exact .pure (by simp [Target.propertyNodes, stands, stand])

theorem gives_function (place : Script.Place) (loc : Option Location) (known : kind loc) :
    ∀ node : Script.Function, Lend kind (node.nodes place) →
    Gives kind Ready (fun node => Stand kind (node.nodes .plain)) (lowerFunction vocabulary loc node)
  | .mk own params body bound generator async, lend => by
    obtain ⟨lends, parts⟩ := lend_cons.mp lend
    obtain ⟨lendParams, lendBody⟩ := lend_append.mp parts
    rw [lowerFunction]
    apply Gives.surroundings.bind
    intro frames _
    dsimp only
    split
    · exact .fail trivial
    · apply (gives_exprs place params lendParams).bind
      intro params standParams
      apply (gives_block place loc known body lendBody).bind
      intro body standsBody
      exact .functionExpr vocabulary _ generator async known (lends.or known) standParams standsBody

theorem gives_block (place : Script.Place) (loc : Option Location) (known : kind loc) :
    ∀ node : Script.Block, Lend kind (node.nodes place) →
    Gives kind Ready (fun node => Stand kind node.nodes) (lowerBlock vocabulary loc node)
  | .mk own body, lend => by
    obtain ⟨lends, parts⟩ := lend_cons.mp lend
    have knownOwn : kind (own.or loc) := lends.or known
    rw [lowerBlock_eq]
    apply (Gives.listBody vocabulary knownOwn (fun _ => Ready.inBody) (fun _ _ => Ready.kept)
      (closed_keeps.stmts vocabulary body) (gives_stmts place.inBody body parts) body).bind
    intro stmts stand
    apply Gives.required
    exact .pure (by simp [Target.Block.nodes, knownOwn, stand])

theorem gives_handler (place : Script.Place) (loc : Option Location) (known : kind loc) :
    ∀ node : Option Script.Catch, (∀ handler ∈ node, Lend kind (handler.nodes place)) →
    Gives kind Ready (fun node => ∀ handler ∈ node, Stand kind handler.nodes)
      (lowerHandler vocabulary loc node)
  | none, _ => by
    rw [lowerHandler]
    exact .pure (by simp)
  | some (.mk own param body), lend => by
    obtain ⟨lends, parts⟩ := lend_cons.mp (lend _ rfl)
    obtain ⟨lendParam, lendBody⟩ := lend_append.mp parts
    have knownOwn : kind (own.or loc) := lends.or known
    rw [lowerHandler]
    apply (gives_option place param lendParam).bind
    intro param standsParam
    apply (gives_block place loc known body lendBody).bind
    intro body standsBody
    apply Gives.required
    exact .pure (by simp [Target.Catch.nodes, knownOwn, standsParam, standsBody])

theorem gives_finalizer (place : Script.Place) (loc : Option Location) (known : kind loc) :
    ∀ node : Option Script.Block, (∀ block ∈ node, Lend kind (block.nodes place)) →
    Gives kind Ready (fun node => ∀ block ∈ node, Stand kind block.nodes)
      (lowerFinalizer vocabulary loc node)
  | none, _ => by
    rw [lowerFinalizer]
    exact .pure (by simp)
  | some node, lend => by
    rw [lowerFinalizer]
    apply (gives_block place loc known node (lend _ rfl)).bind
    intro block stands
    exact .pure (by simpa using stands)

theorem gives_declarator (place : Script.Place) (loc : Option Location) (known : kind loc) :
    ∀ node : Script.Declarator, Lend kind (node.nodes place) →
    Gives kind Ready (fun node => Stand kind node.nodes) (lowerDeclarator vocabulary loc node)
  | .mk own id init constant, lend => by
    obtain ⟨lends, parts⟩ := lend_cons.mp lend
    obtain ⟨lendId, lendInit⟩ := lend_append.mp parts
    rw [lowerDeclarator]
    apply (gives_expr place .declared id lendId).bind
    intro id standsId
    apply (gives_option place init lendInit).bind
    intro init standsInit
    exact .declarator vocabulary (lends.or known) standsId standsInit

theorem gives_runs (place : Script.Place) (loc : Option Location) (known : kind loc)
    (constant : Bool) (run : List Target.Declarator)
    (standRun : Stand kind (Target.declaratorNodes run)) :
    ∀ nodes : List Script.Declarator, Lend kind (Script.declaratorNodes place nodes) →
    Gives kind Ready (fun nodes => Stand kind (Target.stmtNodes nodes))
      (lowerRuns vocabulary loc constant run nodes)
  | [], _ => by
    have declares (kindOf : Target.DeclarationKind) :
        Stand kind (Target.Stmt.declaring loc kindOf run).nodes := by
      simp [Target.Stmt.nodes, known, standRun]
    rw [lowerRuns]
    apply (Gives.buildStmt vocabulary (declares _)).bind
    intro stmt stands
    exact .pure (by simp [Target.stmtNodes, stands])
  | node :: nodes, lend => by
    obtain ⟨lendFirst, lendRest⟩ := lend_append.mp lend
    have declares (kindOf : Target.DeclarationKind) :
        Stand kind (Target.Stmt.declaring loc kindOf run).nodes := by
      simp [Target.Stmt.nodes, known, standRun]
    rw [lowerRuns]
    split
    · apply (gives_declarator place loc known node lendFirst).bind
      intro lowered stands
      have longer : Stand kind (Target.declaratorNodes (run ++ [lowered])) := by
        simp [Target.declaratorNodes, standRun, stands]
      exact gives_runs place loc known constant _ longer nodes lendRest
    · apply (Gives.buildStmt vocabulary (declares _)).bind
      intro done standsDone
      apply (gives_declarator place loc known node lendFirst).bind
      intro lowered stands
      have single : Stand kind (Target.declaratorNodes [lowered]) := by
        simp [Target.declaratorNodes, stands]
      apply (gives_runs place loc known node.constant _ single nodes lendRest).bind
      intro rest standRest
      exact .pure (by simp [Target.stmtNodes, standsDone, standRest])

theorem gives_stmt (place : Script.Place) (alone : Bool) : ∀ node : Script.Stmt,
    Lend kind (node.nodes place alone) →
    Gives kind Ready (fun expansion => Stand kind (Target.stmtNodes expansion.toList))
      (lowerStmt vocabulary node)
  | .expression loc value, lend => by
    obtain ⟨own, parts⟩ := lend_cons.mp lend
    have known : kind loc := own.main rfl
    rw [lowerStmt]
    apply Gives.required
    apply (gives_expr place .plain value parts).bind
    intro value stands
    exact .pure (by simp [Expansion.toList, Target.stmtNodes, Target.Stmt.nodes, known, stands])
  | .block loc body, lend => by
    obtain ⟨own, parts⟩ := lend_cons.mp lend
    have known : kind loc := own.main rfl
    rw [lowerStmt]
    apply (gives_block place loc known body parts).bind
    intro body stands
    have holds : Stand kind (Target.Stmt.block loc body).nodes := by
      simp [Target.Stmt.nodes, known, stands]
    apply (Gives.buildStmt vocabulary holds).bind
    intro stmt standsStmt
    exact .pure (by simp [Expansion.toList, Target.stmtNodes, standsStmt])
  | .empty loc, lend | .breaking loc, lend | .continuing loc, lend => by
    obtain ⟨own, -⟩ := lend_cons.mp lend
    have known : kind loc := own.main rfl
    rw [lowerStmt]
    apply Gives.required
    exact .pure (by simp [Expansion.toList, Target.stmtNodes, Target.Stmt.nodes, known])
  | .ifElse loc test consequent none, lend => by
    obtain ⟨own, parts⟩ := lend_cons.mp lend
    obtain ⟨lendTest, lendConsequent⟩ := lend_append.mp parts
    have known : kind loc := own.main rfl
    rw [lowerStmt]
    apply Gives.required
    apply (gives_expr place .plain test lendTest).bind
    intro test standsTest
    apply ((gives_stmt place true consequent lendConsequent).single _).bind
    intro consequent standsConsequent
    exact .pure (by simp [Expansion.toList, Target.stmtNodes, Target.Stmt.nodes, known, standsTest,
      standsConsequent])
  | .ifElse loc test consequent (some alternate), lend => by
    obtain ⟨own, parts⟩ := lend_cons.mp lend
    obtain ⟨front, lendAlternate⟩ := lend_append.mp parts
    obtain ⟨lendTest, lendConsequent⟩ := lend_append.mp front
    have known : kind loc := own.main rfl
    rw [lowerStmt]
    apply Gives.required
    apply (gives_expr place .plain test lendTest).bind
    intro test standsTest
    apply ((gives_stmt place true consequent lendConsequent).single _).bind
    intro consequent standsConsequent
    apply ((gives_stmt place true alternate lendAlternate).single _).bind
    intro alternate standsAlternate
    exact .pure (by simp [Expansion.toList, Target.stmtNodes, Target.Stmt.nodes, known, standsTest,
      standsConsequent, standsAlternate])
  | .whileLoop loc test body, lend => by
    obtain ⟨own, parts⟩ := lend_cons.mp lend
    obtain ⟨lendTest, lendBody⟩ := lend_append.mp parts
    have known : kind loc := own.main rfl
    rw [lowerStmt]
    apply Gives.required
    apply (gives_expr place .plain test lendTest).bind
    intro test standsTest
    apply ((gives_stmt place true body lendBody).single _).bind
    intro body standsBody
    exact .pure (by simp [Expansion.toList, Target.stmtNodes, Target.Stmt.nodes, known, standsTest,
      standsBody])
  | .doWhile loc body test, lend => by
    obtain ⟨own, parts⟩ := lend_cons.mp lend
    obtain ⟨lendTest, lendBody⟩ := lend_append.mp parts
    have known : kind loc := own.main rfl
    rw [lowerStmt]
    apply Gives.required
    apply ((gives_stmt place true body lendBody).single _).bind
    intro body standsBody
    apply (gives_expr place .plain test lendTest).bind
    intro test standsTest
    exact .pure (by simp [Expansion.toList, Target.stmtNodes, Target.Stmt.nodes, known, standsTest,
      standsBody])
  | .forIn loc left right body, lend | .forOf loc left right body, lend => by
    obtain ⟨own, parts⟩ := lend_cons.mp lend
    obtain ⟨front, lendBody⟩ := lend_append.mp parts
    obtain ⟨lendLeft, lendRight⟩ := lend_append.mp front
    have known : kind loc := own.main rfl
    rw [lowerStmt]
    apply Gives.required
    apply (gives_expr place .plain left lendLeft).bind
    intro left standsLeft
    apply (gives_expr place .plain right lendRight).bind
    intro right standsRight
    apply ((gives_stmt place true body lendBody).single _).bind
    intro body standsBody
    exact .pure (by simp [Expansion.toList, Target.stmtNodes, Target.Stmt.nodes, known, standsLeft,
      standsRight, standsBody])
  | .returning loc argument, lend => by
    obtain ⟨own, parts⟩ := lend_cons.mp lend
    have known : kind loc := own.main rfl
    rw [lowerStmt]
    apply Gives.required
    apply (gives_option place argument parts).bind
    intro argument stands
    exact .pure (by simp [Expansion.toList, Target.stmtNodes, Target.Stmt.nodes, known, stands])
  | .throwing loc argument, lend => by
    obtain ⟨own, parts⟩ := lend_cons.mp lend
    have known : kind loc := own.main rfl
    rw [lowerStmt]
    apply Gives.required
    apply (gives_expr place .plain argument parts).bind
    intro argument stands
    exact .pure (by simp [Expansion.toList, Target.stmtNodes, Target.Stmt.nodes, known, stands])
  | .trying loc block handler finalizer, lend => by
    obtain ⟨known, lendBlock, lendHandler, lendFinalizer⟩ := lend_trying lend
    rw [lowerStmt]
    apply Gives.required
    apply (gives_block place loc known block lendBlock).bind
    intro block standsBlock
    apply (gives_handler place loc known handler lendHandler).bind
    intro handler standsHandler
    apply (gives_finalizer place loc known finalizer lendFinalizer).bind
    intro finalizer standsFinalizer
    apply Gives.pure
    simpa [Expansion.toList, Target.stmtNodes] using
      stand_trying known standsBlock standsHandler standsFinalizer
  | .declaring loc [], _ => by
    rw [lowerStmt]
    exact .fail trivial
  | .declaring loc (first :: declarators), lend => by
    obtain ⟨own, parts⟩ := lend_cons.mp lend
    rw [lowerStmt]
    apply (gives_runs place loc (own.main rfl) first.constant [] (by simp [Target.declaratorNodes])
      (first :: declarators) parts).bind
    intro stmts stand
    apply Gives.pure
    rwa [Expansion.toList_normalize]
  | .function loc id definition, lend => by
    obtain ⟨own, parts⟩ := lend_cons.mp lend
    obtain ⟨lendId, lendDefinition⟩ := lend_append.mp parts
    have known : kind loc := own.main rfl
    rw [lowerStmt]
    apply (gives_expr place .declared id lendId).bind
    intro id standsId
    apply (gives_function place (definition.loc.or loc) (lends_definition lendDefinition known)
      definition lendDefinition).bind
    intro value standsValue
    have standsInit : Stand kind (Target.optionNodes (some value)) := standsValue
    apply (Gives.declarator vocabulary known standsId standsInit).bind
    intro binding standsBinding
    have declares : Stand kind (Target.Stmt.declaring loc .const [binding]).nodes := by
      simp [Target.Stmt.nodes, Target.declaratorNodes, known, standsBinding]
    apply (Gives.buildStmt vocabulary declares).bind
    intro stmt standsStmt
    exact .pure (by simp [Expansion.toList, Target.stmtNodes, standsStmt])
  | .assignment loc op left right, lend => by
    obtain ⟨own, parts⟩ := lend_cons.mp lend
    obtain ⟨lendLeft, lendRight⟩ := lend_append.mp parts
    have known : kind loc := own.main rfl
    rw [lowerStmt]
    apply (gives_expr place .assigned left lendLeft).bind
    intro left standsLeft
    apply (gives_expr place .plain right lendRight).bind
    intro right standsRight
    have assigns : Stand kind ((Target.Expr.assignment loc op.target left right).nodes .plain) := by
      simp [Target.Expr.nodes, known, standsLeft, standsRight]
    apply (Gives.buildExpr vocabulary assigns).bind
    intro value standsValue
    have states : Stand kind (Target.Stmt.expression loc value).nodes := by
      simp [Target.Stmt.nodes, known, standsValue]
    apply (Gives.buildStmt vocabulary states).bind
    intro stmt standsStmt
    exact .pure (by simp [Expansion.toList, Target.stmtNodes, standsStmt])
  | .cascade loc root steps degrees, lend => by
    obtain ⟨own, parts⟩ := lend_cons.mp lend
    obtain ⟨lendRoot, lendSteps⟩ := lend_append.mp parts
    have known : kind loc := own.main rfl
    rw [lowerStmt]
    split
    · exact .fail known
    · apply (Gives.fresh rootStem).bind
      intro name _
      apply (gives_expr place .plain root lendRoot).bind
      intro root standsRoot
      apply (Gives.assignStmt vocabulary known name standsRoot).bind
      intro first standsFirst
      have keeps := closed_keeps.cascadeSteps vocabulary loc degrees steps
      apply ((gives_steps loc known degrees steps lendSteps).withFrame
        (fun _ ready => ready.inSteps name) (fun _ _ => Ready.kept) (keeps.withCascade name)
        fun _ => keeps.frames_ne_nil rfl).bind
      rintro ⟨rest, _⟩ standRest
      exact .pure (by simpa [Expansion.toList, Target.stmtNodes, standsFirst] using standRest)
  | .yielding loc argument, lend => by
    obtain ⟨own, parts⟩ := lend_cons.mp lend
    have known : kind loc := own.main rfl
    rw [lowerStmt]
    apply (gives_option place argument parts).bind
    intro argument stands
    have yields : Stand kind ((Target.Expr.yielding loc argument false).nodes .plain) := by
      simp [Target.Expr.nodes, known, stands]
    apply (Gives.buildExpr vocabulary yields).bind
    intro value standsValue
    have states : Stand kind (Target.Stmt.expression loc value).nodes := by
      simp [Target.Stmt.nodes, known, standsValue]
    apply (Gives.buildStmt vocabulary states).bind
    intro stmt standsStmt
    exact .pure (by simp [Expansion.toList, Target.stmtNodes, standsStmt])

theorem gives_stmts (place : Script.Place) : ∀ nodes : List Script.Stmt,
    Lend kind (Script.stmtNodes place nodes) →
    Gives kind Ready (∀ stmts ∈ ·, Stand kind (Target.stmtNodes stmts)) (lowerStmts vocabulary nodes)
  | [], _ => by
    rw [lowerStmts]
    exact .pure (by simp)
  | node :: nodes, lend => by
    obtain ⟨lendFirst, lendRest⟩ := lend_append.mp lend
    rw [lowerStmts]
    apply (gives_stmt place false node lendFirst).bind
    intro first stands
    apply (gives_stmts place nodes lendRest).bind
    intro rest stand
    exact .pure (List.forall_mem_cons.mpr ⟨stands, stand⟩)

theorem gives_steps (loc : Option Location) (known : kind loc) (degrees : List Nat) :
    ∀ steps : List Script.Stmt, Lend kind (Script.stmtNodes .step steps) →
    Gives kind InCascade (fun stmts => Stand kind (Target.stmtNodes stmts))
      (lowerSteps vocabulary true loc degrees steps)
  | [], _ => by
    rw [lowerSteps_nil]
    exact .pure (by simp [Target.stmtNodes])
  | step :: steps, lend => by
    obtain ⟨lendStep, lendRest⟩ := lend_append.mp lend
    cases degrees with
    | nil =>
      change Gives kind InCascade _ (pure [])
      exact .pure (by simp [Target.stmtNodes])
    | cons degree degrees =>
      have at_step : kind (step.loc.or loc) := lends_step lendStep known
      rw [lowerSteps_cons]
      apply Gives.receivers.bind
      intro held _
      split
      · exact .fail at_step
      · apply (Gives.setReceivers _).bind
        intro _ _
        split
        · apply ((gives_stmt .step false step lendStep).inCascade
            (closed_keeps.stmt vocabulary step)).bind
          intro lowered stand
          apply (gives_steps loc known degrees steps lendRest).bind
          intro rest standRest
          exact .pure (by simp [stand, standRest])
        · split
          · exact .fail at_step
          · apply (gives_stored loc known (held.take degree) step lendStep).bind
            intro stored stands
            apply (gives_steps loc known degrees steps lendRest).bind
            intro rest standRest
            exact .pure (by simp [Target.stmtNodes, stands, standRest])

theorem gives_stored (loc : Option Location) (known : kind loc) (held : List String) :
    ∀ step : Script.Stmt, Lend kind (step.nodes .step false) →
    Gives kind InCascade (fun node => Stand kind node.nodes) (lowerStored vocabulary loc held step)
  | .expression _ value, lend => by
    obtain ⟨-, parts⟩ := lend_cons.mp lend
    rw [lowerStored]
    apply ((Gives.fresh cascadeStem).inCascade (keeps_freshName _)).bind
    intro name _
    apply ((gives_expr .step .plain value parts).inCascade (closed_keeps.expr vocabulary value)).bind
    intro value standsValue
    apply (Gives.assignStmt vocabulary known name standsValue).bind
    intro stored stands
    apply (Gives.setReceivers _).bind
    intro _ _
    exact .pure stands
  | .block .., lend | .empty _, lend | .ifElse .., lend | .whileLoop .., lend | .doWhile .., lend
  | .forIn .., lend | .forOf .., lend | .returning .., lend | .breaking _, lend
  | .continuing _, lend | .throwing .., lend | .trying .., lend | .declaring .., lend
  | .function .., lend | .assignment .., lend | .cascade .., lend | .yielding .., lend =>
    .fail (lends_step lend known)

end

end Offside.Lowering
