import Offside.Proofs.FunctionForest
import Offside.Proofs.LeafSteps

/-! In what form functions are lowered. Lowering maps the forest of a script's functions to that of the
target, function by function. Whether a function captures the surrounding `this` is read off the
innermost frame, which tells where the function stands: only the definition of a method and the
functions in its parameters find a method there. -/

namespace Offside.Lowering

open Script (FunctionSite Standing)

variable {pass later : Pass}

/-- Passes in which a method definition is the innermost frame, or in which it is not. -/
structure At (direct : Bool) (pass : Pass) : Prop where
  inMethod : inMethod pass.frames = direct
  faithful : pass.templates.Faithful

theorem At.kept (stands : At direct pass) (kept : Kept pass later) : At direct later := by
  obtain ⟨names, frames⟩ := kept.frames
  exact ⟨by rw [frames, inMethod_extendScope, stands.inMethod], kept.templates stands.faithful⟩

/-- In such passes, what a step gives has a shape, and the pass is left as one of them. -/
def Makes (direct : Bool) (shape : α → Prop) (step : Lower α) : Prop :=
  ∀ pass a later, At direct pass → step pass = (.ok a, later) → shape a ∧ At direct later

@[simp] theorem stmtFunctions_single (stmt : Target.Stmt) :
    Target.stmtFunctions (Expansion.single stmt).toList = stmt.functions := by
  simp [Expansion.toList, Target.stmtFunctions]

namespace Makes

variable {shape : α → Prop} {further : β → Prop}

theorem silent {step : Lower α} (silent : Silent shape step) : Makes direct shape step := by
  intro pass a later stands ran
  obtain ⟨rfl, shaped⟩ := silent pass a later ran
  exact ⟨shaped, stands⟩

theorem pure (shaped : shape a) : Makes direct shape (pure a) := silent (.pure shaped)

theorem fail (fault : Fault) : Makes direct shape (.fail fault) := silent (.fail fault)

theorem bind {first : Lower α} {next : α → Lower β} (makes : Makes direct shape first)
    (rest : ∀ a, shape a → Makes direct further (next a)) :
    Makes direct further (first >>= next) := by
  intro pass b later stands ran
  obtain ⟨a, middle, ranFirst, continued⟩ := Lower.bind_eq_ok.mp ran
  obtain ⟨shaped, standsNext⟩ := makes pass a middle stands ranFirst
  exact rest a shaped middle b later standsNext continued

/-- A last step whose result is known. -/
theorem ends {step : Lower α} (known : Silent (· = value) step) (shaped : shape value) :
    Makes direct shape step := by
  intro pass a later stands ran
  obtain ⟨rfl, rfl⟩ := known pass a later ran
  exact ⟨shaped, stands⟩

/-- A step whose result is known. -/
theorem given {first : Lower α} {next : α → Lower β} (known : Silent (· = value) first)
    (rest : Makes direct further (next value)) : Makes direct further (first >>= next) :=
  (silent known).bind fun _ same => same ▸ rest

theorem fresh (stem : String) : Makes direct (fun _ => True) (freshName stem) := by
  intro pass name later stands ran
  have kept := keeps_freshName stem pass
  rw [ran] at kept
  exact ⟨trivial, stands.kept kept⟩

theorem surroundings : Makes direct (fun frames => inMethod frames = direct) surroundings := by
  intro pass frames later stands ran
  cases ran
  exact ⟨stands.inMethod, stands⟩

theorem receivers : Makes direct (fun _ => True) (receivers true) := by
  intro pass held later stands ran
  obtain ⟨-, rfl⟩ := receivers_eq_ok.mp ran
  exact ⟨trivial, stands⟩

/-- A cascade remains the innermost frame when its receivers change. -/
theorem setReceivers (held : List String) : Makes direct (fun _ => True) (setReceivers true held) := by
  intro pass done later stands ran
  obtain ⟨⟨_, _, cascade⟩, rfl⟩ := setReceivers_eq_ok.mp ran
  have outside : false = direct := by simpa [cascade, Lowering.inMethod] using stands.inMethod
  exact ⟨trivial, outside, stands.faithful⟩

/-- Under a frame of its own, a step finds that frame innermost. -/
theorem withFrame {inner : Bool} {step : Lower α} (makes : Makes inner shape step)
    (enters : ∀ outer, Lowering.inMethod (opening.frame :: outer) = inner)
    (keeps : Keeps (step.withFrame opening)) :
    Makes direct (fun result => shape result.1) (step.withFrame opening) := by
  intro pass result later stands ran
  obtain ⟨under, inside, -, -⟩ := Lower.withFrame_eq_ok.mp ran
  have entered : At inner (pass.push opening) :=
    ⟨enters pass.frames, stands.faithful⟩
  obtain ⟨shaped, -⟩ := makes _ _ under entered inside
  have kept := keeps pass
  rw [ran] at kept
  exact ⟨shaped, stands.kept kept⟩

theorem single {lowering : Lower (Expansion Target.Stmt)}
    {trees : List (FunctionTree Target.FunctionForm)} (name : String)
    (makes : Makes direct (fun expansion => Target.stmtFunctions expansion.toList = trees) lowering) :
    Makes direct (fun stmt => stmt.functions = trees) (single name lowering) := by
  apply makes.bind
  intro expansion seen
  rw [← Expansion.toList_normalize] at seen
  split
  next stmt normal =>
    apply pure
    simpa [normal] using seen
  next => exact fail _

section

variable (vocabulary : Target.Vocabulary)

theorem required {next : Lower α} {kind : Target.NodeKind} (makes : Makes direct shape next) :
    Makes direct shape (require vocabulary kind >>= fun _ => next) :=
  (silent (.require vocabulary kind)).bind fun _ _ => makes

theorem chainLink (loc : Option Location) (op : Target.BinaryOp) (left right : Target.Expr)
    (chain : Option Target.Expr) :
    Makes direct
      (fun link => link.functions =
        Target.optionFunctions chain ++ left.functions ++ right.functions)
      (chainLink vocabulary loc op left right chain) := by
  apply given (.buildExpr vocabulary _)
  cases chain with
  | none => exact pure (by simp [Target.Expr.functions, Target.optionFunctions])
  | some chain =>
    apply ends (.buildExpr vocabulary _)
    simp [Target.Expr.functions, Target.optionFunctions]

theorem floorDivision (left right : Target.Expr) (loc : Option Location) :
    Makes direct (fun built => built.functions = left.functions ++ right.functions)
      (instantiate vocabulary floorDivision [("left", left), ("right", right)] loc) := by
  intro pass built later stands ran
  obtain ⟨rfl, rfl⟩ := instantiate_floorDivision_ok stands.faithful ran
  exact ⟨by simp [floorCall, Target.Expr.functions, Target.exprFunctions],
    stands.inMethod, stands.faithful.get_snd _⟩

theorem applyGenerator (generator : Target.Expr) (loc : Option Location) :
    Makes direct (fun built => built.functions = generator.functions)
      (instantiate vocabulary applyGenerator [("fn", generator)] loc) := by
  intro pass built later stands ran
  obtain ⟨rfl, rfl⟩ := instantiate_applyGenerator_ok stands.faithful ran
  exact ⟨by simp [applyCall, Target.Expr.functions, Target.exprFunctions],
    stands.inMethod, stands.faithful.get_snd _⟩

/-- A function has the form that its site asks for. -/
theorem functionExpr (loc : Option Location) (site : FunctionSite)
    {params : List Target.Expr} {body : Target.Block}
    {paramTrees bodyTrees : List (FunctionTree FunctionSite)}
    (inParams : Target.exprFunctions params = loweredAll paramTrees)
    (inBody : body.functions = loweredAll bodyTrees) :
    Makes direct (fun built => built.functions = [loweredTree (.mk site paramTrees bodyTrees)])
      (functionExpr vocabulary loc site.loc site.captures site.generator site.async params body) := by
  unfold Lowering.functionExpr
  cases captures : site.captures with
  | false =>
    apply ends (.buildExpr vocabulary _)
    simp [Target.Expr.functions, Target.Function.tree, loweredTree, formOf, captures, inParams, inBody]
  | true =>
    cases generator : site.generator with
    | false =>
      apply ends (.buildExpr vocabulary _)
      simp [Target.Expr.functions, Target.Function.tree, loweredTree, formOf, captures, generator,
        inParams, inBody]
    | true =>
      apply given (.buildExpr vocabulary _)
      apply (applyGenerator vocabulary _ loc).bind
      intro applied inApplied
      apply given (.buildStmt vocabulary _)
      apply required
      apply ends (.buildExpr vocabulary _)
      simp [Target.Expr.functions, Target.Function.tree, Target.Block.functions,
        Target.stmtFunctions, Target.Stmt.functions, Target.optionFunctions, Target.exprFunctions,
        loweredTree, formOf, generatorForm, captures, generator, inParams, inBody, inApplied]

theorem declareNames (loc : Option Location) (names : List String) :
    Makes direct (fun stmts => Target.stmtFunctions stmts = []) (declareNames vocabulary loc names) := by
  have plain : Target.declaratorFunctions
      (names.map fun name => .mk loc (.identifier loc name) none) = [] := by
    induction names with
    | nil => rfl
    | cons name names ih =>
      simp [Target.declaratorFunctions, Target.Declarator.functions, Target.Expr.functions,
        Target.optionFunctions, ih]
  unfold Lowering.declareNames
  split
  · exact pure (by simp [Target.stmtFunctions])
  · apply given (.declareAll vocabulary loc names)
    apply given (.buildStmt vocabulary _)
    exact pure (by simp [Target.stmtFunctions, Target.Stmt.functions, plain])

end

end Makes

/-- What the statements of a list became, one by one. -/
def Matched (stmts : List Script.Stmt) (lowered : List (List Target.Stmt)) : Prop :=
  List.Forall₂ (fun stmt items => Target.stmtFunctions items = loweredAll stmt.functions) stmts lowered

theorem Matched.picked (matched : Matched stmts lowered) (hoisted : Bool) {p : Script.Stmt → Bool}
    (agrees : ∀ stmt, p stmt = (stmt.isHoisted == hoisted)) :
    Target.stmtFunctions (((stmts.zip lowered).filter fun pair => p pair.1).flatMap Prod.snd) =
      loweredAll (Script.pickedFunctions hoisted stmts) := by
  induction matched with
  | nil => rfl
  | @cons stmt items stmts lowered same _ ih =>
    rw [List.zip_cons_cons, List.filter_cons, Script.pickedFunctions, agrees]
    split
    · simp [same, ih]
    · exact ih

/-- Functions come in the order in which their statements are hoisted. -/
theorem Matched.hoist (matched : Matched stmts lowered) :
    Target.stmtFunctions (hoist stmts lowered) =
      loweredAll (Script.pickedFunctions true stmts ++ Script.pickedFunctions false stmts) := by
  have functions := matched.picked true (p := Script.Stmt.isHoisted) (by simp)
  have others := matched.picked false (p := fun stmt => !stmt.isHoisted) (by simp)
  rw [Lowering.hoist, Target.stmtFunctions_append, functions, others, loweredAll_append]

theorem Makes.listBody (vocabulary : Target.Vocabulary) (loc : Option Location)
    {lowering : Lower (List (List Target.Stmt))} (makes : Makes false (Matched stmts) lowering)
    (keeps : Keeps lowering) :
    Makes direct
      (fun body => Target.stmtFunctions body =
        loweredAll (Script.pickedFunctions true stmts ++ Script.pickedFunctions false stmts))
      (listBody vocabulary loc stmts lowering) := by
  apply (makes.withFrame (fun _ => rfl) keeps.withScope).bind
  rintro ⟨lowered, frame⟩ matched
  cases frame with
  | scope names =>
    apply (Makes.declareNames vocabulary loc names).bind
    intro declarations none
    exact .pure (by rw [Target.stmtFunctions_append, none, matched.hoist, List.nil_append])
  | cascade _ | method => exact .fail _

variable (vocabulary : Target.Vocabulary)

mutual

theorem makes_expr (standing : Standing) : ∀ node : Script.Expr,
    Makes standing.direct (fun built => built.functions = loweredAll (node.functions standing))
      (lowerExpr vocabulary node)
  | .identifier .. | .literal .. | .thisObject _ => by
    rw [lowerExpr]
    apply Makes.required
    exact .pure (by simp [Target.Expr.functions, Script.Expr.functions])
  | .virtualObject loc => by
    rw [lowerExpr]
    apply Makes.surroundings.bind
    intro frames _
    split
    next receiver _ =>
      apply Makes.ends (.identifier vocabulary loc receiver)
      simp [Target.Expr.functions, Script.Expr.functions]
    next => exact .fail _
  | .array _ items | .sequence _ items => by
    rw [lowerExpr]
    apply Makes.required
    apply (makes_exprs standing items).bind
    intro items same
    exact .pure (by simp [Target.Expr.functions, Script.Expr.functions, same])
  | .object _ properties => by
    rw [lowerExpr]
    apply Makes.required
    apply (makes_properties standing properties).bind
    intro properties same
    exact .pure (by simp [Target.Expr.functions, Script.Expr.functions, same])
  | .function loc definition => by
    rw [lowerExpr]
    simpa [Script.Expr.functions] using makes_function standing loc definition
  | .unary _ _ argument | .awaiting _ argument => by
    rw [lowerExpr]
    apply Makes.required
    apply (makes_expr standing argument).bind
    intro argument same
    exact .pure (by simp [Target.Expr.functions, Script.Expr.functions, same])
  | .binary loc op left right => by
    rw [lowerExpr]
    apply (makes_expr standing left).bind
    intro left sameLeft
    apply (makes_expr standing right).bind
    intro right sameRight
    split
    next op _ =>
      apply Makes.ends (.buildExpr vocabulary _)
      simp [Target.Expr.functions, Script.Expr.functions, sameLeft, sameRight]
    next =>
      simpa [Script.Expr.functions, sameLeft, sameRight] using
        Makes.floorDivision vocabulary left right loc
  | .logical _ _ left right | .assignment _ _ left right | .member _ left right _ => by
    rw [lowerExpr]
    apply Makes.required
    apply (makes_expr standing left).bind
    intro left sameLeft
    apply (makes_expr standing right).bind
    intro right sameRight
    exact .pure (by simp [Target.Expr.functions, Script.Expr.functions, sameLeft, sameRight])
  | .conditional _ test consequent alternate => by
    rw [lowerExpr]
    apply Makes.required
    apply (makes_expr standing test).bind
    intro test sameTest
    apply (makes_expr standing consequent).bind
    intro consequent sameConsequent
    apply (makes_expr standing alternate).bind
    intro alternate sameAlternate
    exact .pure (by simp [Target.Expr.functions, Script.Expr.functions, sameTest, sameConsequent,
      sameAlternate])
  | .call _ callee arguments | .construct _ callee arguments => by
    rw [lowerExpr]
    apply Makes.required
    apply (makes_expr standing callee).bind
    intro callee sameCallee
    apply (makes_exprs standing arguments).bind
    intro items same
    exact .pure (by simp [Target.Expr.functions, Script.Expr.functions, sameCallee, same])
  | .yielding _ argument _ => by
    rw [lowerExpr]
    apply Makes.required
    apply (makes_option standing argument).bind
    intro argument same
    exact .pure (by simp [Target.Expr.functions, Script.Expr.functions, same])
  | .compareChain loc [] operators => by
    rw [lowerExpr_compareChain_fail vocabulary loc (.inr (by simp))]
    exact .fail _
  | .compareChain loc (first :: operands) [] => by
    rw [lowerExpr_compareChain_fail vocabulary loc (.inl rfl)]
    exact .fail _
  | .compareChain loc (first :: operands) (op :: operators) => by
    by_cases fit : operands.length = operators.length + 1
    · rw [lowerExpr_compareChain_cons vocabulary loc first op fit]
      apply (Makes.silent (.comparison op)).bind
      intro op _
      apply (makes_expr standing first).bind
      intro left sameLeft
      simpa [Script.Expr.functions, Script.exprFunctions, Target.optionFunctions, sameLeft] using
        makes_chain standing loc op left none operators operands fit
    · rw [lowerExpr_compareChain_fail vocabulary loc (.inr (by simpa using fit))]
      exact .fail _

theorem makes_exprs (standing : Standing) : ∀ nodes : List Script.Expr,
    Makes standing.direct
      (fun built => Target.exprFunctions built = loweredAll (Script.exprFunctions standing nodes))
      (lowerExprs vocabulary nodes)
  | [] => by
    rw [lowerExprs]
    exact .pure (by simp [Target.exprFunctions, Script.exprFunctions])
  | node :: nodes => by
    rw [lowerExprs]
    apply (makes_expr standing node).bind
    intro first sameFirst
    apply (makes_exprs standing nodes).bind
    intro rest sameRest
    exact .pure (by simp [Target.exprFunctions, Script.exprFunctions, sameFirst, sameRest])

theorem makes_option (standing : Standing) : ∀ node : Option Script.Expr,
    Makes standing.direct
      (fun built => Target.optionFunctions built = loweredAll (Script.optionFunctions standing node))
      (lowerOption vocabulary node)
  | none => by
    rw [lowerOption]
    exact .pure (by simp [Target.optionFunctions, Script.optionFunctions])
  | some node => by
    rw [lowerOption]
    apply (makes_expr standing node).bind
    intro built same
    exact .pure (by simpa [Target.optionFunctions, Script.optionFunctions] using same)

/-- The operands come after what the chain holds already. The names that stand for operands hold no
functions. -/
theorem makes_chain (standing : Standing) (loc : Option Location) (op : Target.BinaryOp)
    (left : Target.Expr) (before : Option Target.Expr) (operators : List Script.BinaryOp) :
    ∀ operands : List Script.Expr, operands.length = operators.length + 1 →
      Makes standing.direct
        (fun built => built.functions = Target.optionFunctions before ++ left.functions ++
          loweredAll (Script.exprFunctions standing operands))
        (lowerChain vocabulary loc op left before operators operands)
  | [], fit => by simp at fit
  | operand :: operands, fit => by
    cases operators with
    | nil =>
      obtain rfl : operands = [] := by simpa using fit
      rw [lowerChain_last]
      apply (makes_expr standing operand).bind
      intro right same
      simpa [Script.exprFunctions, same] using Makes.chainLink vocabulary loc op left right before
    | cons next operators =>
      rw [lowerChain_cons]
      apply (Makes.fresh tempStem).bind
      intro name _
      apply (makes_expr standing operand).bind
      intro value same
      apply Makes.given (.assign vocabulary loc name value)
      apply (Makes.chainLink vocabulary loc op left _ before).bind
      intro link sameLink
      apply (Makes.silent (.comparison next)).bind
      intro op _
      apply Makes.given (.identifier vocabulary loc name)
      have rest := makes_chain standing loc op (.identifier loc name) (some link) operators operands
        (by simpa using fit)
      simpa [Script.exprFunctions, Target.optionFunctions, Target.Expr.functions, sameLink, same]
        using rest

theorem makes_property (standing : Standing) : ∀ node : Script.Property,
    Makes standing.direct (fun built => built.functions = loweredAll (node.functions standing))
      (lowerProperty vocabulary node)
  | .keyValue _ key value => by
    rw [lowerProperty]
    apply (makes_expr standing key).bind
    intro key sameKey
    apply (makes_expr standing value).bind
    intro value sameValue
    apply Makes.required
    exact .pure (by simp [Target.Property.functions, Script.Property.functions, sameKey, sameValue])
  | .method loc key definition => by
    rw [lowerProperty]
    apply (makes_expr standing key).bind
    intro key sameKey
    have inside := makes_function .definition (definition.loc.or loc) definition
    have keeps := closed_keeps.function vocabulary (definition.loc.or loc) definition
    apply (inside.withFrame (fun _ => rfl) keeps.withMethod).bind
    rintro ⟨value, _⟩ sameValue
    apply Makes.required
    exact .pure (by simpa [Target.Property.functions, Script.Property.functions, sameKey] using
      sameValue)

theorem makes_properties (standing : Standing) : ∀ nodes : List Script.Property,
    Makes standing.direct
      (fun built => Target.propertyFunctions built =
        loweredAll (Script.propertyFunctions standing nodes))
      (lowerProperties vocabulary nodes)
  | [] => by
    rw [lowerProperties]
    exact .pure (by simp [Target.propertyFunctions, Script.propertyFunctions])
  | node :: nodes => by
    rw [lowerProperties]
    apply (makes_property standing node).bind
    intro first sameFirst
    apply (makes_properties standing nodes).bind
    intro rest sameRest
    exact .pure (by simp [Target.propertyFunctions, Script.propertyFunctions, sameFirst, sameRest])

theorem makes_function (standing : Standing) (loc : Option Location) : ∀ node : Script.Function,
    Makes standing.direct (fun built => built.functions = [loweredTree (node.tree standing loc)])
      (lowerFunction vocabulary loc node)
  | .mk own params body bound generator async => by
    rw [lowerFunction]
    apply Makes.surroundings.bind
    intro frames innermost
    rw [innermost]
    dsimp only
    split
    · exact .fail _
    · have inParams := makes_exprs standing.inParams params
      rw [Standing.direct_inParams] at inParams
      apply inParams.bind
      intro params sameParams
      apply (makes_block standing.direct loc body).bind
      intro body sameBody
      exact .functionExpr vocabulary loc ⟨standing, own.or loc, bound, generator, async⟩ sameParams
        sameBody

/-- The statements of a block stand in its scope, whatever is around the block. -/
theorem makes_block (direct : Bool) (loc : Option Location) : ∀ node : Script.Block,
    Makes direct (fun built => built.functions = loweredAll node.functions)
      (lowerBlock vocabulary loc node)
  | .mk own body => by
    rw [lowerBlock_eq]
    apply (Makes.listBody vocabulary (own.or loc) (makes_stmts body)
      (closed_keeps.stmts vocabulary body)).bind
    intro stmts same
    apply Makes.required
    exact .pure (by simpa [Target.Block.functions, Script.Block.functions] using same)

theorem makes_handler (loc : Option Location) : ∀ node : Option Script.Catch,
    Makes false
      (fun built => Target.handlerFunctions built = loweredAll (Script.handlerFunctions node))
      (lowerHandler vocabulary loc node)
  | none => by
    rw [lowerHandler]
    exact .pure (by simp [Target.handlerFunctions, Script.handlerFunctions])
  | some (.mk own param body) => by
    rw [lowerHandler]
    apply (makes_option .elsewhere param).bind
    intro param sameParam
    apply (makes_block _ loc body).bind
    intro body sameBody
    apply Makes.required
    exact .pure (by simp [Target.handlerFunctions, Script.handlerFunctions, sameParam, sameBody])

theorem makes_finalizer (loc : Option Location) : ∀ node : Option Script.Block,
    Makes false
      (fun built => Target.finalizerFunctions built = loweredAll (Script.finalizerFunctions node))
      (lowerFinalizer vocabulary loc node)
  | none => by
    rw [lowerFinalizer]
    exact .pure (by simp [Target.finalizerFunctions, Script.finalizerFunctions])
  | some node => by
    rw [lowerFinalizer]
    apply (makes_block _ loc node).bind
    intro block same
    exact .pure (by simpa [Target.finalizerFunctions, Script.finalizerFunctions] using same)

theorem makes_declarator (loc : Option Location) : ∀ node : Script.Declarator,
    Makes false (fun built => built.functions = loweredAll node.functions)
      (lowerDeclarator vocabulary loc node)
  | .mk own id init _ => by
    rw [lowerDeclarator]
    apply (makes_expr .elsewhere id).bind
    intro id sameId
    apply (makes_option .elsewhere init).bind
    intro init sameInit
    apply Makes.ends (.declarator vocabulary _ _ _)
    simp [Target.Declarator.functions, Script.Declarator.functions, sameId, sameInit]

theorem makes_runs (loc : Option Location) (constant : Bool) (run : List Target.Declarator) :
    ∀ nodes : List Script.Declarator,
      Makes false
        (fun built => Target.stmtFunctions built =
          Target.declaratorFunctions run ++ loweredAll (Script.declaratorFunctions nodes))
        (lowerRuns vocabulary loc constant run nodes)
  | [] => by
    rw [lowerRuns]
    apply Makes.given (.buildStmt vocabulary _)
    exact .pure (by simp [Target.stmtFunctions, Target.Stmt.functions, Script.declaratorFunctions])
  | node :: nodes => by
    rw [lowerRuns]
    split
    · apply (makes_declarator loc node).bind
      intro lowered same
      simpa [Target.declaratorFunctions, Script.declaratorFunctions, same] using
        makes_runs loc constant (run ++ [lowered]) nodes
    · apply Makes.given (.buildStmt vocabulary _)
      apply (makes_declarator loc node).bind
      intro lowered same
      apply (makes_runs loc node.constant [lowered] nodes).bind
      intro rest sameRest
      exact .pure (by simp [Target.stmtFunctions, Target.Stmt.functions, Target.declaratorFunctions,
        Script.declaratorFunctions, same, sameRest])

theorem makes_stmt : ∀ node : Script.Stmt,
    Makes false
      (fun expansion => Target.stmtFunctions expansion.toList = loweredAll node.functions)
      (lowerStmt vocabulary node)
  | .expression _ value | .throwing _ value => by
    rw [lowerStmt]
    apply Makes.required
    apply (makes_expr .elsewhere value).bind
    intro value same
    exact .pure (by simp [Target.Stmt.functions, Script.Stmt.functions, same])
  | .block _ body => by
    rw [lowerStmt]
    apply (makes_block _ _ body).bind
    intro body same
    apply Makes.given (.buildStmt vocabulary _)
    exact .pure (by simp [Target.Stmt.functions, Script.Stmt.functions, same])
  | .empty _ | .breaking _ | .continuing _ => by
    rw [lowerStmt]
    apply Makes.required
    exact .pure (by simp [Target.Stmt.functions, Script.Stmt.functions])
  | .ifElse _ test consequent none => by
    rw [lowerStmt]
    apply Makes.required
    apply (makes_expr .elsewhere test).bind
    intro test sameTest
    apply ((makes_stmt consequent).single _).bind
    intro consequent sameConsequent
    exact .pure (by simp [Target.Stmt.functions, Script.Stmt.functions, sameTest, sameConsequent])
  | .ifElse _ test consequent (some alternate) => by
    rw [lowerStmt]
    apply Makes.required
    apply (makes_expr .elsewhere test).bind
    intro test sameTest
    apply ((makes_stmt consequent).single _).bind
    intro consequent sameConsequent
    apply ((makes_stmt alternate).single _).bind
    intro alternate sameAlternate
    exact .pure (by simp [Target.Stmt.functions, Script.Stmt.functions, sameTest, sameConsequent,
      sameAlternate])
  | .whileLoop _ test body => by
    rw [lowerStmt]
    apply Makes.required
    apply (makes_expr .elsewhere test).bind
    intro test sameTest
    apply ((makes_stmt body).single _).bind
    intro body sameBody
    exact .pure (by simp [Target.Stmt.functions, Script.Stmt.functions, sameTest, sameBody])
  | .doWhile _ body test => by
    rw [lowerStmt]
    apply Makes.required
    apply ((makes_stmt body).single _).bind
    intro body sameBody
    apply (makes_expr .elsewhere test).bind
    intro test sameTest
    exact .pure (by simp [Target.Stmt.functions, Script.Stmt.functions, sameTest, sameBody])
  | .forIn _ left right body | .forOf _ left right body => by
    rw [lowerStmt]
    apply Makes.required
    apply (makes_expr .elsewhere left).bind
    intro left sameLeft
    apply (makes_expr .elsewhere right).bind
    intro right sameRight
    apply ((makes_stmt body).single _).bind
    intro body sameBody
    exact .pure (by simp [Target.Stmt.functions, Script.Stmt.functions, sameLeft, sameRight,
      sameBody])
  | .returning _ argument => by
    rw [lowerStmt]
    apply Makes.required
    apply (makes_option .elsewhere argument).bind
    intro argument same
    exact .pure (by simp [Target.Stmt.functions, Script.Stmt.functions, same])
  | .trying loc block handler finalizer => by
    rw [lowerStmt]
    apply Makes.required
    apply (makes_block _ loc block).bind
    intro block sameBlock
    apply (makes_handler loc handler).bind
    intro handler sameHandler
    apply (makes_finalizer loc finalizer).bind
    intro finalizer sameFinalizer
    exact .pure (by simp [Target.Stmt.functions, Script.Stmt.functions, sameBlock, sameHandler,
      sameFinalizer])
  | .declaring _ [] => by
    rw [lowerStmt]
    exact .fail _
  | .declaring loc (first :: declarators) => by
    rw [lowerStmt]
    apply (makes_runs loc first.constant [] (first :: declarators)).bind
    intro stmts same
    apply Makes.pure
    rw [Expansion.toList_normalize]
    simpa [Expansion.toList, Target.declaratorFunctions, Script.Stmt.functions] using same
  | .function loc id definition => by
    rw [lowerStmt]
    apply (makes_expr .elsewhere id).bind
    intro id sameId
    apply (makes_function .elsewhere (definition.loc.or loc) definition).bind
    intro value sameValue
    apply Makes.given (.declarator vocabulary loc id (some value))
    apply Makes.given (.buildStmt vocabulary _)
    exact .pure (by simp [Target.Stmt.functions, Target.declaratorFunctions,
      Target.Declarator.functions, Target.optionFunctions, Script.Stmt.functions, sameId, sameValue])
  | .assignment _ _ left right => by
    rw [lowerStmt]
    apply (makes_expr .elsewhere left).bind
    intro left sameLeft
    apply (makes_expr .elsewhere right).bind
    intro right sameRight
    apply Makes.given (.buildExpr vocabulary _)
    apply Makes.given (.buildStmt vocabulary _)
    exact .pure (by simp [Target.Stmt.functions, Target.Expr.functions, Script.Stmt.functions,
      sameLeft, sameRight])
  | .cascade loc root steps degrees => by
    rw [lowerStmt]
    split
    · exact .fail _
    next fit =>
      apply (Makes.fresh rootStem).bind
      intro name _
      apply (makes_expr .elsewhere root).bind
      intro root sameRoot
      apply Makes.given (.assignStmt vocabulary loc name root)
      have inSteps := makes_steps loc degrees steps (by simpa using fit)
      have keeps := closed_keeps.cascadeSteps vocabulary loc degrees steps
      apply (inSteps.withFrame (fun _ => rfl) (keeps.withCascade name)).bind
      rintro ⟨rest, _⟩ sameRest
      apply Makes.pure
      simpa [Expansion.toList, Target.stmtFunctions, Target.Stmt.functions, Target.Expr.functions,
        Script.Stmt.functions, sameRoot] using sameRest
  | .yielding _ argument => by
    rw [lowerStmt]
    apply (makes_option .elsewhere argument).bind
    intro argument same
    apply Makes.given (.buildExpr vocabulary _)
    apply Makes.given (.buildStmt vocabulary _)
    exact .pure (by simp [Target.Stmt.functions, Target.Expr.functions, Script.Stmt.functions, same])

theorem makes_stmts : ∀ nodes : List Script.Stmt,
    Makes false (Matched nodes) (lowerStmts vocabulary nodes)
  | [] => by
    rw [lowerStmts]
    exact .pure .nil
  | node :: nodes => by
    rw [lowerStmts]
    apply (makes_stmt node).bind
    intro first same
    apply (makes_stmts nodes).bind
    intro rest matched
    exact .pure (.cons same matched)

/-- Every step has a degree, so that no step is left out. -/
theorem makes_steps (loc : Option Location) (degrees : List Nat) : ∀ steps : List Script.Stmt,
    steps.length = degrees.length →
      Makes false
        (fun built => Target.stmtFunctions built = loweredAll (Script.stmtFunctions steps))
        (lowerSteps vocabulary true loc degrees steps)
  | [], _ => by
    rw [lowerSteps_nil]
    exact .pure (by simp [Target.stmtFunctions, Script.stmtFunctions])
  | step :: steps, fit => by
    cases degrees with
    | nil => simp at fit
    | cons degree degrees =>
      have rest := makes_steps loc degrees steps (by simpa using fit)
      rw [lowerSteps_cons]
      apply Makes.receivers.bind
      intro held _
      split
      · exact .fail _
      · apply (Makes.setReceivers _).bind
        intro _ _
        split
        · apply (makes_stmt step).bind
          intro lowered same
          apply rest.bind
          intro others sameOthers
          exact .pure (by simp [Script.stmtFunctions, same, sameOthers])
        · split
          · exact .fail _
          · apply (makes_stored loc (held.take degree) step).bind
            intro stored same
            apply rest.bind
            intro others sameOthers
            exact .pure (by simp [Target.stmtFunctions, Script.stmtFunctions, same, sameOthers])

theorem makes_stored (loc : Option Location) (held : List String) : ∀ step : Script.Stmt,
    Makes false (fun built => built.functions = loweredAll step.functions)
      (lowerStored vocabulary loc held step)
  | .expression _ value => by
    rw [lowerStored]
    apply (Makes.fresh cascadeStem).bind
    intro name _
    apply (makes_expr .elsewhere value).bind
    intro value same
    apply Makes.given (.assignStmt vocabulary loc name value)
    apply (Makes.setReceivers _).bind
    intro _ _
    exact .pure (by simp [Target.Stmt.functions, Target.Expr.functions, Script.Stmt.functions, same])
  | .block .. | .empty _ | .ifElse .. | .whileLoop .. | .doWhile .. | .forIn .. | .forOf ..
  | .returning .. | .breaking _ | .continuing _ | .throwing .. | .trying .. | .declaring ..
  | .function .. | .assignment .. | .cascade .. | .yielding .. => .fail _

end

private theorem makes_program (program : Script.Program) :
    Makes false (fun built => built.functions = loweredAll program.functions)
      (lowerProgram vocabulary program) := by
  rw [lowerProgram_eq]
  apply (Makes.listBody vocabulary program.loc (makes_stmts vocabulary program.body)
    (closed_keeps.stmts vocabulary program.body)).bind
  intro body same
  apply Makes.required
  exact .pure same

namespace Engine

/-- Lowering keeps the forest of functions, but for the generators that capturing generators call. A
function that does not say whether it is bound is lowered to an arrow function, unless it is the
definition of a method or stands in the parameters of one with no body between. -/
theorem functions_lowered (vocabulary : Target.Vocabulary) (earlier : List Script.Program)
    (program : Script.Program) (lowered : Target.Program)
    (ran : (((Engine.mk vocabulary {}).after earlier).lower program).1 = .ok lowered) :
    lowered.functions = loweredAll program.functions ∧
      ∀ site : FunctionSite, site.bound = none →
        ((formOf site).arrow = true ↔ site.standing = .elsewhere) := by
  obtain ⟨later, ran, -⟩ := lower_fst_eq_ok.mp ran
  rw [after_vocabulary] at ran
  have outside : At false (((Engine.mk vocabulary {}).after earlier).start program) :=
    ⟨rfl, after_faithful .empty earlier⟩
  obtain ⟨same, -⟩ := makes_program vocabulary program _ lowered later outside ran
  exact ⟨same, fun site unspecified => arrow_formOf_iff unspecified⟩

/-- A function without parameters that does nothing. -/
def idleFunction : Script.Expr := .function none (.mk none [] (.mk none []) none false false)

/-- An object with one method. -/
def oneMethod (params : List Script.Expr) (body : List Script.Stmt) : Script.Program :=
  ⟨none, [.expression none (.object none [.method none (.identifier none "m")
    (.mk none params (.mk none body) none false false)])]⟩

theorem functions_lowered_oneMethod : ∃ lowered,
    (((Engine.mk .full {}).after []).lower
      (oneMethod [idleFunction] [.expression none idleFunction])).1 = .ok lowered ∧
    lowered.functions =
      [.mk ⟨false, none, false, false⟩
        [.mk ⟨false, none, false, false⟩ [] []] [.mk ⟨true, none, false, false⟩ [] []]] := by
  have evaluated : (((Engine.mk .full {}).after []).lower
      (oneMethod [idleFunction] [.expression none idleFunction])).1.isOk = true := by decide +kernel
  cases ran : (((Engine.mk .full {}).after []).lower
      (oneMethod [idleFunction] [.expression none idleFunction])).1 with
  | error fault =>
    rw [ran] at evaluated
    cases evaluated
  | ok lowered =>
    obtain ⟨same, -⟩ := functions_lowered .full [] _ lowered ran
    exact ⟨lowered, rfl, same⟩

/-- The function in the parameters is not the definition of the method, and yet it captures nothing. -/
theorem parameter_function_plain :
    (oneMethod [idleFunction] []).functions =
      [.mk ⟨.definition, none, none, false, false⟩
        [.mk ⟨.parameters, none, none, false, false⟩ [] []] []] ∧
    ∃ lowered, (({} : Engine).lower (oneMethod [idleFunction] [])).1 = .ok lowered ∧
      lowered.functions =
        [.mk ⟨false, none, false, false⟩ [.mk ⟨false, none, false, false⟩ [] []] []] := by
  constructor
  · rfl
  · have evaluated : (({} : Engine).lower (oneMethod [idleFunction] [])).1.map Target.Program.functions =
        .ok [.mk ⟨false, none, false, false⟩ [.mk ⟨false, none, false, false⟩ [] []] []] := by
      with_unfolding_all rfl
    cases ran : (({} : Engine).lower (oneMethod [idleFunction] [])).1 with
    | error fault =>
      rw [ran] at evaluated
      cases evaluated
    | ok lowered =>
      rw [ran] at evaluated
      exact ⟨lowered, rfl, Except.ok.inj evaluated⟩

end Engine

end Offside.Lowering
