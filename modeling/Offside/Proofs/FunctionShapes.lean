import Offside.Proofs.FunctionImages

/-! The shapes of the functions in lowered programs. No arrow function generates, and a property is
a method exactly where its value is a function of its own. Both are read off the images of the
functions and properties of the script, of which the target is made. -/

namespace Offside.Lowering

variable {vocabulary : Target.Vocabulary} {source : List Script.Piece} {direct : Bool}

namespace Makes

theorem imp {shape further : α → Prop} {step : Lower α} (makes : Makes direct shape step)
    (weaker : ∀ a, shape a → further a) : Makes direct further step := by
  intro pass a later stands ran
  obtain ⟨shaped, standsLater⟩ := makes pass a later stands ran
  exact ⟨weaker a shaped, standsLater⟩

/-- What a step gives was given in some pass. -/
theorem lowersTo {shape : α → Prop} {step : Lower α} (makes : Makes direct shape step) :
    Makes direct (fun a => shape a ∧ LowersTo step a) step := by
  intro pass a later stands ran
  obtain ⟨shaped, standsLater⟩ := makes pass a later stands ran
  exact ⟨⟨shaped, pass, later, ran⟩, standsLater⟩

theorem singleImages {lowering : Lower (Expansion Target.Stmt)} (name : String)
    (makes : Makes direct
      (fun expansion => Images vocabulary source
        (Target.pieces (Target.stmtNodes expansion.toList))) lowering) :
    Makes direct (fun stmt => Images vocabulary source (Target.pieces stmt.nodes))
      (Lowering.single name lowering) := by
  apply makes.bind
  intro expansion images
  rw [← Expansion.toList_normalize] at images
  split
  next stmt normal =>
    apply pure
    simpa [normal, Expansion.toList, Target.stmtNodes] using images
  next => exact fail _

theorem chainPieces (loc : Option Location) (op : Target.BinaryOp) (left right : Target.Expr)
    (chain : Option Target.Expr) :
    Makes direct
      (fun link => Target.pieces (link.nodes .plain) =
        Target.pieces (Target.optionNodes chain) ++ Target.pieces (left.nodes .plain) ++
          Target.pieces (right.nodes .plain))
      (Lowering.chainLink vocabulary loc op left right chain) := by
  apply given (.buildExpr vocabulary _)
  cases chain with
  | none => exact pure (by simp [Target.Expr.nodes, Target.optionNodes])
  | some chain =>
    apply ends (.buildExpr vocabulary _)
    simp [Target.Expr.nodes, Target.optionNodes]

private theorem floorPieces (left right : Target.Expr) (loc : Option Location) :
    Makes direct
      (fun built => Target.pieces (built.nodes .plain) =
        Target.pieces (left.nodes .plain) ++ Target.pieces (right.nodes .plain))
      (instantiate vocabulary Lowering.floorDivision [("left", left), ("right", right)] loc) := by
  intro pass built later stands ran
  obtain ⟨rfl, rfl⟩ := instantiate_floorDivision_ok stands.faithful ran
  exact ⟨by simp [floorCall, Target.Expr.nodes, Target.exprNodes],
    stands.inMethod, stands.faithful.get_snd _⟩

theorem applied (generator : Target.Expr) (loc : Option Location) :
    Makes direct (· = applyCall loc generator)
      (instantiate vocabulary Lowering.applyGenerator [("fn", generator)] loc) := by
  intro pass built later stands ran
  obtain ⟨rfl, rfl⟩ := instantiate_applyGenerator_ok stands.faithful ran
  exact ⟨rfl, stands.inMethod, stands.faithful.get_snd _⟩

/-- A lowered function takes the form that becomes it. It is written as a function of its own just
where it does not capture the surrounding `this`. -/
private theorem functionImages {own loc : Option Location} {params : List Script.Expr}
    {body : Script.Block}
    {bound : Option Bool} {captures generator async : Bool} {params' : List Target.Expr}
    {body' : Target.Block} {parts : List Script.Piece}
    (allowed : (captures && generator && async) = false)
    (inParams : LowersTo (lowerExprs vocabulary params) params')
    (inBody : LowersTo (lowerBlock vocabulary loc body) body')
    (images : Images vocabulary parts
      (Target.pieces (Target.exprNodes params') ++ Target.pieces body'.nodes)) :
    Makes direct
      (fun built =>
        Images vocabulary (.function captures (.mk own params body bound generator async) :: parts)
            (Target.pieces (built.nodes .plain)) ∧
          (built.isFunction = true ↔ captures = false))
      (Lowering.functionExpr vocabulary loc (own.or loc) captures generator async params'
        body') := by
  unfold Lowering.functionExpr
  cases captures with
  | false =>
    apply ends (.buildExpr vocabulary _)
    refine ⟨?_, by simp [Target.Expr.isFunction]⟩
    simpa [Target.Expr.nodes, Target.Function.nodes] using images.cons (.function inParams inBody)
  | true =>
    cases generator with
    | false =>
      apply ends (.buildExpr vocabulary _)
      refine ⟨?_, by simp [Target.Expr.isFunction]⟩
      simpa [Target.Expr.nodes, Target.Function.nodes] using images.cons (.arrow inParams inBody)
    | true =>
      obtain rfl : async = false := by simpa using allowed
      apply given (.buildExpr vocabulary _)
      apply (applied _ loc).bind
      rintro _ rfl
      apply given (.buildStmt vocabulary _)
      apply required
      apply ends (.buildExpr vocabulary _)
      refine ⟨?_, by simp [Target.Expr.isFunction]⟩
      -- The generator stands behind the parameters of the arrow function.
      apply (images.cons (.generator inParams inBody rfl)).reorder
      simp [applyCall, Target.Expr.nodes, Target.Function.nodes, Target.Block.nodes,
        Target.Stmt.nodes, Target.stmtNodes, Target.optionNodes, Target.exprNodes]

/-- The names declared at the top of a body bring no functions. -/
theorem scopeImages (loc : Option Location) {stmts : List Script.Stmt}
    {lowering : Lower (List (List Target.Stmt))}
    (makes : Makes false
      (fun lowered => Images vocabulary source
        (Target.pieces (Target.stmtNodes (hoist stmts lowered)))) lowering)
    (keeps : Keeps lowering) :
    Makes direct (fun body => Images vocabulary source (Target.pieces (Target.stmtNodes body)))
      (Lowering.listBody vocabulary loc stmts lowering) := by
  apply (makes.withFrame (fun _ => rfl) keeps.withScope).bind
  rintro ⟨lowered, frame⟩ images
  cases frame with
  | scope names =>
    apply given (silent_nameDeclaration vocabulary loc names)
    apply pure
    simpa [pieces_nameDeclaration] using images
  | cascade _ | method => exact fail _

end Makes

variable (vocabulary)

mutual

theorem images_expr (place : Script.Place) : ∀ node : Script.Expr,
    Makes place.inMethod
      (fun built => Images vocabulary (Script.pieces (node.nodes place .plain))
        (Target.pieces (built.nodes .plain)))
      (lowerExpr vocabulary node)
  | .identifier .. | .literal .. | .thisObject _ => by
    rw [lowerExpr]
    apply Makes.required
    exact .pure (by simp [Target.Expr.nodes, Script.Expr.nodes])
  | .virtualObject loc => by
    rw [lowerExpr]
    apply Makes.surroundings.bind
    intro frames _
    split
    next receiver _ =>
      apply Makes.ends (.identifier vocabulary loc receiver)
      simp [Target.Expr.nodes, Script.Expr.nodes]
    next => exact .fail _
  | .array _ items | .sequence _ items => by
    rw [lowerExpr]
    apply Makes.required
    apply (images_exprs place items).bind
    intro items images
    exact .pure (by simpa [Target.Expr.nodes, Script.Expr.nodes] using images)
  | .object _ properties => by
    rw [lowerExpr]
    apply Makes.required
    apply (images_properties place properties).bind
    intro properties images
    exact .pure (by simpa [Target.Expr.nodes, Script.Expr.nodes] using images)
  | .function loc definition => by
    rw [lowerExpr]
    apply (images_function place loc definition).imp
    rintro built ⟨images, -⟩
    simpa [Script.Expr.nodes] using images
  | .unary _ _ argument | .awaiting _ argument => by
    rw [lowerExpr]
    apply Makes.required
    apply (images_expr place argument).bind
    intro argument images
    exact .pure (by simpa [Target.Expr.nodes, Script.Expr.nodes] using images)
  | .binary loc op left right => by
    rw [lowerExpr]
    apply (images_expr place left).bind
    intro left inLeft
    apply (images_expr place right).bind
    intro right inRight
    split
    next op _ =>
      apply Makes.ends (.buildExpr vocabulary _)
      simpa [Target.Expr.nodes, Script.Expr.nodes] using inLeft.append inRight
    next =>
      apply (Makes.floorPieces left right loc).imp
      intro built same
      rw [same]
      simpa [Script.Expr.nodes] using inLeft.append inRight
  | .logical _ _ left right | .assignment _ _ left right | .member _ left right _ => by
    rw [lowerExpr]
    apply Makes.required
    apply (images_expr place left).bind
    intro left inLeft
    apply (images_expr place right).bind
    intro right inRight
    exact .pure (by simpa [Target.Expr.nodes, Script.Expr.nodes] using inLeft.append inRight)
  | .conditional _ test consequent alternate => by
    rw [lowerExpr]
    apply Makes.required
    apply (images_expr place test).bind
    intro test inTest
    apply (images_expr place consequent).bind
    intro consequent inConsequent
    apply (images_expr place alternate).bind
    intro alternate inAlternate
    apply Makes.pure
    simpa [Target.Expr.nodes, Script.Expr.nodes] using
      inTest.append (inConsequent.append inAlternate)
  | .call _ callee arguments | .construct _ callee arguments => by
    rw [lowerExpr]
    apply Makes.required
    apply (images_expr place callee).bind
    intro callee inCallee
    apply (images_exprs place arguments).bind
    intro items inItems
    exact .pure (by simpa [Target.Expr.nodes, Script.Expr.nodes] using inCallee.append inItems)
  | .yielding _ argument _ => by
    rw [lowerExpr]
    apply Makes.required
    apply (images_option place argument).bind
    intro argument images
    exact .pure (by simpa [Target.Expr.nodes, Script.Expr.nodes] using images)
  | .compareChain loc [] operators => by
    rw [lowerExpr_compareChain_fail vocabulary loc (.inr (by simp))]
    exact .fail _
  | .compareChain loc (first :: operands) [] => by
    rw [lowerExpr_compareChain_fail vocabulary loc (.inl rfl)]
    exact .fail _
  | .compareChain loc (first :: operands) (op :: operators) => by
    by_cases fit : operands.length = operators.length + 1
    · rw [lowerExpr_compareChain_cons vocabulary loc first op fit]
      apply (Makes.silent (.comparison op)).bind
      intro op _
      apply (images_expr place first).bind
      intro left inLeft
      apply (images_chain place loc op left none operators operands fit).imp
      intro built adds
      simpa [Script.Expr.nodes, Script.exprNodes] using adds _ inLeft
    · rw [lowerExpr_compareChain_fail vocabulary loc (.inr (by simpa using fit))]
      exact .fail _

theorem images_exprs (place : Script.Place) : ∀ nodes : List Script.Expr,
    Makes place.inMethod
      (fun built => Images vocabulary (Script.pieces (Script.exprNodes place nodes))
        (Target.pieces (Target.exprNodes built)))
      (lowerExprs vocabulary nodes)
  | [] => by
    rw [lowerExprs]
    exact .pure (by simp [Target.exprNodes, Script.exprNodes])
  | node :: nodes => by
    rw [lowerExprs]
    apply (images_expr place node).bind
    intro first inFirst
    apply (images_exprs place nodes).bind
    intro rest inRest
    exact .pure (by simpa [Target.exprNodes, Script.exprNodes] using inFirst.append inRest)

theorem images_option (place : Script.Place) : ∀ node : Option Script.Expr,
    Makes place.inMethod
      (fun built => Images vocabulary (Script.pieces (Script.optionNodes place node))
        (Target.pieces (Target.optionNodes built)))
      (lowerOption vocabulary node)
  | none => by
    rw [lowerOption]
    exact .pure (by simp [Target.optionNodes, Script.optionNodes])
  | some node => by
    rw [lowerOption]
    apply (images_expr place node).bind
    intro built images
    exact .pure (by simpa [Target.optionNodes, Script.optionNodes] using images)

/-- The images of the operands are added to those that the chain holds already. -/
theorem images_chain (place : Script.Place) (loc : Option Location) (op : Target.BinaryOp)
    (left : Target.Expr) (before : Option Target.Expr) (operators : List Script.BinaryOp) :
    ∀ operands : List Script.Expr, operands.length = operators.length + 1 →
      Makes place.inMethod
        (fun built => ∀ source,
          Images vocabulary source
              (Target.pieces (Target.optionNodes before) ++ Target.pieces (left.nodes .plain)) →
            Images vocabulary (source ++ Script.pieces (Script.exprNodes place operands))
              (Target.pieces (built.nodes .plain)))
        (lowerChain vocabulary loc op left before operators operands)
  | [], fit => by simp at fit
  | operand :: operands, fit => by
    cases operators with
    | nil =>
      obtain rfl : operands = [] := by simpa using fit
      rw [lowerChain_last]
      apply (images_expr place operand).bind
      intro right inRight
      apply (Makes.chainPieces loc op left right before).imp
      intro built same source held
      rw [same]
      simpa [Script.exprNodes] using held.append inRight
    | cons next operators =>
      rw [lowerChain_cons]
      apply (Makes.fresh tempStem).bind
      intro name _
      apply (images_expr place operand).bind
      intro value inValue
      apply Makes.given (.assign vocabulary loc name value)
      apply (Makes.chainPieces loc op left _ before).bind
      intro link same
      apply (Makes.silent (.comparison next)).bind
      intro op _
      apply Makes.given (.identifier vocabulary loc name)
      apply (images_chain place loc op (.identifier loc name) (some link) operators operands
        (by simpa using fit)).imp
      intro built adds source held
      have linked : Images vocabulary (source ++ Script.pieces (operand.nodes place .plain))
          (Target.pieces (link.nodes .plain)) := by
        rw [same]
        simpa [Target.Expr.nodes] using held.append inValue
      have added := adds _ (by simpa [Target.optionNodes, Target.Expr.nodes] using linked)
      simpa [Script.exprNodes] using added

theorem images_property (place : Script.Place) : ∀ node : Script.Property,
    Makes place.inMethod
      (fun built => Images vocabulary (Script.pieces (node.nodes place))
        (Target.pieces built.nodes))
      (lowerProperty vocabulary node)
  | .keyValue _ key value => by
    rw [lowerProperty]
    apply (images_expr place key).lowersTo.bind
    rintro key' ⟨inKey, keyTo⟩
    apply (images_expr place value).lowersTo.bind
    rintro value' ⟨inValue, valueTo⟩
    apply Makes.required
    apply Makes.pure
    simpa [Target.Property.nodes, Script.Property.nodes] using
      (inKey.append inValue).cons (.keyValue keyTo valueTo)
  | .method loc key definition => by
    rw [lowerProperty]
    apply (images_expr place key).lowersTo.bind
    rintro key' ⟨inKey, keyTo⟩
    have inside := (images_function place.inDefinition (definition.loc.or loc) definition).lowersTo
    have keeps := closed_keeps.function vocabulary (definition.loc.or loc) definition
    apply (inside.withFrame (fun _ => rfl) keeps.withMethod).bind
    rintro ⟨value', _⟩ ⟨⟨inValue, written⟩, valueTo⟩
    apply Makes.required
    have agrees : (!definition.bound.getD false) = true ↔ value'.isFunction = true := by
      rw [written]
      simp [Script.Place.inDefinition]
    apply Makes.pure
    simpa [Target.Property.nodes, Script.Property.nodes] using
      (inKey.append inValue).cons (.method keyTo valueTo agrees)

theorem images_properties (place : Script.Place) : ∀ nodes : List Script.Property,
    Makes place.inMethod
      (fun built => Images vocabulary (Script.pieces (Script.propertyNodes place nodes))
        (Target.pieces (Target.propertyNodes built)))
      (lowerProperties vocabulary nodes)
  | [] => by
    rw [lowerProperties]
    exact .pure (by simp [Target.propertyNodes, Script.propertyNodes])
  | node :: nodes => by
    rw [lowerProperties]
    apply (images_property place node).bind
    intro first inFirst
    apply (images_properties place nodes).bind
    intro rest inRest
    exact .pure (by simpa [Target.propertyNodes, Script.propertyNodes] using inFirst.append inRest)

theorem images_function (place : Script.Place) (loc : Option Location) : ∀ node : Script.Function,
    Makes place.inMethod
      (fun built =>
        Images vocabulary (Script.pieces (node.nodes place)) (Target.pieces (built.nodes .plain)) ∧
          (built.isFunction = true ↔ node.bound.getD (!place.inMethod) = false))
      (lowerFunction vocabulary loc node)
  | .mk own params body bound generator async => by
    rw [lowerFunction]
    apply Makes.surroundings.bind
    intro frames innermost
    rw [innermost]
    dsimp only
    split
    · exact .fail _
    next allowed =>
      apply (images_exprs place params).lowersTo.bind
      rintro params' ⟨inParams, paramsTo⟩
      apply (images_block place loc body).lowersTo.bind
      rintro body' ⟨inBody, bodyTo⟩
      simpa [Script.Function.nodes, Script.Function.bound] using
        Makes.functionImages (by simpa using allowed) paramsTo bodyTo (inParams.append inBody)

/-- The statements of a block stand in its scope, whatever is around the block. -/
theorem images_block (place : Script.Place) (loc : Option Location) : ∀ node : Script.Block,
    Makes place.inMethod
      (fun built => Images vocabulary (Script.pieces (node.nodes place))
        (Target.pieces built.nodes))
      (lowerBlock vocabulary loc node)
  | .mk own body => by
    rw [lowerBlock_eq]
    apply (Makes.scopeImages (own.or loc) (images_stmts place.inBody body)
      (closed_keeps.stmts vocabulary body)).bind
    intro stmts images
    apply Makes.required
    exact .pure (by simpa [Target.Block.nodes, Script.Block.nodes] using images)

theorem images_handler (place : Script.Place) (loc : Option Location) :
    ∀ node : Option Script.Catch,
      Makes place.inMethod
        (fun built => Images vocabulary
          (Script.pieces (node.elim [] (Script.Catch.nodes place)))
          (Target.pieces (built.elim [] Target.Catch.nodes)))
        (lowerHandler vocabulary loc node)
  | none => by
    rw [lowerHandler]
    exact .pure (by simp)
  | some (.mk own param body) => by
    rw [lowerHandler]
    apply (images_option place param).bind
    intro param inParam
    apply (images_block place loc body).bind
    intro body inBody
    apply Makes.required
    exact .pure (by simpa [Target.Catch.nodes, Script.Catch.nodes] using inParam.append inBody)

theorem images_finalizer (place : Script.Place) (loc : Option Location) :
    ∀ node : Option Script.Block,
      Makes place.inMethod
        (fun built => Images vocabulary
          (Script.pieces (node.elim [] (Script.Block.nodes place)))
          (Target.pieces (built.elim [] Target.Block.nodes)))
        (lowerFinalizer vocabulary loc node)
  | none => by
    rw [lowerFinalizer]
    exact .pure (by simp)
  | some node => by
    rw [lowerFinalizer]
    apply (images_block place loc node).bind
    intro block images
    exact .pure images

theorem images_declarator (place : Script.Place) (loc : Option Location) :
    ∀ node : Script.Declarator,
      Makes place.inMethod
        (fun built => Images vocabulary (Script.pieces (node.nodes place))
          (Target.pieces built.nodes))
        (lowerDeclarator vocabulary loc node)
  | .mk own id init _ => by
    rw [lowerDeclarator]
    apply (images_expr place id).bind
    intro id inId
    apply (images_option place init).bind
    intro init inInit
    apply Makes.ends (.declarator vocabulary _ _ _)
    simpa [Target.Declarator.nodes, Script.Declarator.nodes] using inId.append inInit

/-- The images of the declarators are added to those that the run holds already. -/
theorem images_runs (place : Script.Place) (loc : Option Location) (constant : Bool)
    (run : List Target.Declarator) : ∀ nodes : List Script.Declarator,
      Makes place.inMethod
        (fun built => ∀ source,
          Images vocabulary source (Target.pieces (Target.declaratorNodes run)) →
            Images vocabulary (source ++ Script.pieces (Script.declaratorNodes place nodes))
              (Target.pieces (Target.stmtNodes built)))
        (lowerRuns vocabulary loc constant run nodes)
  | [] => by
    rw [lowerRuns]
    apply Makes.given (.buildStmt vocabulary _)
    apply Makes.pure
    intro source held
    simpa [Target.stmtNodes, Target.Stmt.nodes, Script.declaratorNodes] using held
  | node :: nodes => by
    rw [lowerRuns]
    split
    · apply (images_declarator place loc node).bind
      intro lowered inLowered
      apply (images_runs place loc constant (run ++ [lowered]) nodes).imp
      intro built adds source held
      have added := adds (source ++ Script.pieces (node.nodes place))
        (by simpa [Target.declaratorNodes] using held.append inLowered)
      simpa [Script.declaratorNodes] using added
    · apply Makes.given (.buildStmt vocabulary _)
      apply (images_declarator place loc node).bind
      intro lowered inLowered
      apply (images_runs place loc node.constant [lowered] nodes).bind
      intro rest adds
      apply Makes.pure
      intro source held
      have inRest := adds _ (by simpa [Target.declaratorNodes] using inLowered)
      simpa [Target.stmtNodes, Target.Stmt.nodes, Script.declaratorNodes] using held.append inRest

theorem images_stmt (place : Script.Place) : ∀ node : Script.Stmt,
    Makes place.inMethod
      (fun expansion => Images vocabulary (Script.pieces (node.nodes place false))
        (Target.pieces (Target.stmtNodes expansion.toList)))
      (lowerStmt vocabulary node)
  | .expression _ value | .throwing _ value => by
    rw [lowerStmt]
    apply Makes.required
    apply (images_expr place value).bind
    intro value images
    apply Makes.pure
    simpa [Expansion.toList, Target.stmtNodes, Target.Stmt.nodes, Script.Stmt.nodes] using images
  | .block loc body => by
    rw [lowerStmt]
    apply (images_block place loc body).bind
    intro body images
    apply Makes.given (.buildStmt vocabulary _)
    apply Makes.pure
    simpa [Expansion.toList, Target.stmtNodes, Target.Stmt.nodes, Script.Stmt.nodes] using images
  | .empty _ | .breaking _ | .continuing _ => by
    rw [lowerStmt]
    apply Makes.required
    exact .pure (by simp [Expansion.toList, Target.stmtNodes, Target.Stmt.nodes, Script.Stmt.nodes])
  | .ifElse _ test consequent none => by
    rw [lowerStmt]
    apply Makes.required
    apply (images_expr place test).bind
    intro test inTest
    apply ((images_stmt place consequent).singleImages _).bind
    intro consequent inConsequent
    apply Makes.pure
    simpa [Expansion.toList, Target.stmtNodes, Target.Stmt.nodes, Script.Stmt.nodes] using
      inTest.append inConsequent
  | .ifElse _ test consequent (some alternate) => by
    rw [lowerStmt]
    apply Makes.required
    apply (images_expr place test).bind
    intro test inTest
    apply ((images_stmt place consequent).singleImages _).bind
    intro consequent inConsequent
    apply ((images_stmt place alternate).singleImages _).bind
    intro alternate inAlternate
    apply Makes.pure
    simpa [Expansion.toList, Target.stmtNodes, Target.Stmt.nodes, Script.Stmt.nodes] using
      inTest.append (inConsequent.append inAlternate)
  | .whileLoop _ test body => by
    rw [lowerStmt]
    apply Makes.required
    apply (images_expr place test).bind
    intro test inTest
    apply ((images_stmt place body).singleImages _).bind
    intro body inBody
    apply Makes.pure
    simpa [Expansion.toList, Target.stmtNodes, Target.Stmt.nodes, Script.Stmt.nodes] using
      inTest.append inBody
  | .doWhile _ body test => by
    rw [lowerStmt]
    apply Makes.required
    apply ((images_stmt place body).singleImages _).bind
    intro body inBody
    apply (images_expr place test).bind
    intro test inTest
    apply Makes.pure
    simpa [Expansion.toList, Target.stmtNodes, Target.Stmt.nodes, Script.Stmt.nodes] using
      (inTest.append inBody).reorder List.perm_append_comm
  | .forIn _ left right body | .forOf _ left right body => by
    rw [lowerStmt]
    apply Makes.required
    apply (images_expr place left).bind
    intro left inLeft
    apply (images_expr place right).bind
    intro right inRight
    apply ((images_stmt place body).singleImages _).bind
    intro body inBody
    apply Makes.pure
    simpa [Expansion.toList, Target.stmtNodes, Target.Stmt.nodes, Script.Stmt.nodes] using
      inLeft.append (inRight.append inBody)
  | .returning _ argument => by
    rw [lowerStmt]
    apply Makes.required
    apply (images_option place argument).bind
    intro argument images
    apply Makes.pure
    simpa [Expansion.toList, Target.stmtNodes, Target.Stmt.nodes, Script.Stmt.nodes] using images
  | .trying loc block handler finalizer => by
    rw [lowerStmt]
    apply Makes.required
    apply (images_block place loc block).bind
    intro block inBlock
    apply (images_handler place loc handler).bind
    intro handler inHandler
    apply (images_finalizer place loc finalizer).bind
    intro finalizer inFinalizer
    apply Makes.pure
    simpa [Expansion.toList, Target.stmtNodes, Target.pieces_trying, Script.pieces_trying] using
      inBlock.append (inHandler.append inFinalizer)
  | .declaring _ [] => by
    rw [lowerStmt]
    exact .fail _
  | .declaring loc (first :: declarators) => by
    rw [lowerStmt]
    apply (images_runs place loc first.constant [] (first :: declarators)).bind
    intro stmts adds
    apply Makes.pure
    rw [Expansion.toList_normalize]
    simpa [Expansion.toList, Script.Stmt.nodes] using adds [] .nil
  | .function loc id definition => by
    rw [lowerStmt]
    apply (images_expr place id).bind
    intro id inId
    apply (images_function place (definition.loc.or loc) definition).bind
    rintro value ⟨inValue, -⟩
    apply Makes.given (.declarator vocabulary loc id (some value))
    apply Makes.given (.buildStmt vocabulary _)
    apply Makes.pure
    simpa [Expansion.toList, Target.stmtNodes, Target.Stmt.nodes, Target.declaratorNodes,
      Target.Declarator.nodes, Target.optionNodes, Script.Stmt.nodes] using inId.append inValue
  | .assignment _ _ left right => by
    rw [lowerStmt]
    apply (images_expr place left).bind
    intro left inLeft
    apply (images_expr place right).bind
    intro right inRight
    apply Makes.given (.buildExpr vocabulary _)
    apply Makes.given (.buildStmt vocabulary _)
    apply Makes.pure
    simpa [Expansion.toList, Target.stmtNodes, Target.Stmt.nodes, Target.Expr.nodes,
      Script.Stmt.nodes] using inLeft.append inRight
  | .cascade loc root steps degrees => by
    rw [lowerStmt]
    split
    · exact .fail _
    next fit =>
      apply (Makes.fresh rootStem).bind
      intro name _
      apply (images_expr place root).bind
      intro root inRoot
      apply Makes.given (.assignStmt vocabulary loc name root)
      have inSteps := images_steps loc degrees steps (by simpa using fit)
      have keeps := closed_keeps.cascadeSteps vocabulary loc degrees steps
      apply (inSteps.withFrame (fun _ => rfl) (keeps.withCascade name)).bind
      rintro ⟨rest, _⟩ inRest
      apply Makes.pure
      simpa [Expansion.toList, Target.stmtNodes, Target.Stmt.nodes, Target.Expr.nodes,
        Script.Stmt.nodes] using inRoot.append inRest
  | .yielding _ argument => by
    rw [lowerStmt]
    apply (images_option place argument).bind
    intro argument images
    apply Makes.given (.buildExpr vocabulary _)
    apply Makes.given (.buildStmt vocabulary _)
    apply Makes.pure
    simpa [Expansion.toList, Target.stmtNodes, Target.Stmt.nodes, Target.Expr.nodes,
      Script.Stmt.nodes] using images

theorem images_stmts (place : Script.Place) : ∀ nodes : List Script.Stmt,
    Makes place.inMethod
      (fun lowered => Images vocabulary (Script.pieces (Script.stmtNodes place nodes))
        (Target.pieces (Target.stmtNodes (hoist nodes lowered))))
      (lowerStmts vocabulary nodes)
  | [] => by
    rw [lowerStmts]
    exact .pure (by simp [hoist, Target.stmtNodes, Script.stmtNodes])
  | node :: nodes => by
    rw [lowerStmts]
    apply (images_stmt place node).bind
    intro first inFirst
    apply (images_stmts place nodes).bind
    intro rest inRest
    apply Makes.pure
    -- What the statement became stands somewhere among what the others became.
    obtain ⟨before, after, split, placed⟩ := hoist_cons node nodes first.toList rest
    rw [split] at inRest
    rw [placed, Script.stmtNodes, Script.pieces_append]
    apply (inFirst.append inRest).reorder
    simpa using List.perm_append_comm_assoc _ _ _

/-- Every step has a degree, so that no step is left out. -/
theorem images_steps (loc : Option Location) (degrees : List Nat) : ∀ steps : List Script.Stmt,
    steps.length = degrees.length →
      Makes false
        (fun built => Images vocabulary (Script.pieces (Script.stmtNodes .step steps))
          (Target.pieces (Target.stmtNodes built)))
        (lowerSteps vocabulary true loc degrees steps)
  | [], _ => by
    rw [lowerSteps_nil]
    exact .pure (by simp [Target.stmtNodes, Script.stmtNodes])
  | step :: steps, fit => by
    cases degrees with
    | nil => simp at fit
    | cons degree degrees =>
      have rest := images_steps loc degrees steps (by simpa using fit)
      rw [lowerSteps_cons]
      apply Makes.receivers.bind
      intro held _
      split
      · exact .fail _
      · apply (Makes.setReceivers _).bind
        intro _ _
        split
        · apply (images_stmt .step step).bind
          intro lowered inLowered
          apply rest.bind
          intro others inOthers
          exact .pure (by simpa [Script.stmtNodes] using inLowered.append inOthers)
        · split
          · exact .fail _
          · apply (images_stored loc (held.take degree) step).bind
            intro stored inStored
            apply rest.bind
            intro others inOthers
            apply Makes.pure
            simpa [Target.stmtNodes, Script.stmtNodes] using inStored.append inOthers

theorem images_stored (loc : Option Location) (held : List String) : ∀ step : Script.Stmt,
    Makes false
      (fun built => Images vocabulary (Script.pieces (step.nodes .step false))
        (Target.pieces built.nodes))
      (lowerStored vocabulary loc held step)
  | .expression _ value => by
    rw [lowerStored]
    apply (Makes.fresh cascadeStem).bind
    intro name _
    apply (images_expr .step value).bind
    intro value images
    apply Makes.given (.assignStmt vocabulary loc name value)
    apply (Makes.setReceivers _).bind
    intro _ _
    exact .pure (by simpa [Target.Stmt.nodes, Target.Expr.nodes, Script.Stmt.nodes] using images)
  | .block .. | .empty _ | .ifElse .. | .whileLoop .. | .doWhile .. | .forIn .. | .forOf ..
  | .returning .. | .breaking _ | .continuing _ | .throwing .. | .trying .. | .declaring ..
  | .function .. | .assignment .. | .cascade .. | .yielding .. => .fail _

end

private theorem images_program (program : Script.Program) :
    Makes false (fun built => Images vocabulary program.pieces built.pieces)
      (lowerProgram vocabulary program) := by
  rw [lowerProgram_eq]
  apply (Makes.scopeImages program.loc (images_stmts vocabulary ⟨false, false⟩ program.body)
    (closed_keeps.stmts vocabulary program.body)).bind
  intro body images
  apply Makes.required
  exact .pure images

namespace Engine

/-- No arrow function of a lowered program generates, and what a method holds is a function of its
own. The functions and properties of the program are the images of those of the script. -/
theorem functions_shaped (vocabulary : Target.Vocabulary) (earlier : List Script.Program)
    (program : Script.Program) (lowered : Target.Program)
    (ran : (((Engine.mk vocabulary {}).after earlier).lower program).1 = .ok lowered) :
    (∀ definition, .arrow definition ∈ lowered.pieces → definition.generator = false) ∧
      (∀ loc key value kind shorthand computed,
        .property (.mk loc key value kind true shorthand computed) ∈ lowered.pieces →
        value.isFunction = true) ∧
      Images vocabulary program.pieces lowered.pieces := by
  obtain ⟨later, ran, -⟩ := lower_fst_eq_ok.mp ran
  rw [after_vocabulary] at ran
  have outside : At false (((Engine.mk vocabulary {}).after earlier).start program) :=
    ⟨rfl, after_faithful .empty earlier⟩
  obtain ⟨images, -⟩ := images_program vocabulary program _ lowered later outside ran
  refine ⟨?_, ?_, images⟩
  · intro definition member
    obtain ⟨origin, image, becomes, inImage⟩ := images.origin member
    exact becomes.arrow_plain inImage
  · intro loc key value kind shorthand computed member
    obtain ⟨origin, image, becomes, inImage⟩ := images.origin member
    exact becomes.method_function inImage

/-- An object with two methods, of which the first is a generator that captures the surrounding
`this`. -/
def generatingObject : Script.Program :=
  ⟨none, [.expression none (.object none
    [.method none (.identifier none "m")
      (.mk none [.identifier none "p"] (.mk none [.yielding none none]) (some true) true false),
     .method none (.identifier none "n") (.mk none [] (.mk none []) none false false)])]⟩

/-- The generator becomes two functions, and its property is no method. -/
theorem generatingObject_shaped : ∃ lowered,
    (((Engine.mk .full {}).after []).lower generatingObject).1 = .ok lowered ∧
      generatingObject.pieces.length = 4 ∧ lowered.pieces.length = 5 ∧
      (∀ definition, .arrow definition ∈ lowered.pieces → definition.generator = false) ∧
      (∀ loc key value kind shorthand computed,
        .property (.mk loc key value kind true shorthand computed) ∈ lowered.pieces →
        value.isFunction = true) ∧
      Images .full generatingObject.pieces lowered.pieces := by
  have evaluated : (((Engine.mk .full {}).after []).lower generatingObject).1.toOption.map
      (fun lowered => lowered.pieces.length) = some 5 := by decide +kernel
  cases ran : (((Engine.mk .full {}).after []).lower generatingObject).1 with
  | error fault =>
    rw [ran] at evaluated
    cases evaluated
  | ok lowered =>
    rw [ran] at evaluated
    exact ⟨lowered, rfl, rfl, Option.some.inj evaluated,
      functions_shaped .full [] generatingObject lowered ran⟩

end Engine

end Offside.Lowering
