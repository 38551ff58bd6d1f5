import Offside.Proofs.SharedKinds

/-! Programs of kinds that the target has as well are copied. Lowering leaves the pass as it is, keeps
the outline up to what `Outline.copied` changes, and adds or moves no statement. If every block and
catch clause says where it stands, the program can be read off its copy. -/

namespace Offside

open Outline (copiedAll)

namespace Script

variable {strict : Prop}

/-- A node that is copied. What it was can be told in the strict case. -/
structure Node.Copyable (strict : Prop) (node : Node) : Prop where
  shared : node.isShared = true
  anchored : strict → node.isMain = false → node.loc.isSome = true

def Copyable (strict : Prop) (nodes : List Node) : Prop := ∀ node ∈ nodes, node.Copyable strict

theorem copyable_cons :
    Copyable strict (node :: nodes) ↔ node.Copyable strict ∧ Copyable strict nodes :=
  List.forall_mem_cons

theorem copyable_append :
    Copyable strict (before ++ after) ↔ Copyable strict before ∧ Copyable strict after :=
  List.forall_mem_append

/-- In the strict case a node keeps its location also where it could take another. -/
theorem Node.Copyable.loc_or {node : Node} (copyable : node.Copyable strict) (holds : strict)
    (nested : node.isMain = false) (around : Option Location) : node.loc.or around = node.loc := by
  obtain ⟨loc, own⟩ := Option.isSome_iff_exists.mp (copyable.anchored holds nested)
  rw [own]
  rfl

theorem Copyable.unhoisted (copyable : Copyable strict (Stmt.nodes place alone stmt)) :
    stmt.isHoisted = false := by
  have shared : (Node.stmt alone stmt).isShared = true := by
    apply (copyable (.stmt alone stmt) _).shared
    rw [Stmt.nodes.eq_def]
    exact List.mem_cons_self ..
  cases stmt with
  | function => cases shared
  | _ => rfl

theorem unhoisted_of_copyable (copyable : Copyable strict (stmtNodes place stmts)) :
    ∀ stmt ∈ stmts, stmt.isHoisted = false := by
  induction stmts with
  | nil => simp
  | cons stmt stmts ih =>
    obtain ⟨first, rest⟩ := copyable_append.mp copyable
    exact List.forall_mem_cons.mpr ⟨first.unhoisted, ih rest⟩

end Script

namespace Lowering

open Script (Copyable copyable_cons copyable_append)

/-- A step that gives a result of a shape and does nothing else. -/
def Produces (shape : α → Prop) (step : Lower α) : Prop := ∃ a, step = pure a ∧ shape a

namespace Produces

theorem pure {shape : α → Prop} (shaped : shape a) : Produces shape (pure a) := ⟨a, rfl, shaped⟩

theorem bind {before : α → Prop} {shape : β → Prop} {first : Lower α} {next : α → Lower β}
    (produces : Produces before first) (rest : ∀ a, before a → Produces shape (next a)) :
    Produces shape (first >>= next) := by
  obtain ⟨a, rfl, shaped⟩ := produces
  rw [pure_bind]
  exact rest a shaped

theorem single {shape : Target.Stmt → Prop} {step : Lower (Expansion Target.Stmt)} (kind : String)
    (produces : Produces (fun copy => ∃ stmt, copy = .single stmt ∧ shape stmt) step) :
    Produces shape (single kind step) := by
  apply produces.bind
  rintro _ ⟨stmt, rfl, shaped⟩
  exact .pure shaped

end Produces

private theorem withFrame_pure (opening : Opening) (a : α) :
    (pure a : Lower α).withFrame opening = pure (a, opening.frame) := by
  funext pass
  rw [Lower.withFrame_apply]
  rfl

/-- Without function declarations statements stay in their order. -/
private theorem hoist_unhoisted {stmts : List Script.Stmt} {lists : List (List Target.Stmt)}
    (unhoisted : ∀ stmt ∈ stmts, stmt.isHoisted = false) (same : lists.length = stmts.length) :
    hoist stmts lists = lists.flatten := by
  have other : ∀ pair ∈ stmts.zip lists, pair.1.isHoisted = false := by
    rintro ⟨stmt, list⟩ member
    exact unhoisted stmt (List.of_mem_zip member).1
  have front : (stmts.zip lists).filter (·.1.isHoisted) = [] := by
    rw [List.filter_eq_nil_iff]
    intro pair member
    simp [other pair member]
  have rest : (stmts.zip lists).filter (!·.1.isHoisted) = stmts.zip lists := by
    rw [List.filter_eq_self]
    intro pair member
    simp [other pair member]
  simp only [hoist]
  rw [front, rest, List.flatMap_nil, List.nil_append, List.flatMap_def,
    List.map_snd_zip (by omega)]

theorem Produces.listBody {stmts : List Script.Stmt} {lowering : Lower (List (List Target.Stmt))}
    {shape : List Target.Stmt → Prop} (loc : Option Location)
    (unhoisted : ∀ stmt ∈ stmts, stmt.isHoisted = false)
    (produces : Produces (fun lists => lists.length = stmts.length ∧ shape lists.flatten) lowering) :
    Produces shape (listBody .full loc stmts lowering) := by
  obtain ⟨lists, rfl, same, shaped⟩ := produces
  refine ⟨lists.flatten, ?_, shaped⟩
  rw [Lowering.listBody, withFrame_pure, pure_bind, ← hoist_unhoisted unhoisted same]
  rfl

/-- The copy of an expression: its outline is kept, and in the strict case it tells what was copied. -/
structure ExprCopy (strict : Prop) (node : Script.Expr) (copy : Target.Expr) : Prop where
  outline : ∀ around role, copy.outline role = (node.outline role).copied around
  restored : strict → copy.restore? = some node

structure StmtCopy (strict : Prop) (node : Script.Stmt) (copy : Target.Stmt) : Prop where
  outline : ∀ around role, copy.outline role = (node.outline role).copied around
  restored : strict → copy.restore? = some node

structure BodyCopy (strict : Prop) (nodes : List Script.Stmt) (copies : List Target.Stmt) :
    Prop where
  outline : ∀ around role,
    Target.stmtOutlines role copies = copiedAll around (Script.stmtOutlines role nodes)
  restored : strict → Target.restoreStmts? copies = some nodes

variable {strict : Prop}

mutual

theorem copies_expr (place : Script.Place) (role : Role) : ∀ node : Script.Expr,
    Copyable strict (node.nodes place role) →
    Produces (ExprCopy strict node) (lowerExpr .full node)
  | .identifier .., _ | .literal .., _ | .thisObject _, _ => by
    rw [lowerExpr, require_full, pure_bind]
    refine .pure ⟨Target.Expr.outline_eq_copied rfl rfl rfl fun _ => rfl, fun _ => ?_⟩
    rw [Target.Expr.restore?]
  | .virtualObject _, copyable | .function .., copyable | .compareChain .., copyable => by
    cases (copyable_cons.mp copyable).1.shared
  | .array loc elements, copyable | .sequence loc elements, copyable => by
    rw [lowerExpr, require_full, pure_bind]
    apply (copies_exprs place elements (copyable_cons.mp copyable).2).bind
    rintro elements ⟨outlines, restored⟩
    refine .pure ⟨Target.Expr.outline_eq_copied rfl rfl rfl fun _ => ?_, fun holds => ?_⟩
    · simp [Target.Expr.outline, Script.Expr.outline, outlines loc]
    · simp [Target.Expr.restore?, restored holds]
  | .object loc properties, copyable => by
    rw [lowerExpr, require_full, pure_bind]
    apply (copies_properties place properties (copyable_cons.mp copyable).2).bind
    rintro properties ⟨outlines, restored⟩
    refine .pure ⟨Target.Expr.outline_eq_copied rfl rfl rfl fun _ => ?_, fun holds => ?_⟩
    · simp [Target.Expr.outline, Script.Expr.outline, outlines loc]
    · simp [Target.Expr.restore?, restored holds]
  | .unary loc op argument, copyable => by
    rw [lowerExpr, require_full, pure_bind]
    apply (copies_expr place .plain argument (copyable_cons.mp copyable).2).bind
    intro argument copied
    refine .pure ⟨Target.Expr.outline_eq_copied rfl rfl ?_ fun _ => ?_, fun holds => ?_⟩
    · simp
    · simp [Target.Expr.outline, Script.Expr.outline, copied.outline loc]
    · simp [Target.Expr.restore?, copied.restored holds]
  | .awaiting loc argument, copyable => by
    rw [lowerExpr, require_full, pure_bind]
    apply (copies_expr place .plain argument (copyable_cons.mp copyable).2).bind
    intro argument copied
    refine .pure ⟨Target.Expr.outline_eq_copied rfl rfl rfl fun _ => ?_, fun holds => ?_⟩
    · simp [Target.Expr.outline, Script.Expr.outline, copied.outline loc]
    · simp [Target.Expr.restore?, copied.restored holds]
  | .binary loc op left right, copyable => by
    obtain ⟨own, parts⟩ := copyable_cons.mp copyable
    obtain ⟨first, second⟩ := copyable_append.mp parts
    rw [lowerExpr]
    apply (copies_expr place .plain left first).bind
    intro left copiedLeft
    apply (copies_expr place .plain right second).bind
    intro right copiedRight
    cases known : op.target? with
    | none =>
      -- Only floor division has no operator in the target, and it is not shared.
      have shared := own.shared
      rw [op.target?_eq_none_iff.mp known] at shared
      cases shared
    | some target =>
      simp only [buildExpr_full]
      refine .pure ⟨Target.Expr.outline_eq_copied rfl rfl ?_ fun _ => ?_, fun holds => ?_⟩
      · simp [Script.BinaryOp.target?_name known]
      · simp [Target.Expr.outline, Script.Expr.outline, copiedLeft.outline loc,
          copiedRight.outline loc]
      · simp [Target.Expr.restore?, Target.BinaryOp.script?_of_target? known,
          copiedLeft.restored holds, copiedRight.restored holds]
  | .logical loc op left right, copyable => by
    obtain ⟨first, second⟩ := copyable_append.mp (copyable_cons.mp copyable).2
    rw [lowerExpr, require_full, pure_bind]
    apply (copies_expr place .plain left first).bind
    intro left copiedLeft
    apply (copies_expr place .plain right second).bind
    intro right copiedRight
    refine .pure ⟨Target.Expr.outline_eq_copied rfl rfl ?_ fun _ => ?_, fun holds => ?_⟩
    · simp
    · simp [Target.Expr.outline, Script.Expr.outline, copiedLeft.outline loc,
        copiedRight.outline loc]
    · simp [Target.Expr.restore?, copiedLeft.restored holds, copiedRight.restored holds]
  | .member loc object property computed, copyable => by
    obtain ⟨first, second⟩ := copyable_append.mp (copyable_cons.mp copyable).2
    rw [lowerExpr, require_full, pure_bind]
    apply (copies_expr place .plain object first).bind
    intro object copiedObject
    apply (copies_expr place .plain property second).bind
    intro property copiedProperty
    refine .pure ⟨Target.Expr.outline_eq_copied rfl rfl rfl fun _ => ?_, fun holds => ?_⟩
    · simp [Target.Expr.outline, Script.Expr.outline, copiedObject.outline loc,
        copiedProperty.outline loc]
    · simp [Target.Expr.restore?, copiedObject.restored holds, copiedProperty.restored holds]
  | .assignment loc op left right, copyable => by
    obtain ⟨first, second⟩ := copyable_append.mp (copyable_cons.mp copyable).2
    rw [lowerExpr, require_full, pure_bind]
    apply (copies_expr place .assigned left first).bind
    intro left copiedLeft
    apply (copies_expr place .plain right second).bind
    intro right copiedRight
    refine .pure ⟨Target.Expr.outline_eq_copied rfl rfl ?_ fun _ => ?_, fun holds => ?_⟩
    · simp [op.target_name]
    · simp [Target.Expr.outline, Script.Expr.outline, copiedLeft.outline loc,
        copiedRight.outline loc]
    · simp [Target.Expr.restore?, copiedLeft.restored holds, copiedRight.restored holds]
  | .conditional loc test consequent alternate, copyable => by
    obtain ⟨front, third⟩ := copyable_append.mp (copyable_cons.mp copyable).2
    obtain ⟨first, second⟩ := copyable_append.mp front
    rw [lowerExpr, require_full, pure_bind]
    apply (copies_expr place .plain test first).bind
    intro test copiedTest
    apply (copies_expr place .plain consequent second).bind
    intro consequent copiedConsequent
    apply (copies_expr place .plain alternate third).bind
    intro alternate copiedAlternate
    refine .pure ⟨Target.Expr.outline_eq_copied rfl rfl rfl fun _ => ?_, fun holds => ?_⟩
    · simp [Target.Expr.outline, Script.Expr.outline, copiedTest.outline loc,
        copiedConsequent.outline loc, copiedAlternate.outline loc]
    · simp [Target.Expr.restore?, copiedTest.restored holds, copiedConsequent.restored holds,
        copiedAlternate.restored holds]
  | .call loc callee arguments, copyable | .construct loc callee arguments, copyable => by
    obtain ⟨first, rest⟩ := copyable_append.mp (copyable_cons.mp copyable).2
    rw [lowerExpr, require_full, pure_bind]
    apply (copies_expr place .plain callee first).bind
    intro callee copied
    apply (copies_exprs place arguments rest).bind
    rintro arguments ⟨outlines, restored⟩
    refine .pure ⟨Target.Expr.outline_eq_copied rfl rfl rfl fun _ => ?_, fun holds => ?_⟩
    · simp [Target.Expr.outline, Script.Expr.outline, copied.outline loc, outlines loc]
    · simp [Target.Expr.restore?, copied.restored holds, restored holds]
  | .yielding loc argument delegate, copyable => by
    rw [lowerExpr, require_full, pure_bind]
    apply (copies_option place argument (copyable_cons.mp copyable).2).bind
    rintro argument ⟨outlines, restored⟩
    refine .pure ⟨Target.Expr.outline_eq_copied rfl rfl rfl fun _ => ?_, fun holds => ?_⟩
    · simp [Target.Expr.outline, Script.Expr.outline, outlines loc]
    · simp [Target.Expr.restore?, restored holds]

theorem copies_exprs (place : Script.Place) : ∀ nodes : List Script.Expr,
    Copyable strict (Script.exprNodes place nodes) →
    Produces (fun copies =>
        (∀ around role,
          Target.exprOutlines role copies = copiedAll around (Script.exprOutlines role nodes)) ∧
          (strict → Target.restoreExprs? copies = some nodes))
      (lowerExprs .full nodes)
  | [], _ => by
    rw [lowerExprs]
    exact .pure ⟨fun _ _ => rfl, fun _ => by rw [Target.restoreExprs?]⟩
  | node :: nodes, copyable => by
    obtain ⟨first, rest⟩ := copyable_append.mp copyable
    rw [lowerExprs]
    apply (copies_expr place .plain node first).bind
    intro copy copied
    apply (copies_exprs place nodes rest).bind
    rintro copies ⟨outlines, restored⟩
    refine .pure ⟨fun around role => ?_, fun holds => ?_⟩
    · simp [Target.exprOutlines, Script.exprOutlines, copied.outline around, outlines around]
    · simp [Target.restoreExprs?, copied.restored holds, restored holds]

theorem copies_option (place : Script.Place) : ∀ node : Option Script.Expr,
    Copyable strict (Script.optionNodes place node) →
    Produces (fun copy =>
        (∀ around role,
          Target.optionOutlines role copy = copiedAll around (Script.optionOutlines role node)) ∧
          (strict → Target.restoreOption? copy = some node))
      (lowerOption .full node)
  | none, _ => by
    rw [lowerOption]
    exact .pure ⟨fun _ _ => rfl, fun _ => by rw [Target.restoreOption?]⟩
  | some node, copyable => by
    rw [lowerOption]
    apply (copies_expr place .plain node copyable).bind
    intro copy copied
    refine .pure ⟨fun around role => ?_, fun holds => ?_⟩
    · simp [Target.optionOutlines, Script.optionOutlines, copied.outline around]
    · simp [Target.restoreOption?, copied.restored holds]

theorem copies_properties (place : Script.Place) : ∀ nodes : List Script.Property,
    Copyable strict (Script.propertyNodes place nodes) →
    Produces (fun copies =>
        (∀ around,
          Target.propertyOutlines copies = copiedAll around (Script.propertyOutlines nodes)) ∧
          (strict → Target.restoreProperties? copies = some nodes))
      (lowerProperties .full nodes)
  | [], _ => by
    rw [lowerProperties]
    exact .pure ⟨fun _ => rfl, fun _ => by rw [Target.restoreProperties?]⟩
  | .keyValue loc key value :: nodes, copyable => by
    obtain ⟨first, rest⟩ := copyable_append.mp copyable
    obtain ⟨keyNodes, valueNodes⟩ := copyable_append.mp (copyable_cons.mp first).2
    rw [lowerProperties, lowerProperty, bind_assoc]
    apply (copies_expr place .plain key keyNodes).bind
    intro key copiedKey
    rw [bind_assoc]
    apply (copies_expr place .plain value valueNodes).bind
    intro value copiedValue
    rw [require_full, pure_bind, pure_bind]
    apply (copies_properties place nodes rest).bind
    rintro copies ⟨outlines, restored⟩
    refine .pure ⟨fun around => ?_, fun holds => ?_⟩
    · simp [Target.propertyOutlines, Script.propertyOutlines, Target.Property.outline,
        Script.Property.outline, Script.Property.kindName, Script.Property.loc, Outline.copied,
        Target.NodeKind.name, Target.PropertyKind.name, copiedKey.outline loc,
        copiedValue.outline loc, outlines around]
    · simp [Target.restoreProperties?, Target.Property.restore?, copiedKey.restored holds,
        copiedValue.restored holds, restored holds]
  | .method .. :: _, copyable => by
    cases (copyable_cons.mp (copyable_append.mp copyable).1).1.shared

theorem copies_block (place : Script.Place) (loc : Option Location) : ∀ node : Script.Block,
    Copyable strict (node.nodes place) →
    Produces (fun copy =>
        (∀ role, copy.outline role = (node.outline role).copied loc) ∧
          (strict → copy.restore? = some node))
      (lowerBlock .full loc node)
  | .mk own body, copyable => by
    obtain ⟨block, parts⟩ := copyable_cons.mp copyable
    rw [lowerBlock_eq]
    apply (Produces.listBody (own.or loc) (Script.unhoisted_of_copyable parts)
      (copies_stmts place.inBody body parts)).bind
    intro copies copied
    rw [require_full, pure_bind]
    refine .pure ⟨fun role => ?_, fun holds => ?_⟩
    · simp [Target.Block.outline, Script.Block.outline, Outline.copied, copied.outline loc]
    · have kept : own.or loc = own := block.loc_or holds rfl loc
      simp [Target.Block.restore?, kept, copied.restored holds]

theorem copies_handler (place : Script.Place) (loc : Option Location) :
    ∀ node : Option Script.Catch,
    (∀ clause ∈ node, Copyable strict (clause.nodes place)) →
    Produces (fun copy =>
        Target.handlerOutlines copy = copiedAll loc (Script.handlerOutlines node) ∧
          (strict → Target.restoreHandler? copy = some node))
      (lowerHandler .full loc node)
  | none, _ => by
    rw [lowerHandler]
    exact .pure ⟨rfl, fun _ => by rw [Target.restoreHandler?]⟩
  | some (.mk own param body), copyable => by
    obtain ⟨clause, parts⟩ := copyable_cons.mp (copyable _ rfl)
    obtain ⟨paramNodes, bodyNodes⟩ := copyable_append.mp parts
    rw [lowerHandler]
    apply (copies_option place param paramNodes).bind
    rintro param ⟨paramOutlines, restoredParam⟩
    apply (copies_block place loc body bodyNodes).bind
    rintro body ⟨bodyOutline, restoredBody⟩
    rw [require_full, pure_bind]
    refine .pure ⟨?_, fun holds => ?_⟩
    · simp [Target.handlerOutlines, Script.handlerOutlines, Target.Catch.outline,
        Script.Catch.outline, Outline.copied, Target.NodeKind.name, paramOutlines loc, bodyOutline]
    · have kept : own.or loc = own := clause.loc_or holds rfl loc
      simp [Target.restoreHandler?, kept, restoredParam holds, restoredBody holds]

theorem copies_finalizer (place : Script.Place) (loc : Option Location) :
    ∀ node : Option Script.Block,
    (∀ block ∈ node, Copyable strict (block.nodes place)) →
    Produces (fun copy =>
        Target.finalizerOutlines copy = copiedAll loc (Script.finalizerOutlines node) ∧
          (strict → Target.restoreFinalizer? copy = some node))
      (lowerFinalizer .full loc node)
  | none, _ => by
    rw [lowerFinalizer]
    exact .pure ⟨rfl, fun _ => by rw [Target.restoreFinalizer?]⟩
  | some node, copyable => by
    rw [lowerFinalizer]
    apply (copies_block place loc node (copyable _ rfl)).bind
    rintro copy ⟨outline, restored⟩
    refine .pure ⟨?_, fun holds => ?_⟩
    · simp [Target.finalizerOutlines, Script.finalizerOutlines, outline]
    · simp [Target.restoreFinalizer?, restored holds]

theorem copies_stmt (place : Script.Place) (alone : Bool) : ∀ node : Script.Stmt,
    Copyable strict (node.nodes place alone) →
    Produces (fun copy => ∃ stmt, copy = .single stmt ∧ StmtCopy strict node stmt)
      (lowerStmt .full node)
  | .expression loc value, copyable | .throwing loc value, copyable => by
    rw [lowerStmt, require_full, pure_bind]
    apply (copies_expr place .plain value (copyable_cons.mp copyable).2).bind
    intro value copied
    refine .pure ⟨_, rfl, Target.Stmt.outline_eq_copied rfl rfl rfl fun _ => ?_, fun holds => ?_⟩
    · simp [Target.Stmt.outline, Script.Stmt.outline, copied.outline loc]
    · simp [Target.Stmt.restore?, copied.restored holds]
  | .block loc body, copyable => by
    rw [lowerStmt]
    apply (copies_block place loc body (copyable_cons.mp copyable).2).bind
    rintro body ⟨outline, restored⟩
    rw [buildStmt_full, pure_bind]
    refine .pure ⟨_, rfl, Target.Stmt.outline_eq_copied rfl rfl rfl fun _ => ?_, fun holds => ?_⟩
    · simp [Target.Stmt.outline, Script.Stmt.outline, outline]
    · simp [Target.Stmt.restore?, restored holds]
  | .empty _, _ | .breaking _, _ | .continuing _, _ => by
    rw [lowerStmt, require_full, pure_bind]
    refine .pure ⟨_, rfl, Target.Stmt.outline_eq_copied rfl rfl rfl fun _ => rfl, fun _ => ?_⟩
    rw [Target.Stmt.restore?]
  | .ifElse loc test consequent none, copyable => by
    obtain ⟨first, second⟩ := copyable_append.mp (copyable_cons.mp copyable).2
    rw [lowerStmt, require_full, pure_bind]
    apply (copies_expr place .plain test first).bind
    intro test copiedTest
    apply ((copies_stmt place true consequent second).single _).bind
    intro consequent copiedConsequent
    refine .pure ⟨_, rfl, Target.Stmt.outline_eq_copied rfl rfl rfl fun _ => ?_, fun holds => ?_⟩
    · simp [Target.Stmt.outline, Script.Stmt.outline, Target.alternateOutlines,
        Script.alternateOutlines, copiedTest.outline loc, copiedConsequent.outline loc]
    · simp [Target.Stmt.restore?, copiedTest.restored holds, copiedConsequent.restored holds]
  | .ifElse loc test consequent (some alternate), copyable => by
    obtain ⟨front, third⟩ := copyable_append.mp (copyable_cons.mp copyable).2
    obtain ⟨first, second⟩ := copyable_append.mp front
    rw [lowerStmt, require_full, pure_bind]
    apply (copies_expr place .plain test first).bind
    intro test copiedTest
    apply ((copies_stmt place true consequent second).single _).bind
    intro consequent copiedConsequent
    apply ((copies_stmt place true alternate third).single _).bind
    intro alternate copiedAlternate
    refine .pure ⟨_, rfl, Target.Stmt.outline_eq_copied rfl rfl rfl fun _ => ?_, fun holds => ?_⟩
    · simp [Target.Stmt.outline, Script.Stmt.outline, Target.alternateOutlines,
        Script.alternateOutlines, copiedTest.outline loc, copiedConsequent.outline loc,
        copiedAlternate.outline loc]
    · simp [Target.Stmt.restore?, copiedTest.restored holds, copiedConsequent.restored holds,
        copiedAlternate.restored holds]
  | .whileLoop loc test body, copyable => by
    obtain ⟨first, second⟩ := copyable_append.mp (copyable_cons.mp copyable).2
    rw [lowerStmt, require_full, pure_bind]
    apply (copies_expr place .plain test first).bind
    intro test copiedTest
    apply ((copies_stmt place true body second).single _).bind
    intro body copiedBody
    refine .pure ⟨_, rfl, Target.Stmt.outline_eq_copied rfl rfl rfl fun _ => ?_, fun holds => ?_⟩
    · simp [Target.Stmt.outline, Script.Stmt.outline, copiedTest.outline loc,
        copiedBody.outline loc]
    · simp [Target.Stmt.restore?, copiedTest.restored holds, copiedBody.restored holds]
  | .doWhile loc body test, copyable => by
    obtain ⟨first, second⟩ := copyable_append.mp (copyable_cons.mp copyable).2
    rw [lowerStmt, require_full, pure_bind]
    apply ((copies_stmt place true body second).single _).bind
    intro body copiedBody
    apply (copies_expr place .plain test first).bind
    intro test copiedTest
    refine .pure ⟨_, rfl, Target.Stmt.outline_eq_copied rfl rfl rfl fun _ => ?_, fun holds => ?_⟩
    · simp [Target.Stmt.outline, Script.Stmt.outline, copiedTest.outline loc,
        copiedBody.outline loc]
    · simp [Target.Stmt.restore?, copiedTest.restored holds, copiedBody.restored holds]
  | .forIn loc left right body, copyable | .forOf loc left right body, copyable => by
    obtain ⟨front, third⟩ := copyable_append.mp (copyable_cons.mp copyable).2
    obtain ⟨first, second⟩ := copyable_append.mp front
    rw [lowerStmt, require_full, pure_bind]
    apply (copies_expr place .plain left first).bind
    intro left copiedLeft
    apply (copies_expr place .plain right second).bind
    intro right copiedRight
    apply ((copies_stmt place true body third).single _).bind
    intro body copiedBody
    refine .pure ⟨_, rfl, Target.Stmt.outline_eq_copied rfl rfl rfl fun _ => ?_, fun holds => ?_⟩
    · simp [Target.Stmt.outline, Script.Stmt.outline, copiedLeft.outline loc,
        copiedRight.outline loc, copiedBody.outline loc]
    · simp [Target.Stmt.restore?, copiedLeft.restored holds, copiedRight.restored holds,
        copiedBody.restored holds]
  | .returning loc argument, copyable => by
    rw [lowerStmt, require_full, pure_bind]
    apply (copies_option place argument (copyable_cons.mp copyable).2).bind
    rintro argument ⟨outlines, restored⟩
    refine .pure ⟨_, rfl, Target.Stmt.outline_eq_copied rfl rfl rfl fun _ => ?_, fun holds => ?_⟩
    · simp [Target.Stmt.outline, Script.Stmt.outline, outlines loc]
    · simp [Target.Stmt.restore?, restored holds]
  | .trying loc block handler finalizer, copyable => by
    obtain ⟨-, blockNodes, handlerNodes, finalizerNodes⟩ := Script.forall_trying.mp copyable
    rw [lowerStmt, require_full, pure_bind]
    apply (copies_block place loc block blockNodes).bind
    rintro block ⟨blockOutline, restoredBlock⟩
    apply (copies_handler place loc handler handlerNodes).bind
    rintro handler ⟨handlerOutlines, restoredHandler⟩
    apply (copies_finalizer place loc finalizer finalizerNodes).bind
    rintro finalizer ⟨finalizerOutlines, restoredFinalizer⟩
    refine .pure ⟨_, rfl, Target.Stmt.outline_eq_copied rfl rfl rfl fun _ => ?_, fun holds => ?_⟩
    · simp [Target.Stmt.outline, Script.Stmt.outline, blockOutline, handlerOutlines,
        finalizerOutlines]
    · simp [Target.Stmt.restore?, restoredBlock holds, restoredHandler holds,
        restoredFinalizer holds]
  | .declaring .., copyable | .function .., copyable | .assignment .., copyable
  | .cascade .., copyable | .yielding .., copyable => by
    cases (copyable_cons.mp copyable).1.shared

theorem copies_stmts (place : Script.Place) : ∀ nodes : List Script.Stmt,
    Copyable strict (Script.stmtNodes place nodes) →
    Produces (fun lists => lists.length = nodes.length ∧ BodyCopy strict nodes lists.flatten)
      (lowerStmts .full nodes)
  | [], _ => by
    rw [lowerStmts]
    exact .pure ⟨rfl, fun _ _ => rfl, fun _ => by rw [List.flatten_nil, Target.restoreStmts?]⟩
  | node :: nodes, copyable => by
    obtain ⟨first, rest⟩ := copyable_append.mp copyable
    rw [lowerStmts]
    apply (copies_stmt place false node first).bind
    rintro _ ⟨copy, rfl, copied⟩
    apply (copies_stmts place nodes rest).bind
    rintro lists ⟨same, copiedRest⟩
    refine .pure ⟨by simp [same], fun around role => ?_, fun holds => ?_⟩
    · simp [Expansion.toList, Target.stmtOutlines, Script.stmtOutlines, copied.outline around,
        copiedRest.outline around]
    · simp [Expansion.toList, Target.restoreStmts?, copied.restored holds,
        copiedRest.restored holds]

end

private theorem copies_program {program : Script.Program}
    (copyable : Copyable strict program.nodes) :
    Produces (fun copy => copy.outline = program.outline.copied none ∧
        (strict → copy.restore? = some program))
      (lowerProgram .full program) := by
  rw [lowerProgram_eq]
  apply (Produces.listBody program.loc (Script.unhoisted_of_copyable copyable)
    (copies_stmts _ program.body copyable)).bind
  intro body copied
  rw [require_full, pure_bind]
  refine .pure ⟨?_, fun holds => ?_⟩
  · simp [Target.Program.outline, Script.Program.outline, Outline.copied, Target.NodeKind.name,
      Target.SourceType.name, copied.outline program.loc]
  · simp [Target.Program.restore?, copied.restored holds]

namespace Engine

theorem lower_shared (earlier : List Script.Program) {program : Script.Program}
    (shared : program.Shared) :
    ∃ lowered, ((({} : Engine).after earlier).lower program).1 = .ok lowered ∧
      lowered.outline = program.outline.copied none ∧
      (program.Anchored → lowered.restore? = some program) := by
  have copyable : Copyable program.Anchored program.nodes := by
    intro node member
    exact ⟨shared node member, fun anchored => anchored node member⟩
  obtain ⟨lowered, copies, copied⟩ := copies_program copyable
  refine ⟨lowered, ?_, copied⟩
  rw [lower_fst_eq_ok, after_vocabulary, copies]
  exact ⟨_, rfl, rfl⟩

/-- A program of shared kinds is lowered to a faithful copy. Two such programs whose blocks and catch
clauses have locations are lowered to different programs if they differ. -/
theorem shared_programs_copied (earlier : List Script.Program) (program : Script.Program)
    (shared : program.Shared) :
    (∃ lowered, ((({} : Engine).after earlier).lower program).1 = .ok lowered ∧
      lowered.outline = program.outline.copied none) ∧
      ∀ (others : List Script.Program) (other : Script.Program), other.Shared →
        program.Anchored → other.Anchored → other ≠ program →
        ((({} : Engine).after others).lower other).1 ≠
          ((({} : Engine).after earlier).lower program).1 := by
  obtain ⟨lowered, lowers, copied, restored⟩ := lower_shared earlier shared
  refine ⟨⟨lowered, lowers, copied⟩, ?_⟩
  intro others other otherShared anchored otherAnchored different same
  obtain ⟨otherLowered, otherLowers, -, otherRestored⟩ := lower_shared others otherShared
  have sameLowered : otherLowered = lowered := by
    rw [otherLowers, lowers] at same
    exact Except.ok.inj same
  apply different
  apply Option.some.inj
  rw [← restored anchored, ← otherRestored otherAnchored, sameLowered]

def onLine (line : Nat) : Option Location := some ⟨⟨line, 0⟩, ⟨line, 9⟩⟩

/-- Raises a variable to a power, inside a `try` on the first line. -/
def guardedPower (block : Option Location) : Script.Program where
  loc := onLine 1
  body :=
    [.trying (onLine 1)
      (.mk block [.expression (onLine 2)
        (.assignment (onLine 2) .power (.identifier (onLine 2) "x") (.identifier (onLine 2) "n"))])
      (some (.mk (onLine 3) none (.mk (onLine 3) [])))
      none]

/-- A block without a location is lowered as if it stood where its statement stands. With locations
given, the place of the block can be told. -/
theorem shared_programs_copied_guardedPower :
    (guardedPower none).Shared ∧
      (∃ lowered, (({} : Engine).lower (guardedPower none)).1 = .ok lowered ∧
        lowered.outline = (guardedPower none).outline.copied none) ∧
      (({} : Engine).lower (guardedPower none)).1 =
        (({} : Engine).lower (guardedPower (onLine 1))).1 ∧
      (({} : Engine).lower (guardedPower (onLine 2))).1 ≠
        (({} : Engine).lower (guardedPower (onLine 1))).1 := by
  refine ⟨by decide, (shared_programs_copied [] (guardedPower none) (by decide)).1, rfl, ?_⟩
  apply (shared_programs_copied [] (guardedPower (onLine 1)) (by decide)).2 []
  · decide
  · decide
  · decide
  · simp [guardedPower, onLine]

end Engine

end Lowering

end Offside
