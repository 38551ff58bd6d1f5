import Offside.Proofs.Locations
import Offside.Proofs.TemplateInstances

/-! What lowering may end in. Started where there is a scope, it gives nodes with locations that the
script lends, or one of the faults that can arise. The rules follow the ways in which steps are put
together. -/

namespace Offside

namespace Template

mutual

/-- The names of the placeholders in a template. -/
def Expr.holes : Expr → List String
  | .placeholder name => [name]
  | .identifier _ | .number _ | .string _ | .thisObject => []
  | .array elements => holesOf elements
  | .unary _ argument => argument.holes
  | .binary _ left right | .logical _ left right | .member left right _ => left.holes ++ right.holes
  | .call callee arguments => callee.holes ++ holesOf arguments

def holesOf : List Expr → List String
  | [] => []
  | expr :: exprs => expr.holes ++ holesOf exprs

end

end Template

/-- The faults that can arise. Those about cascades say where. -/
def Fault.Arises (kind : Option Location → Prop) : Fault → Prop
  | .unsupportedNode _ | .severalNodes _ | .unsupportedOperator _ | .boundAsyncGenerator
  | .shape (.chainLength ..) | .shape .noDeclarators => True
  | .cascade _ loc => kind loc
  | .templateForm _ | .templateSyntax _ | .templateWidth _ | .unboundPlaceholder _ | .frames _
  | .shape .emptyChain | .shape .chainEnded => False

namespace Lowering

open Script (Lend)
open Target (Stand)

variable {pass later : Pass} {kind : Option Location → Prop}

/-- A result of a shape, or a fault that can arise. -/
inductive Settles (kind : Option Location → Prop) (shape : α → Prop) : Except Fault α → Prop where
  | ok (shaped : shape a) : Settles kind shape (.ok a)
  | error {fault : Fault} (arises : fault.Arises kind) : Settles kind shape (.error fault)

namespace Settles

variable {shape : α → Prop} {further : β → Prop}

theorem bind {result : Except Fault α} {next : α → Except Fault β} (settles : Settles kind shape result)
    (rest : ∀ a, shape a → Settles kind further (next a)) : Settles kind further (result >>= next) := by
  cases settles with
  | ok shaped => exact rest _ shaped
  | error arises => exact .error arises

theorem require (vocabulary : Target.Vocabulary) (name : String) :
    Settles kind (fun _ => True) (vocabulary.require name) := by
  unfold Target.Vocabulary.require
  split
  · exact .ok trivial
  · exact .error trivial

theorem expr (vocabulary : Target.Vocabulary) {node : Target.Expr}
    (stands : Stand kind (node.nodes .plain)) :
    Settles kind (fun node => Stand kind (node.nodes .plain)) (vocabulary.expr node) :=
  (require vocabulary _).bind fun _ _ => .ok stands

theorem stmt (vocabulary : Target.Vocabulary) {node : Target.Stmt} (stands : Stand kind node.nodes) :
    Settles kind (fun node => Stand kind node.nodes) (vocabulary.stmt node) :=
  (require vocabulary _).bind fun _ _ => .ok stands

end Settles

section

variable (vocabulary : Target.Vocabulary) {bindings : Template.Bindings} {loc : Option Location}

mutual

/-- An instance of a template has one location, apart from what is put in its holes. -/
theorem instance_settles (known : kind loc) : ∀ expr : Template.Expr,
    (∀ name ∈ expr.holes, ∃ value, bindings.find? name = some value ∧
      Stand kind (value.nodes .plain)) →
    Settles kind (fun node => Stand kind (node.nodes .plain))
      (expr.instantiate vocabulary bindings loc)
  | .placeholder name, bound => by
    obtain ⟨value, found, stands⟩ := bound name (by simp [Template.Expr.holes])
    rw [Template.Expr.instantiate, found]
    exact .ok stands
  | .identifier _, _ | .number _, _ | .string _, _ | .thisObject, _ => by
    rw [Template.Expr.instantiate]
    apply Settles.expr
    simp [Target.Expr.nodes, known]
  | .array elements, bound => by
    rw [Template.Expr.instantiate]
    apply (instances_settle known elements bound).bind
    intro items stand
    apply Settles.expr
    simp [Target.Expr.nodes, known, stand]
  | .unary _ argument, bound => by
    rw [Template.Expr.instantiate]
    apply (instance_settles known argument bound).bind
    intro value stands
    apply Settles.expr
    simp [Target.Expr.nodes, known, stands]
  | .binary _ first second, bound | .logical _ first second, bound
  | .member first second _, bound => by
    obtain ⟨boundFirst, boundSecond⟩ := List.forall_mem_append.mp bound
    rw [Template.Expr.instantiate]
    apply (instance_settles known first boundFirst).bind
    intro left standsLeft
    apply (instance_settles known second boundSecond).bind
    intro right standsRight
    apply Settles.expr
    simp [Target.Expr.nodes, known, standsLeft, standsRight]
  | .call callee arguments, bound => by
    obtain ⟨boundCallee, boundArguments⟩ := List.forall_mem_append.mp bound
    rw [Template.Expr.instantiate]
    apply (instance_settles known callee boundCallee).bind
    intro callee standsCallee
    apply (instances_settle known arguments boundArguments).bind
    intro items stand
    apply Settles.expr
    simp [Target.Expr.nodes, known, standsCallee, stand]

theorem instances_settle (known : kind loc) : ∀ exprs : List Template.Expr,
    (∀ name ∈ Template.holesOf exprs, ∃ value, bindings.find? name = some value ∧
      Stand kind (value.nodes .plain)) →
    Settles kind (fun nodes => Stand kind (Target.exprNodes nodes))
      (Template.instantiateAll vocabulary bindings loc exprs)
  | [], _ => by
    rw [Template.instantiateAll]
    exact .ok (by simp [Target.exprNodes])
  | expr :: exprs, bound => by
    obtain ⟨boundFirst, boundRest⟩ := List.forall_mem_append.mp bound
    rw [Template.instantiateAll]
    apply (instance_settles known expr boundFirst).bind
    intro first standsFirst
    apply (instances_settle known exprs boundRest).bind
    intro rest standRest
    exact .ok (by simp [Target.exprNodes, standsFirst, standRest])

end

end

/-- Passes in which nodes are lowered. -/
structure Ready (pass : Pass) : Prop where
  reach : hasScope pass.frames = true
  faithful : pass.templates.Faithful

/-- Passes in which the steps of a cascade are lowered. -/
structure InCascade (pass : Pass) : Prop extends Ready pass where
  top : ∃ held outer, pass.frames = .cascade held :: outer

theorem Ready.kept (ready : Ready pass) (kept : Kept pass later) : Ready later := by
  obtain ⟨names, frames⟩ := kept.frames
  exact ⟨by simp [frames, ready.reach], kept.templates ready.faithful⟩

theorem InCascade.kept (inside : InCascade pass) (kept : Kept pass later) : InCascade later := by
  obtain ⟨held, outer, top⟩ := inside.top
  obtain ⟨names, frames⟩ := kept.frames
  refine ⟨inside.toReady.kept kept, held, extendScope names outer, ?_⟩
  rw [frames, top]
  rfl

/-- In passes of a sort, a step settles and leaves a pass of that sort. -/
def Gives (kind : Option Location → Prop) (sort : Pass → Prop) (shape : α → Prop) (step : Lower α) :
    Prop :=
  ∀ pass, sort pass → Settles kind shape (step pass).1 ∧ sort (step pass).2

namespace Gives

variable {sort : Pass → Prop} {shape : α → Prop} {further : β → Prop}

theorem pure (shaped : shape a) : Gives kind sort shape (pure a) :=
  fun _ starts => ⟨.ok shaped, starts⟩

theorem fail {fault : Fault} (arises : fault.Arises kind) : Gives kind sort shape (.fail fault) :=
  fun _ starts => ⟨.error arises, starts⟩

theorem ofExcept {result : Except Fault α} (settles : Settles kind shape result) :
    Gives kind sort shape (.ofExcept result) :=
  fun _ starts => ⟨settles, starts⟩

theorem bind {first : Lower α} {next : α → Lower β} (gives : Gives kind sort shape first)
    (rest : ∀ a, shape a → Gives kind sort further (next a)) :
    Gives kind sort further (first >>= next) := by
  intro pass starts
  obtain ⟨settles, remains⟩ := gives pass starts
  rw [Lower.bind_apply]
  revert settles remains
  rcases first pass with ⟨fault | a, middle⟩
  · rintro (_ | arises) remains
    exact ⟨.error arises, remains⟩
  · rintro (shaped | _) remains
    exact rest a shaped middle remains

/-- A step under a frame. -/
theorem withFrame {inner : Pass → Prop} {step : Lower α} (gives : Gives kind inner shape step)
    (enters : ∀ pass, sort pass → inner (pass.push opening))
    (remains : ∀ pass later, sort pass → Kept pass later → sort later)
    (keeps : Keeps (step.withFrame opening))
    (stays : ∀ pass : Pass, (step (pass.push opening)).2.frames ≠ []) :
    Gives kind sort (fun result => shape result.1) (step.withFrame opening) := by
  intro pass starts
  refine ⟨?_, remains pass _ starts (keeps pass)⟩
  obtain ⟨left, outer, frames⟩ := List.exists_cons_of_ne_nil (stays pass)
  rw [Lower.withFrame_apply, frames]
  apply (gives _ (enters pass starts)).1.bind
  intro a shaped
  exact .ok shaped

/-- Whatever else a result is known to be. -/
private theorem strengthen {step : Lower α} {also : α → Prop} (gives : Gives kind sort shape step)
    (known : ∀ pass a later, sort pass → step pass = (.ok a, later) → also a) :
    Gives kind sort (fun a => shape a ∧ also a) step := by
  intro pass starts
  obtain ⟨settles, remains⟩ := gives pass starts
  refine ⟨?_, remains⟩
  revert settles
  rcases ran : step pass with ⟨fault | a, later⟩
  · rintro (_ | arises)
    exact .error arises
  · rintro (shaped | _)
    exact .ok ⟨shaped, known pass a later starts ran⟩

theorem inCascade {step : Lower α} (gives : Gives kind Ready shape step) (keeps : Keeps step) :
    Gives kind InCascade shape step :=
  fun pass inside => ⟨(gives pass inside.toReady).1, inside.kept (keeps pass)⟩

theorem fresh (stem : String) : Gives kind Ready (fun _ => True) (freshName stem) := by
  intro pass ready
  refine ⟨?_, ready.kept (keeps_freshName stem pass)⟩
  rw [freshName, if_pos ready.reach]
  exact .ok trivial

theorem surroundings : Gives kind sort (fun _ => True) surroundings :=
  fun _ starts => ⟨.ok trivial, starts⟩

theorem receivers : Gives kind InCascade (fun _ => True) (receivers true) := by
  intro pass inside
  obtain ⟨held, outer, top⟩ := inside.top
  rw [receivers_eq top]
  exact ⟨.ok trivial, inside⟩

theorem setReceivers (names : List String) :
    Gives kind InCascade (fun _ => True) (setReceivers true names) := by
  intro pass inside
  obtain ⟨held, outer, top⟩ := inside.top
  have reach : hasScope outer = true := by simpa [top, hasScope] using inside.reach
  rw [setReceivers_eq names top]
  exact ⟨.ok trivial, ⟨by simpa [top, hasScope] using reach, inside.faithful⟩, names, outer,
    by simp [top]⟩

section

variable (vocabulary : Target.Vocabulary)

theorem require (node : Target.NodeKind) :
    Gives kind sort (fun _ => True) (require vocabulary node) :=
  ofExcept (.require vocabulary _)

theorem required {next : Lower α} {node : Target.NodeKind} (gives : Gives kind sort shape next) :
    Gives kind sort shape (Lowering.require vocabulary node >>= fun _ => next) :=
  (require vocabulary node).bind fun _ _ => gives

theorem buildExpr {node : Target.Expr} (stands : Stand kind (node.nodes .plain)) :
    Gives kind sort (fun node => Stand kind (node.nodes .plain)) (buildExpr vocabulary node) :=
  ofExcept (.expr vocabulary stands)

theorem buildStmt {node : Target.Stmt} (stands : Stand kind node.nodes) :
    Gives kind sort (fun node => Stand kind node.nodes) (buildStmt vocabulary node) :=
  ofExcept (.stmt vocabulary stands)

theorem identifier (known : kind loc) (name : String) :
    Gives kind sort (fun node => Stand kind (node.nodes .plain)) (identifier vocabulary loc name) :=
  buildExpr vocabulary (by simpa [Target.Expr.nodes] using known)

theorem assign {value : Target.Expr} (known : kind loc) (name : String)
    (stands : Stand kind (value.nodes .plain)) :
    Gives kind sort (fun node => Stand kind (node.nodes .plain))
      (assign vocabulary loc name value) := by
  apply (identifier vocabulary known name).bind
  intro left standsLeft
  apply buildExpr
  simp [Target.Expr.nodes, known, standsLeft, stands]

theorem assignStmt {value : Target.Expr} (known : kind loc) (name : String)
    (stands : Stand kind (value.nodes .plain)) :
    Gives kind sort (fun node => Stand kind node.nodes) (assignStmt vocabulary loc name value) := by
  apply (assign vocabulary known name stands).bind
  intro assigned standsAssigned
  apply buildStmt
  simp [Target.Stmt.nodes, known, standsAssigned]

theorem declarator {id : Target.Expr} {init : Option Target.Expr} (known : kind loc)
    (standsId : Stand kind (id.nodes .plain)) (standsInit : Stand kind (Target.optionNodes init)) :
    Gives kind sort (fun node => Stand kind node.nodes) (declarator vocabulary loc id init) := by
  apply required
  apply pure
  simp [Target.Declarator.nodes, known, standsId, standsInit]

theorem declareAll (known : kind loc) (names : List String) :
    Gives kind sort (fun nodes => Stand kind (Target.declaratorNodes nodes))
      (declareAll vocabulary loc names) := by
  induction names with
  | nil => exact pure (by simp [Target.declaratorNodes])
  | cons name names ih =>
    apply (identifier vocabulary known name).bind
    intro id standsId
    apply (declarator vocabulary known standsId (by simp [Target.optionNodes])).bind
    intro first standsFirst
    apply ih.bind
    intro rest standsRest
    apply pure
    simp [Target.declaratorNodes, standsFirst, standsRest]

theorem declareNames (known : kind loc) (names : List String) :
    Gives kind sort (fun nodes => Stand kind (Target.stmtNodes nodes))
      (declareNames vocabulary loc names) := by
  unfold Lowering.declareNames
  split
  · exact pure (by simp [Target.stmtNodes])
  · apply (declareAll vocabulary known names).bind
    intro declarators stands
    have declares : Stand kind (Target.Stmt.declaring loc .let declarators).nodes := by
      simp [Target.Stmt.nodes, known, stands]
    apply (buildStmt vocabulary declares).bind
    intro stmt standsStmt
    apply pure
    simp [Target.stmtNodes, standsStmt]

end

end Gives

/-- Hoisting keeps what was there. -/
private theorem stand_hoist {lowered : List (List Target.Stmt)}
    (stand : ∀ stmts ∈ lowered, Stand kind (Target.stmtNodes stmts)) (stmts : List Script.Stmt) :
    Stand kind (Target.stmtNodes (hoist stmts lowered)) := by
  rw [Target.stand_stmtNodes]
  intro stmt member
  obtain ⟨pair, paired, inside⟩ : ∃ pair ∈ stmts.zip lowered, stmt ∈ pair.2 := by
    rcases List.mem_append.mp member with function | other
    · obtain ⟨pair, found, inside⟩ := List.mem_flatMap.mp function
      exact ⟨pair, (List.mem_filter.mp found).1, inside⟩
    · obtain ⟨pair, found, inside⟩ := List.mem_flatMap.mp other
      exact ⟨pair, (List.mem_filter.mp found).1, inside⟩
  have standing := stand pair.2 (List.of_mem_zip paired).2
  exact Target.stand_stmtNodes.mp standing stmt inside

namespace Gives

variable {sort : Pass → Prop} {shape : α → Prop}

section

variable (vocabulary : Target.Vocabulary)

theorem listBody {lowering : Lower (List (List Target.Stmt))} (known : kind loc)
    (enters : ∀ pass, sort pass → Ready (pass.push .scope))
    (remains : ∀ pass later, sort pass → Kept pass later → sort later) (keeps : Keeps lowering)
    (gives : Gives kind Ready (∀ stmts ∈ ·, Stand kind (Target.stmtNodes stmts)) lowering)
    (stmts : List Script.Stmt) :
    Gives kind sort (fun body => Stand kind (Target.stmtNodes body))
      (listBody vocabulary loc stmts lowering) := by
  have inside := gives.withFrame enters remains keeps.withScope fun _ => keeps.frames_ne_nil rfl
  apply (inside.strengthen fun _ _ _ _ ran => keeps.withScope_frame ran).bind
  rintro ⟨lowered, _⟩ ⟨stand, names, rfl⟩
  apply (declareNames vocabulary known names).bind
  intro declarations standDeclarations
  apply pure
  rw [Target.stmtNodes_append, Target.stand_append]
  exact ⟨standDeclarations, stand_hoist stand stmts⟩

theorem single {lowering : Lower (Expansion Target.Stmt)} (name : String)
    (gives : Gives kind sort (fun expansion => Stand kind (Target.stmtNodes expansion.toList))
      lowering) :
    Gives kind sort (fun node => Stand kind node.nodes) (single name lowering) := by
  apply gives.bind
  intro expansion stands
  rw [← Expansion.toList_normalize] at stands
  split
  next stmt normal =>
    apply pure
    simpa [normal, Expansion.toList, Target.stmtNodes] using stands
  next => exact fail trivial

theorem comparison (op : Script.BinaryOp) :
    Gives kind sort (fun _ => True) (comparison op) := by
  unfold Lowering.comparison
  split
  · exact pure trivial
  · exact fail trivial

theorem chainLink {left right : Target.Expr} {chain : Option Target.Expr} (known : kind loc)
    (op : Target.BinaryOp) (standsLeft : Stand kind (left.nodes .plain))
    (standsRight : Stand kind (right.nodes .plain))
    (standsChain : Stand kind (Target.optionNodes chain)) :
    Gives kind sort (fun node => Stand kind (node.nodes .plain))
      (chainLink vocabulary loc op left right chain) := by
  have compares : Stand kind ((Target.Expr.binary loc op left right).nodes .plain) := by
    simp [Target.Expr.nodes, known, standsLeft, standsRight]
  apply (buildExpr vocabulary compares).bind
  intro link standsLink
  cases chain with
  | none => exact pure standsLink
  | some chain =>
    apply buildExpr
    rw [Target.optionNodes] at standsChain
    simp [Target.Expr.nodes, known, standsChain, standsLink]

/-- With a faithful cache, an instance of a template is as good as what the template gives. -/
theorem instantiate {bindings : Template.Bindings} {entry : Template} {shape : Target.Expr → Prop}
    (compiled : Template.compile source = .ok entry)
    (settles : Settles kind shape (entry.expression vocabulary bindings loc)) :
    Gives kind Ready shape (instantiate vocabulary source bindings loc) := by
  intro pass ready
  have keeps := closed_keeps.instantiate vocabulary source bindings loc pass
  refine ⟨?_, ready.kept keeps⟩
  rwa [instantiate_apply vocabulary bindings loc ready.faithful compiled]

theorem floorDivision {left right : Target.Expr} (known : kind loc)
    (standsLeft : Stand kind (left.nodes .plain)) (standsRight : Stand kind (right.nodes .plain)) :
    Gives kind Ready (fun node => Stand kind (node.nodes .plain))
      (Lowering.instantiate vocabulary floorDivision [("left", left), ("right", right)] loc) := by
  apply instantiate vocabulary compile_floorDivision
  apply instance_settles vocabulary known
  have holes : ∀ name ∈ ["left", "right"], ∃ value,
      Template.Bindings.find? [("left", left), ("right", right)] name = some value ∧
        Stand kind (value.nodes .plain) := by
    simp only [List.forall_mem_cons]
    exact ⟨⟨left, rfl, standsLeft⟩, ⟨right, rfl, standsRight⟩, by simp⟩
  exact holes

theorem applyGenerator {generator : Target.Expr} (known : kind loc)
    (stands : Stand kind (generator.nodes .plain)) :
    Gives kind Ready (fun node => Stand kind (node.nodes .plain))
      (Lowering.instantiate vocabulary applyGenerator [("fn", generator)] loc) := by
  apply instantiate vocabulary compile_applyGenerator
  apply instance_settles vocabulary known
  have holes : ∀ name ∈ ["fn"], ∃ value,
      Template.Bindings.find? [("fn", generator)] name = some value ∧
        Stand kind (value.nodes .plain) := by
    simp only [List.forall_mem_cons]
    exact ⟨⟨generator, rfl, stands⟩, by simp⟩
  exact holes

theorem functionExpr {params : List Target.Expr} {body : Target.Block} {loc own : Option Location}
    (bound generator async : Bool) (known : kind loc) (knownOwn : kind own)
    (standParams : Stand kind (Target.exprNodes params)) (standsBody : Stand kind body.nodes) :
    Gives kind Ready (fun node => Stand kind (node.nodes .plain))
      (functionExpr vocabulary loc own bound generator async params body) := by
  unfold Lowering.functionExpr
  split
  · apply buildExpr
    simp [Target.Expr.nodes, Target.Function.nodes, known, knownOwn, standParams, standsBody]
  · split
    · have inner : Stand kind
          ((Target.Expr.function loc (.mk own none [] body true false)).nodes .plain) := by
        simp [Target.Expr.nodes, Target.Function.nodes, Target.exprNodes, known, knownOwn, standsBody]
      apply (buildExpr vocabulary inner).bind
      intro inner standsInner
      apply (applyGenerator vocabulary known standsInner).bind
      intro applied standsApplied
      have returns : Stand kind (Target.Stmt.returning loc (some applied)).nodes := by
        simp [Target.Stmt.nodes, Target.optionNodes, known, standsApplied]
      apply (buildStmt vocabulary returns).bind
      intro result standsResult
      apply required
      apply buildExpr
      simp [Target.Expr.nodes, Target.Function.nodes, Target.Block.nodes, Target.stmtNodes, known,
        knownOwn, standParams, standsResult]
    · apply buildExpr
      simp [Target.Expr.nodes, Target.Function.nodes, known, knownOwn, standParams, standsBody]

end

end Gives

end Lowering

end Offside
