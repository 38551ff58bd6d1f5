import Offside.Proofs.ExpansionSize
import Offside.Proofs.TemplateInstances

/-! When the steps of lowering succeed with the full vocabulary. A step decides a condition if, in every
pass that fits the place of the node at hand, it succeeds exactly when the condition holds. The rules
follow the ways in which steps are put together. -/

namespace Offside.Lowering

variable {pass later : Pass}

open Script (Sound)

/-- The frames of a pass tell the place of the node at hand. -/
structure Fits (place : Script.Place) (pass : Pass) : Prop where
  reach : hasScope pass.frames = true
  inStep : (innermostReceiver pass.frames).isSome = place.inStep
  inMethod : inMethod pass.frames = place.inMethod
  faithful : pass.templates.Faithful

theorem Fits.kept (fits : Fits place pass) (kept : Kept pass later) : Fits place later := by
  obtain ⟨names, frames⟩ := kept.frames
  exact ⟨by simp [frames, fits.reach], by simp [frames, fits.inStep],
    by simp [frames, fits.inMethod], kept.templates fits.faithful⟩

theorem Fits.inBody (fits : Fits place pass) :
    Fits place.inBody (pass.push .scope) :=
  ⟨rfl, fits.inStep, rfl, fits.faithful⟩

theorem Fits.inDefinition (fits : Fits place pass) :
    Fits place.inDefinition (pass.push .method) :=
  ⟨fits.reach, fits.inStep, rfl, fits.faithful⟩

/-- Started in a pass of a kind, the step succeeds if and only if a condition holds, and then leaves a
pass of another kind. -/
structure Runs (before after : Pass → Prop) (condition : Prop) (step : Lower α) : Prop where
  leaves : ∀ pass a later, before pass → step pass = (.ok a, later) → after later
  iff : ∀ pass, before pass → ((∃ a later, step pass = (.ok a, later)) ↔ condition)

namespace Runs

variable {before between after : Pass → Prop}

theorem congr {step : Lower α} (runs : Runs before after condition step)
    (same : condition ↔ other) : Runs before after other step :=
  ⟨runs.leaves, fun pass fits => (runs.iff pass fits).trans same⟩

/-- A step gives one result, so that it leads to a pass of a kind if it always can. -/
theorem succeeds {step : Lower α}
    (can : ∀ pass, before pass → ∃ a later, step pass = (.ok a, later) ∧ after later) :
    Runs before after True step := by
  refine ⟨fun pass a later starts ran => ?_, fun pass starts => ⟨fun _ => trivial, fun _ => ?_⟩⟩
  · obtain ⟨b, last, same, ends⟩ := can pass starts
    cases ran.symm.trans same
    exact ends
  · obtain ⟨b, last, same, -⟩ := can pass starts
    exact ⟨b, last, same⟩

theorem pure (a : α) : Runs before before True (pure a) :=
  succeeds fun pass starts => ⟨a, pass, rfl, starts⟩

theorem fail (fault : Fault) : Runs before after False (.fail fault : Lower α) := by
  constructor
  · intro pass a later _ ran
    cases ran
  · simp

/-- What comes after a step may depend on its result, if every result has a shape that settles it. -/
theorem bindOn {first : Lower α} {next : α → Lower β} (shape : α → Prop)
    (runs : Runs before between condition first)
    (shaped : ∀ pass a later, before pass → first pass = (.ok a, later) → shape a)
    (rest : ∀ a, shape a → Runs between after following (next a)) :
    Runs before after (condition ∧ following) (first >>= next) := by
  constructor
  · intro pass b later starts ran
    obtain ⟨a, middle, ranFirst, continued⟩ := Lower.bind_eq_ok.mp ran
    exact (rest a (shaped pass a middle starts ranFirst)).leaves middle b later
      (runs.leaves pass a middle starts ranFirst) continued
  · intro pass starts
    simp only [Lower.bind_eq_ok]
    constructor
    · rintro ⟨b, later, a, middle, ran, continued⟩
      have settled := rest a (shaped pass a middle starts ran)
      exact ⟨(runs.iff pass starts).mp ⟨a, middle, ran⟩,
        (settled.iff middle (runs.leaves pass a middle starts ran)).mp ⟨b, later, continued⟩⟩
    · rintro ⟨holds, follows⟩
      obtain ⟨a, middle, ran⟩ := (runs.iff pass starts).mpr holds
      have settled := rest a (shaped pass a middle starts ran)
      obtain ⟨b, later, continued⟩ :=
        (settled.iff middle (runs.leaves pass a middle starts ran)).mpr follows
      exact ⟨b, later, a, middle, ran, continued⟩

theorem bind {first : Lower α} {next : α → Lower β} (runs : Runs before between condition first)
    (rest : ∀ a, Runs between after following (next a)) :
    Runs before after (condition ∧ following) (first >>= next) :=
  runs.bindOn (fun _ => True) (fun _ _ _ _ _ => trivial) fun a _ => rest a

/-- A step that always succeeds. -/
theorem always {first : Lower α} {next : α → Lower β} (succeeds : Runs before between True first)
    (rest : ∀ a, Runs between after condition (next a)) :
    Runs before after condition (first >>= next) :=
  (succeeds.bind rest).congr (by simp)

theorem forget {step : Lower α} (runs : Runs before after condition step) :
    Runs before (fun _ => True) condition step :=
  ⟨fun _ _ _ _ _ => trivial, runs.iff⟩

theorem map {first : Lower α} (runs : Runs before after condition first) (f : α → β) :
    Runs before after condition (first >>= fun a => Pure.pure (f a)) :=
  (runs.bind fun a => pure (f a)).congr (by simp)

/-- Nothing but the result of the step is at stake. -/
private theorem of_map {first : Lower α} (f : α → β)
    (runs : Runs before after condition (first >>= fun a => Pure.pure (f a))) :
    Runs before after condition first := by
  refine ⟨fun pass a later starts ran => ?_, fun pass starts => (Iff.trans ?_ (runs.iff pass starts))⟩
  · exact runs.leaves pass (f a) later starts (Lower.bind_eq_ok.mpr ⟨a, later, ran, rfl⟩)
  · constructor
    · rintro ⟨a, later, ran⟩
      exact ⟨f a, later, Lower.bind_eq_ok.mpr ⟨a, later, ran, rfl⟩⟩
    · rintro ⟨b, later, ran⟩
      obtain ⟨a, middle, ran, -⟩ := Lower.bind_eq_ok.mp ran
      exact ⟨a, middle, ran⟩

end Runs

/-- A step that succeeds, in a pass that fits the place, if and only if a condition holds. -/
abbrev Decides (place : Script.Place) (condition : Prop) (step : Lower α) : Prop :=
  Runs (Fits place) (Fits place) condition step

theorem Keeps.stays {step : Lower α} (keeps : Keeps step) :
    ∀ pass a later, Fits place pass → step pass = (.ok a, later) → Fits place later :=
  fun pass _ _ fits ran => fits.kept (by simpa [ran] using keeps pass)

namespace Decides

variable {place : Script.Place}

theorem succeeds {step : Lower α} (keeps : Keeps step)
    (can : ∀ pass, Fits place pass → ∃ a later, step pass = (.ok a, later)) :
    Decides place True step := by
  refine Runs.succeeds fun pass fits => ?_
  obtain ⟨a, later, ran⟩ := can pass fits
  exact ⟨a, later, ran, keeps.stays pass a later fits ran⟩

theorem fresh (known : stem ∈ stems) : Decides place True (freshName stem) :=
  succeeds (closed_keeps.fresh known) fun _ fits =>
    ⟨_, _, freshName_eq_ok.mpr ⟨fits.reach, rfl, rfl⟩⟩

/-- The place tells what a step may ask of the surroundings. -/
theorem surroundings {next : List Frame → Lower β}
    (rest : ∀ frames, (innermostReceiver frames).isSome = place.inStep →
      inMethod frames = place.inMethod → Decides place condition (next frames)) :
    Decides place condition (surroundings >>= next) := by
  have reads : Decides place True Lowering.surroundings :=
    succeeds closed_keeps.surroundings fun pass _ => ⟨pass.frames, pass, rfl⟩
  refine (reads.bindOn (fun frames =>
    (innermostReceiver frames).isSome = place.inStep ∧ inMethod frames = place.inMethod) ?_
    fun frames told => rest frames told.1 told.2).congr (by simp)
  rintro pass frames later fits ran
  cases ran
  exact ⟨fits.inStep, fits.inMethod⟩

theorem withMethod {step : Lower α} (decides : Decides place.inDefinition condition step)
    (keeps : Keeps step) :
    Decides place condition (step.withFrame .method) := by
  refine ⟨keeps.withMethod.stays, fun pass fits => ?_⟩
  exact (Lower.withFrame_succeeds (keeps.frames_ne_nil rfl)).trans (decides.iff _ fits.inDefinition)

theorem comparison (op : Script.BinaryOp) : Decides place (op ≠ .floorDiv) (comparison op) := by
  unfold Lowering.comparison
  cases known : op.target? with
  | some target =>
    refine (Runs.pure target).congr ⟨fun _ floor => ?_, fun _ => trivial⟩
    rw [floor] at known
    cases known
  | none =>
    refine (Runs.fail _).congr ⟨False.elim, fun other => other ?_⟩
    exact op.target?_eq_none_iff.mp known

theorem floorDivision (left right : Target.Expr) (loc : Option Location) :
    Decides place True
      (instantiate .full floorDivision [("left", left), ("right", right)] loc) :=
  succeeds (closed_keeps.instantiate .full _ _ loc) fun _ fits =>
    ⟨_, _, instantiate_floorDivision_full left right loc fits.faithful⟩

theorem applyGenerator (generator : Target.Expr) (loc : Option Location) :
    Decides place True (instantiate .full applyGenerator [("fn", generator)] loc) :=
  succeeds (closed_keeps.instantiate .full _ _ loc) fun _ fits =>
    ⟨_, _, instantiate_applyGenerator_full generator loc fits.faithful⟩

end Decides

section

open Target.Vocabulary (full)

@[simp] theorem require_full (kind : Target.NodeKind) : require full kind = pure () := by
  rw [require, Target.Vocabulary.require_full]
  rfl

@[simp] theorem buildExpr_full (node : Target.Expr) : buildExpr full node = pure node := by
  rw [buildExpr, Target.Vocabulary.expr_full]
  rfl

@[simp] theorem buildStmt_full (node : Target.Stmt) : buildStmt full node = pure node := by
  rw [buildStmt, Target.Vocabulary.stmt_full]
  rfl

@[simp] theorem identifier_full (loc : Option Location) (name : String) :
    identifier full loc name = pure (.identifier loc name) := buildExpr_full _

@[simp] theorem assign_full (loc : Option Location) (name : String) (value : Target.Expr) :
    assign full loc name value =
      pure (.assignment loc .assign (.identifier loc name) value) := by
  simp [assign]

@[simp] theorem assignStmt_full (loc : Option Location) (name : String) (value : Target.Expr) :
    assignStmt full loc name value =
      pure (.expression loc (.assignment loc .assign (.identifier loc name) value)) := by
  simp [assignStmt]

@[simp] theorem declarator_full (loc : Option Location) (id : Target.Expr)
    (init : Option Target.Expr) : declarator full loc id init = pure (.mk loc id init) := by
  simp [declarator]

private theorem declareAll_full (loc : Option Location) (names : List String) :
    declareAll full loc names = pure (names.map fun name => .mk loc (.identifier loc name) none) := by
  induction names with
  | nil => rfl
  | cons name names ih => simp [declareAll, ih]

theorem declareNames_full (loc : Option Location) (names : List String) :
    ∃ declarations, declareNames full loc names = pure declarations := by
  unfold declareNames
  split
  · exact ⟨[], rfl⟩
  · exact ⟨_, by rw [declareAll_full, pure_bind, buildStmt_full, pure_bind]⟩

end

/-- A body is lowered in the place that its frame makes. -/
theorem Runs.listBody {before : Pass → Prop} {inner : Script.Place}
    {lowering : Lower (List (List Target.Stmt))}
    (enters : ∀ pass, before pass →
      Fits inner (pass.push .scope))
    (remains : ∀ pass later, before pass → Kept pass later → before later)
    (decides : Decides inner condition lowering) (keeps : Keeps lowering)
    (loc : Option Location) (stmts : List Script.Stmt) :
    Runs before before condition (listBody .full loc stmts lowering) := by
  have inside : Runs before before condition (lowering.withFrame .scope) := by
    refine ⟨fun pass a later starts ran => remains pass later starts ?_, fun pass starts => ?_⟩
    · simpa [ran] using keeps.withScope pass
    · exact (Lower.withFrame_succeeds (keeps.frames_ne_nil rfl)).trans
        (decides.iff _ (enters pass starts))
  refine (inside.bindOn (fun result => ∃ names, result.2 = .scope names) ?_ ?_).congr
    (and_true _).to_iff
  · intro pass result later _ ran
    exact keeps.withScope_frame ran
  · rintro ⟨lowered, _⟩ ⟨names, rfl⟩
    obtain ⟨declarations, same⟩ := declareNames_full loc names
    simp only [same, pure_bind]
    exact .pure _

namespace Decides

variable {place : Script.Place}

theorem single {stmt : Script.Stmt}
    (decides : Decides place (Sound (stmt.nodes place false)) (lowerStmt .full stmt)) :
    Decides place (Sound (stmt.nodes place true))
      (single stmt.kindName (lowerStmt .full stmt)) := by
  refine (decides.bindOn (Sized stmt) (fun pass a later _ => yields_sized _ stmt pass a later) ?_).congr
    (Script.sound_alone place stmt).symm
  intro expansion sized
  have alone := sized.normalize_iff
  cases normal : expansion.normalize with
  | single item => exact (Runs.pure item).congr (by simpa [normal] using alone)
  | spread items => exact (Runs.fail _).congr (by simpa [normal] using alone)

theorem chainLink (loc : Option Location) (op : Target.BinaryOp) (left right : Target.Expr)
    (chain : Option Target.Expr) :
    Decides place True (chainLink .full loc op left right chain) := by
  rw [Lowering.chainLink, buildExpr_full, pure_bind]
  cases chain with
  | none => exact .pure _
  | some chain =>
    simp only [buildExpr_full]
    exact .pure _

theorem functionExpr (loc own : Option Location) (bound generator async : Bool)
    (params : List Target.Expr) (body : Target.Block) :
    Decides place True (functionExpr .full loc own bound generator async params body) := by
  unfold Lowering.functionExpr
  split
  · simp only [buildExpr_full]
    exact .pure _
  · split
    · simp only [buildExpr_full, buildStmt_full, require_full, pure_bind]
      exact (applyGenerator _ loc).map _
    · simp only [buildExpr_full]
      exact .pure _

end Decides

/-- A cascade with a number of receivers is the innermost frame. -/
structure AtDepth (depth : Nat) (pass : Pass) : Prop where
  top : ∃ held outer, pass.frames = .cascade held :: outer ∧ held.length = depth ∧
    hasScope outer = true
  faithful : pass.templates.Faithful

theorem AtDepth.fits (deep : AtDepth (depth + 1) pass) : Fits .step pass := by
  obtain ⟨held, outer, frames, length, reach⟩ := deep.top
  have some : held ≠ [] := List.ne_nil_of_length_eq_add_one length
  refine ⟨by simpa [frames, hasScope] using reach, ?_, by simp [frames, inMethod, Script.Place.step],
    deep.faithful⟩
  simpa [frames, innermostReceiver, Script.Place.step] using some

theorem AtDepth.kept (deep : AtDepth depth pass) (kept : Kept pass later) :
    AtDepth depth later := by
  obtain ⟨held, outer, frames, length, reach⟩ := deep.top
  obtain ⟨names, framesLater⟩ := kept.frames
  refine ⟨⟨held, extendScope names outer, ?_, length, by simpa using reach⟩,
    kept.templates deep.faithful⟩
  rw [framesLater, frames]
  rfl

namespace Runs

/-- In a cascade with receivers, steps run as in any place inside one. -/
theorem atDepth {step : Lower α} (decides : Decides .step condition step) (keeps : Keeps step) :
    Runs (AtDepth (depth + 1)) (AtDepth (depth + 1)) condition step :=
  ⟨fun pass _ _ deep ran => deep.kept (by simpa [ran] using keeps pass),
    fun pass deep => decides.iff pass deep.fits⟩

theorem receivers {next : List String → Lower β}
    (rest : ∀ held, held.length = depth → Runs (AtDepth depth) after condition (next held)) :
    Runs (AtDepth depth) after condition (receivers true >>= next) := by
  have reads : ∀ pass, AtDepth depth pass → ∃ held, held.length = depth ∧
      Lowering.receivers true pass = (.ok held, pass) := by
    intro pass deep
    obtain ⟨held, outer, frames, length, -⟩ := deep.top
    exact ⟨held, length, receivers_eq frames⟩
  have given : Runs (AtDepth depth) (AtDepth depth) True (Lowering.receivers true) := by
    refine succeeds fun pass deep => ?_
    obtain ⟨held, -, read⟩ := reads pass deep
    exact ⟨held, pass, read, deep⟩
  refine (given.bindOn (·.length = depth) (fun pass a later deep ran => ?_) rest).congr (by simp)
  obtain ⟨held, length, read⟩ := reads pass deep
  cases ran.symm.trans read
  exact length

theorem setReceivers (depth : Nat) (held : List String) :
    Runs (AtDepth depth) (AtDepth held.length) True (setReceivers true held) := by
  refine succeeds fun pass deep => ?_
  obtain ⟨old, outer, frames, -, reach⟩ := deep.top
  refine ⟨(), pass.receive held, setReceivers_eq held frames, ?_⟩
  exact ⟨⟨held, outer, by simp [frames], rfl, reach⟩, deep.faithful⟩

end Runs

/-- A step that deeper steps follow has to be an expression. -/
theorem Runs.stored (loc : Option Location) {step : Script.Stmt} (length : held.length = depth + 1)
    (decides : Decides .step (Sound (step.nodes .step false)) (lowerStmt .full step)) :
    Runs (AtDepth (depth + 1)) (AtDepth (depth + 2))
      (step.isExpression = true ∧ Sound (step.nodes .step false))
      (lowerStored .full loc held step) := by
  cases step with
  | expression at_ value =>
    rw [lowerStmt, require_full, pure_bind] at decides
    simp only [lowerStored, assignStmt_full, pure_bind]
    have stores (name : String) : Runs (AtDepth (depth + 1)) (AtDepth (depth + 2)) True
        (Lowering.setReceivers true (held ++ [name])) := by
      simpa [length] using setReceivers (depth + 1) (held ++ [name])
    have known : cascadeStem ∈ stems := by simp [stems]
    refine (((Decides.fresh known).atDepth (closed_keeps.fresh known)).always fun name =>
      ((decides.of_map _).atDepth (closed_keeps.expr .full value)).bind fun _ =>
        (stores name).map _).congr ?_
    simp [Script.Stmt.isExpression]
  | _ =>
    refine (Runs.fail _).congr ?_
    simp [Script.Stmt.isExpression]

theorem Decides.withCascade {step : Lower α} (keeps : KeepsBelow step) (name : String)
    (runs : Runs (AtDepth 1) after condition step) :
    Decides place condition (step.withFrame (.cascade name)) := by
  refine ⟨(keeps.withCascade name).stays, fun pass fits => ?_⟩
  refine (Lower.withFrame_succeeds (keeps.frames_ne_nil rfl)).trans (runs.iff _ ⟨?_, fits.faithful⟩)
  exact ⟨[name], pass.frames, rfl, rfl, fits.reach⟩

end Offside.Lowering
