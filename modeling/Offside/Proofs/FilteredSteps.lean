import Offside.Proofs.LeafSteps
import Offside.Proofs.SuccessConditions

/-! How a vocabulary filters the steps of lowering. Each step checks kinds of nodes on its way, and these
are the kinds of the nodes it builds. A step with a vocabulary that has them all does what the step
with the full vocabulary does; with any other, it is refused for a kind that it checks. Templates
compiled before make no difference. -/

namespace Offside

namespace Target

/-- The kind of a node. The function in a function expression has none of its own. -/
def Node.kind? : Node → Option NodeKind
  | .expr _ node => some node.kind
  | .property _ => some .property
  | .function _ => none
  | .block _ => some .blockStatement
  | .handler _ => some .catchClause
  | .declarator _ => some .variableDeclarator
  | .stmt node => some node.kind

def kinds (nodes : List Node) : List NodeKind := nodes.filterMap Node.kind?

@[simp] theorem kinds_nil : kinds [] = [] := rfl

@[simp] theorem kinds_append (before after : List Node) :
    kinds (before ++ after) = kinds before ++ kinds after := List.filterMap_append

@[simp] theorem kinds_cons (node : Node) (nodes : List Node) :
    kinds (node :: nodes) = node.kind?.toList ++ kinds nodes := by
  cases kind : node.kind? <;> simp [kinds, kind]

/-- The kinds of a program and of all its nodes. -/
def Program.kinds (program : Program) : List NodeKind := .program :: Target.kinds program.nodes

end Target

namespace Lowering

open Target (NodeKind Vocabulary)

variable {pass other : Pass} {vocabulary : Vocabulary} {before : List NodeKind}
  {view : β → List NodeKind}

theorem Lower.bind_of_ok {first : Lower α} {next : α → Lower β} (result : (first pass).1 = .ok a) :
    (first >>= next) pass = next a (first pass).2 := by
  rw [Lower.bind_apply]
  generalize first pass = outcome at result
  obtain ⟨_, later⟩ := outcome
  cases result
  rfl

theorem Lower.bind_of_error {first : Lower α} {next : α → Lower β}
    (result : (first pass).1 = .error fault) :
    (first >>= next) pass = (.error fault, (first pass).2) := by
  rw [Lower.bind_apply]
  generalize first pass = outcome at result
  obtain ⟨_, later⟩ := outcome
  cases result
  rfl

theorem Lower.ofExcept_bind (first : Except Fault α) (next : α → Except Fault β) :
    Lower.ofExcept (first >>= next) = Lower.ofExcept first >>= fun a => Lower.ofExcept (next a) := by
  cases first <;> rfl

theorem Lower.ofExcept_ok (a : α) : Lower.ofExcept (.ok a) = pure a := rfl

theorem ofExcept_expr (vocabulary : Vocabulary) (node : Target.Expr) :
    Lower.ofExcept (vocabulary.expr node) = buildExpr vocabulary node := rfl

/-- Passes that differ at most in the templates that were compiled before. -/
structure Alike (pass other : Pass) : Prop where
  frames : other.frames = pass.frames
  reserved : other.reserved = pass.reserved
  faithful : pass.templates.Faithful
  otherFaithful : other.templates.Faithful

namespace Alike

theorem refl (faithful : pass.templates.Faithful) : Alike pass pass :=
  ⟨rfl, rfl, faithful, faithful⟩

variable {other : Pass} (alike : Alike pass other)

include alike

theorem push (opening : Opening) : Alike (pass.push opening) (other.push opening) :=
  ⟨congrArg (opening.frame :: ·) alike.frames, alike.reserved, alike.faithful, alike.otherFaithful⟩

theorem pop : Alike pass.pop other.pop :=
  ⟨congrArg List.tail alike.frames, alike.reserved, alike.faithful, alike.otherFaithful⟩

theorem receive (names : List String) : Alike (pass.receive names) (other.receive names) :=
  ⟨by simp [alike.frames], alike.reserved, alike.faithful, alike.otherFaithful⟩

theorem mint (name : String) : Alike (pass.mint name) (other.mint name) :=
  ⟨congrArg (declareName name) alike.frames, congrArg (name :: ·) alike.reserved, alike.faithful,
    alike.otherFaithful⟩

end Alike

/-- A step that gives the same and leaves the same, whatever templates are at hand. -/
def Indifferent (step : Lower α) : Prop :=
  ∀ pass other, Alike pass other →
    (step other).1 = (step pass).1 ∧ Alike (step pass).2 (step other).2

namespace Indifferent

theorem pure (a : α) : Indifferent (pure a) := fun _ _ alike => ⟨rfl, alike⟩

theorem fail (fault : Fault) : Indifferent (.fail fault : Lower α) := fun _ _ alike => ⟨rfl, alike⟩

theorem bind {first : Lower α} {next : α → Lower β} (indifferent : Indifferent first)
    (rest : ∀ a, Indifferent (next a)) : Indifferent (first >>= next) := by
  intro pass other alike
  obtain ⟨same, alike⟩ := indifferent pass other alike
  cases result : (first pass).1 with
  | error fault =>
    rw [Lower.bind_of_error result, Lower.bind_of_error (same.trans result)]
    exact ⟨rfl, alike⟩
  | ok a =>
    rw [Lower.bind_of_ok result, Lower.bind_of_ok (same.trans result)]
    exact rest a _ _ alike

theorem withFrame {step : Lower α} (indifferent : Indifferent step) (opening : Opening) :
    Indifferent (step.withFrame opening) := by
  intro pass other alike
  obtain ⟨same, inside⟩ := indifferent _ _ (alike.push opening)
  rw [Lower.withFrame_apply, Lower.withFrame_apply, same, inside.frames]
  exact ⟨rfl, inside.pop⟩

/-- Faithful caches answer alike, whether or not they have compiled the text. -/
theorem template (source : String) : Indifferent (template source) := by
  intro pass other alike
  have same : (other.templates.get source).1 = (pass.templates.get source).1 :=
    (alike.otherFaithful.get_fst source).trans (alike.faithful.get_fst source).symm
  exact ⟨same, alike.frames, alike.reserved, alike.faithful.get_snd source,
    alike.otherFaithful.get_snd source⟩

theorem freshName (stem : String) : Indifferent (freshName stem) := by
  intro pass other alike
  simp only [Lowering.freshName, alike.frames, alike.reserved]
  cases hasScope pass.frames
  · exact ⟨rfl, alike⟩
  · exact ⟨rfl, alike.mint _⟩

theorem ownFrame (opened : Bool) : Indifferent (ownFrame opened) := by
  intro pass other alike
  simp only [Lowering.ownFrame, alike.frames]
  cases opened
  · exact ⟨rfl, alike⟩
  · cases pass.frames <;> exact ⟨rfl, alike⟩

theorem receivers (opened : Bool) : Indifferent (receivers opened) := by
  refine (ownFrame opened).bind fun frame => ?_
  cases frame with
  | cascade held => exact pure held
  | scope _ | method => exact fail _

theorem setReceivers (opened : Bool) (names : List String) :
    Indifferent (setReceivers opened names) :=
  (receivers opened).bind fun _ _ _ alike => ⟨rfl, alike.receive names⟩

end Indifferent

/-- What becomes of an outcome if some kinds are checked in a vocabulary. -/
structure Filtered (vocabulary : Vocabulary) (checked : List NodeKind)
    (complete restricted : Except Fault α × Pass) : Prop where
  supported : ∀ kind, complete.1 ≠ .error (.unsupportedNode kind)
  faithful : complete.2.templates.Faithful
  same : (∀ kind ∈ checked, vocabulary.contains kind.name = true) →
    restricted.1 = complete.1 ∧ Alike complete.2 restricted.2
  refused : ∀ missing ∈ checked, vocabulary.contains missing.name = false →
    ∃ kind ∈ checked, vocabulary.contains kind.name = false ∧
      restricted.1 = .error (.unsupportedNode kind.name)

/-- The restricted step filters the complete one by the kinds it checks. These and the kinds at hand
before are those of its result. -/
def Filters (vocabulary : Vocabulary) (before : List NodeKind) (view : α → List NodeKind)
    (complete restricted : Lower α) : Prop :=
  ∀ pass other, Alike pass other → ∃ checked,
    Filtered vocabulary checked (complete pass) (restricted other) ∧
      ∀ a, (complete pass).1 = .ok a → ∀ kind, kind ∈ view a ↔ kind ∈ before ∨ kind ∈ checked

namespace Filters

theorem congr {complete restricted : Lower β} (filters : Filters vocabulary start view complete restricted)
    (same : ∀ kind, kind ∈ start ↔ kind ∈ before) :
    Filters vocabulary before view complete restricted := by
  intro pass other alike
  obtain ⟨checked, filtered, seen⟩ := filters pass other alike
  refine ⟨checked, filtered, fun a ran kind => ?_⟩
  rw [seen a ran kind, same]

/-- A step that checks nothing, and does not look at templates. -/
theorem unchecked {step : Lower α} {part : α → List NodeKind}
    (indifferent : Indifferent step)
    (supported : ∀ pass kind, (step pass).1 ≠ .error (.unsupportedNode kind))
    (seen : ∀ pass a, (step pass).1 = .ok a → ∀ kind, kind ∈ part a ↔ kind ∈ before) :
    Filters vocabulary before part step step := by
  intro pass other tells
  obtain ⟨same, alike⟩ := indifferent pass other tells
  refine ⟨[], ⟨supported pass, alike.faithful, fun _ => ⟨same, alike⟩, by simp⟩, ?_⟩
  intro a ran kind
  simpa using seen pass a ran kind

theorem pure (seen : ∀ kind, kind ∈ view b ↔ kind ∈ before) :
    Filters vocabulary before view (pure b) (pure b) := by
  refine unchecked (fun _ _ alike => ⟨rfl, alike⟩) (fun _ _ failed => by cases failed) ?_
  intro pass a ran
  cases ran
  exact seen

theorem fail {fault : Fault} (supported : ∀ kind, fault ≠ .unsupportedNode kind) :
    Filters vocabulary before view (.fail fault) (.fail fault) := by
  refine unchecked (fun _ _ alike => ⟨rfl, alike⟩) ?_ (fun _ _ ran => by cases ran)
  intro pass kind failed
  exact supported kind (Except.error.inj failed)

/-- The kinds that both steps check are checked. -/
theorem bind {first restrictedFirst : Lower α} {next restrictedNext : α → Lower β}
    {part : α → List NodeKind} (filters : Filters vocabulary start part first restrictedFirst)
    (rest : ∀ a, Filters vocabulary (before ++ part a) view (next a) (restrictedNext a)) :
    Filters vocabulary (before ++ start) view (first >>= next)
      (restrictedFirst >>= restrictedNext) := by
  intro pass other alike
  obtain ⟨checked, filtered, seen⟩ := filters pass other alike
  cases result : (first pass).1 with
  | error fault =>
    rw [Lower.bind_of_error result]
    refine ⟨checked, ⟨fun kind same => ?_, filtered.faithful, fun all => ?_, ?_⟩, ?_⟩
    · have same : fault = .unsupportedNode kind := Except.error.inj same
      exact filtered.supported kind (result.trans (congrArg _ same))
    · obtain ⟨same, alike⟩ := filtered.same all
      rw [Lower.bind_of_error (same.trans result)]
      exact ⟨rfl, alike⟩
    · intro missing member lacks
      obtain ⟨kind, member, lacks, refused⟩ := filtered.refused missing member lacks
      exact ⟨kind, member, lacks, by rw [Lower.bind_of_error refused]⟩
    · intro b ran
      cases ran
  | ok a =>
    rw [Lower.bind_of_ok result]
    have joined (more : List NodeKind) (kind : NodeKind) :
        kind ∈ before ++ part a ∨ kind ∈ more ↔ kind ∈ before ++ start ∨ kind ∈ checked ++ more := by
      rw [List.mem_append, List.mem_append, List.mem_append, seen a result kind]
      tauto
    by_cases all : ∀ kind ∈ checked, vocabulary.contains kind.name = true
    · obtain ⟨same, alike⟩ := filtered.same all
      obtain ⟨more, filteredNext, seenNext⟩ := rest a _ _ alike
      rw [Lower.bind_of_ok (same.trans result)]
      refine ⟨checked ++ more, ⟨filteredNext.supported, filteredNext.faithful, fun all => ?_, ?_⟩, ?_⟩
      · exact filteredNext.same fun kind member => all kind (List.mem_append_right _ member)
      · intro missing member lacks
        have later : missing ∈ more := by
          refine (List.mem_append.mp member).resolve_left fun early => ?_
          rw [all missing early] at lacks
          cases lacks
        obtain ⟨kind, member, refused⟩ := filteredNext.refused missing later lacks
        exact ⟨kind, List.mem_append_right _ member, refused⟩
      · exact fun b ran kind => (seenNext b ran kind).trans (joined more kind)
    · -- The restricted step is refused at once, so that the complete one is compared with itself.
      obtain ⟨more, filteredNext, seenNext⟩ := rest a _ _ (.refl filtered.faithful)
      refine ⟨checked ++ more, ⟨filteredNext.supported, filteredNext.faithful, fun every => ?_, ?_⟩, ?_⟩
      · exact absurd (fun kind member => every kind (List.mem_append_left _ member)) all
      · intro _ _ _
        obtain ⟨missing, lacking⟩ := not_forall.mp all
        obtain ⟨early, lacks⟩ := Classical.not_imp.mp lacking
        obtain ⟨kind, member, lacks, refused⟩ :=
          filtered.refused missing early (Bool.eq_false_of_not_eq_true lacks)
        refine ⟨kind, List.mem_append_left _ member, lacks, ?_⟩
        rw [Lower.bind_of_error refused]
      · exact fun b ran kind => (seenNext b ran kind).trans (joined more kind)

/-- A part into which some of the kinds at hand go. -/
theorem bindOn (outer : List NodeKind) {first restrictedFirst : Lower α}
    {next restrictedNext : α → Lower β} {part : α → List NodeKind}
    (filters : Filters vocabulary start part first restrictedFirst)
    (same : ∀ kind, kind ∈ outer ++ start ↔ kind ∈ before)
    (rest : ∀ a, Filters vocabulary (outer ++ part a) view (next a) (restrictedNext a)) :
    Filters vocabulary before view (first >>= next) (restrictedFirst >>= restrictedNext) :=
  (filters.bind rest).congr same

/-- A step that adds no node, and what comes after it. -/
theorem skip {first restrictedFirst : Lower α} {next restrictedNext : α → Lower β}
    (filters : Filters vocabulary [] (fun _ => []) first restrictedFirst)
    (rest : ∀ a, Filters vocabulary before view (next a) (restrictedNext a)) :
    Filters vocabulary before view (first >>= next) (restrictedFirst >>= restrictedNext) :=
  filters.bindOn before (by simp) fun a => (rest a).congr (by simp)

/-- The kinds of a part come after those at hand before. -/
theorem part {first restrictedFirst : Lower α} {next restrictedNext : α → Lower β}
    {part : α → List NodeKind} (filters : Filters vocabulary [] part first restrictedFirst)
    (rest : ∀ a, Filters vocabulary (before ++ part a) view (next a) (restrictedNext a)) :
    Filters vocabulary before view (first >>= next) (restrictedFirst >>= restrictedNext) :=
  filters.bindOn before (by simp) rest

/-- With the full vocabulary a check is nothing, and with another one the kind may be missing. -/
theorem check {kind : NodeKind} {guard : Lower α} {complete : Lower β} {next : α → Lower β}
    (guards : ∀ pass, guard pass =
      (if vocabulary.contains kind.name then .ok a else .error (.unsupportedNode kind.name), pass))
    (rest : Filters vocabulary (kind :: before) view complete (next a)) :
    Filters vocabulary before view complete (guard >>= next) := by
  intro pass other alike
  obtain ⟨checked, filtered, seen⟩ := rest pass other alike
  refine ⟨kind :: checked, ⟨filtered.supported, filtered.faithful, ?_, ?_⟩, ?_⟩
  · intro all
    obtain ⟨has, all⟩ := List.forall_mem_cons.mp all
    rw [Lower.bind_of_ok (by rw [guards, has]; rfl), guards]
    exact filtered.same all
  · intro missing member lacks
    cases has : vocabulary.contains kind.name with
    | false =>
      refine ⟨kind, List.mem_cons_self .., has, ?_⟩
      rw [Lower.bind_of_error (by rw [guards, has]; rfl)]
    | true =>
      have later : missing ∈ checked := by
        refine (List.mem_cons.mp member).resolve_left fun same => ?_
        rw [same, has] at lacks
        cases lacks
      obtain ⟨kind, member, refused⟩ := filtered.refused missing later lacks
      refine ⟨kind, List.mem_cons_of_mem _ member, ?_⟩
      rw [Lower.bind_of_ok (by rw [guards, has]; rfl), guards]
      exact refused
  · intro b ran kind
    rw [seen b ran kind, List.mem_cons, List.mem_cons]
    tauto

theorem require (kind : NodeKind) {complete : Lower β} {next : Unit → Lower β}
    (rest : Filters vocabulary (kind :: before) view complete (next ())) :
    Filters vocabulary before view complete (require vocabulary kind >>= next) :=
  check (fun _ => rfl) rest

theorem buildExpr (node : Target.Expr) {complete : Lower β} {next : Target.Expr → Lower β}
    (rest : Filters vocabulary (node.kind :: before) view complete (next node)) :
    Filters vocabulary before view complete (buildExpr vocabulary node >>= next) := by
  refine check (fun pass => ?_) rest
  rw [Lowering.buildExpr, Vocabulary.expr, Vocabulary.require, Lower.ofExcept_apply]
  split <;> rfl

theorem buildStmt (node : Target.Stmt) {complete : Lower β} {next : Target.Stmt → Lower β}
    (rest : Filters vocabulary (node.kind :: before) view complete (next node)) :
    Filters vocabulary before view complete (buildStmt vocabulary node >>= next) := by
  refine check (fun pass => ?_) rest
  rw [Lowering.buildStmt, Vocabulary.stmt, Vocabulary.require, Lower.ofExcept_apply]
  split <;> rfl

theorem identifier (loc : Option Location) (name : String) {complete : Lower β}
    {next : Target.Expr → Lower β}
    (rest : Filters vocabulary (.identifier :: before) view complete (next (.identifier loc name))) :
    Filters vocabulary before view complete (identifier vocabulary loc name >>= next) :=
  buildExpr (.identifier loc name) rest

theorem assign (loc : Option Location) (name : String) (value : Target.Expr) {complete : Lower β}
    {next : Target.Expr → Lower β}
    (rest : Filters vocabulary (.assignmentExpression :: .identifier :: before) view complete
      (next (.assignment loc .assign (.identifier loc name) value))) :
    Filters vocabulary before view complete (assign vocabulary loc name value >>= next) := by
  rw [Lowering.assign, bind_assoc]
  exact identifier loc name (buildExpr _ rest)

theorem assignStmt (loc : Option Location) (name : String) (value : Target.Expr)
    {complete : Lower β} {next : Target.Stmt → Lower β}
    (rest : Filters vocabulary (.expressionStatement :: .assignmentExpression :: .identifier :: before)
      view complete (next (.expression loc (.assignment loc .assign (.identifier loc name) value)))) :
    Filters vocabulary before view complete (assignStmt vocabulary loc name value >>= next) := by
  rw [Lowering.assignStmt, bind_assoc]
  exact assign loc name value (buildStmt _ rest)

theorem declarator (loc : Option Location) (id : Target.Expr) (init : Option Target.Expr)
    {complete : Lower β} {next : Target.Declarator → Lower β}
    (rest : Filters vocabulary (.variableDeclarator :: before) view complete (next (.mk loc id init))) :
    Filters vocabulary before view complete (declarator vocabulary loc id init >>= next) := by
  rw [Lowering.declarator, bind_assoc]
  exact require _ rest

theorem surroundings : Filters vocabulary [] (fun _ => []) surroundings surroundings := by
  refine unchecked (fun pass other alike => ⟨?_, alike⟩) (fun _ _ failed => by cases failed) ?_
  · exact congrArg Except.ok alike.frames
  · simp

theorem fresh (stem : String) :
    Filters vocabulary [] (fun _ => []) (freshName stem) (freshName stem) := by
  refine unchecked (.freshName stem) (fun pass kind => ?_) (by simp)
  unfold freshName
  cases hasScope pass.frames <;> simp

theorem ownFrame : Filters vocabulary [] (fun _ => []) (ownFrame true) (ownFrame true) := by
  refine unchecked (.ownFrame true) (fun pass kind => ?_) (by simp)
  simp only [Lowering.ownFrame, ↓reduceIte]
  split <;> simp

theorem receivers : Filters vocabulary [] (fun _ => []) (receivers true) (receivers true) := by
  refine skip ownFrame fun frame => ?_
  cases frame with
  | cascade held => exact pure (by simp)
  | scope _ | method => exact fail (by simp)

theorem setReceivers (names : List String) :
    Filters vocabulary [] (fun _ => []) (setReceivers true names) (setReceivers true names) :=
  skip receivers fun _ =>
    unchecked (fun _ _ alike => ⟨rfl, alike.receive names⟩) (by simp) (by simp)

theorem comparison (op : Script.BinaryOp) :
    Filters vocabulary [] (fun _ => []) (comparison op) (comparison op) := by
  unfold Lowering.comparison
  split
  · exact pure (by simp)
  · exact fail (by simp)

theorem withFrame {complete restricted : Lower α} {part : α → List NodeKind} (opening : Opening)
    (filters : Filters vocabulary before part complete restricted) :
    Filters vocabulary before (fun result => part result.1) (complete.withFrame opening)
      (restricted.withFrame opening) := by
  intro pass other alike
  obtain ⟨checked, filtered, seen⟩ := filters _ _ (alike.push opening)
  rw [Lower.withFrame_apply, Lower.withFrame_apply]
  refine ⟨checked, ⟨fun kind failed => ?_, filtered.faithful, fun all => ?_, ?_⟩, ?_⟩
  · cases result : (complete (pass.push opening)).1 with
    | ok a =>
      cases frames : (complete (pass.push opening)).2.frames <;>
        rw [result, frames] at failed <;> cases failed
    | error fault =>
      rw [result] at failed
      cases failed
      exact filtered.supported kind result
  · obtain ⟨same, alike⟩ := filtered.same all
    rw [same, alike.frames]
    exact ⟨rfl, alike.pop⟩
  · intro missing member lacks
    obtain ⟨kind, member, lacks, refused⟩ := filtered.refused missing member lacks
    refine ⟨kind, member, lacks, ?_⟩
    rw [refused]
    rfl
  · intro result ran
    obtain ⟨a, inner, continued⟩ := Except.bind_eq_ok.mp ran
    obtain ⟨left, _, same⟩ := Except.bind_eq_ok.mp continued
    cases same
    exact seen a inner

theorem declareAll (loc : Option Location) (names : List String) :
    Filters vocabulary [] (fun declarators => Target.kinds (Target.declaratorNodes declarators))
      (declareAll .full loc names) (declareAll vocabulary loc names) := by
  induction names with
  | nil => exact pure (by simp [Target.declaratorNodes])
  | cons name names ih =>
    simp only [Lowering.declareAll, identifier_full, declarator_full, pure_bind]
    refine identifier loc name (declarator loc _ none (part ih fun _ => pure ?_))
    simp [Target.declaratorNodes, Target.Declarator.nodes, Target.Expr.nodes, Target.optionNodes,
      Target.Node.kind?, Target.Expr.kind]

theorem declareNames (loc : Option Location) (names : List String) :
    Filters vocabulary [] (fun stmts => Target.kinds (Target.stmtNodes stmts))
      (declareNames .full loc names) (declareNames vocabulary loc names) := by
  unfold Lowering.declareNames
  split
  · exact pure (by simp [Target.stmtNodes])
  · simp only [buildStmt_full, pure_bind]
    refine part (declareAll loc names) fun _ => buildStmt _ (pure ?_)
    simp [Target.stmtNodes, Target.Stmt.nodes, Target.Node.kind?, Target.Stmt.kind]

/-- The declarations at the top of a body come after its statements. -/
theorem listBody (loc : Option Location) (stmts : List Script.Stmt)
    {complete restricted : Lower (List (List Target.Stmt))}
    (filters : Filters vocabulary []
      (fun lists => Target.kinds (Target.stmtNodes (hoist stmts lists))) complete restricted) :
    Filters vocabulary [] (fun body => Target.kinds (Target.stmtNodes body))
      (listBody .full loc stmts complete) (listBody vocabulary loc stmts restricted) := by
  refine part (filters.withFrame .scope) fun ⟨lists, frame⟩ => ?_
  match frame with
  | .scope names =>
    refine part (declareNames loc names) fun declarations => pure fun kind => ?_
    simp [or_comm]
  | .cascade _ | .method => exact fail (by simp)

theorem single (kind : String) {complete restricted : Lower (Expansion Target.Stmt)}
    (filters : Filters vocabulary []
      (fun expansion => Target.kinds (Target.stmtNodes expansion.toList)) complete restricted) :
    Filters vocabulary [] (fun stmt => Target.kinds stmt.nodes) (single kind complete)
      (single kind restricted) := by
  refine part filters fun expansion => ?_
  have same := expansion.toList_normalize
  split
  next stmt normal =>
    rw [normal] at same
    rw [← same]
    exact pure (by simp [Expansion.toList, Target.stmtNodes])
  next => exact fail (by simp)

/-- A node that is built last. -/
theorem builtExpr {node : Target.Expr} {built : Target.Expr → List NodeKind}
    (seen : ∀ kind, kind ∈ built node ↔ kind ∈ node.kind :: before) :
    Filters vocabulary before built (Pure.pure node) (Lowering.buildExpr vocabulary node) := by
  rw [← bind_pure (Lowering.buildExpr vocabulary node)]
  exact buildExpr node (pure seen)

theorem chainLink (role : Role) (loc : Option Location) (op : Target.BinaryOp)
    (left right : Target.Expr) (chain : Option Target.Expr) :
    Filters vocabulary
      (Target.kinds (Target.optionNodes chain ++ left.nodes .plain ++ right.nodes .plain))
      (fun link => Target.kinds (link.nodes role))
      (chainLink .full loc op left right chain) (chainLink vocabulary loc op left right chain) := by
  simp only [Lowering.chainLink, buildExpr_full, pure_bind]
  refine buildExpr _ ?_
  cases chain with
  | none =>
    exact pure (by simp [Target.optionNodes, Target.Expr.nodes, Target.Node.kind?])
  | some chain =>
    refine builtExpr fun kind => ?_
    simp only [Target.optionNodes, Target.Expr.nodes, Target.kinds_append, Target.kinds_cons,
      Target.Node.kind?, Option.toList_some, List.mem_append, List.mem_cons]
    tauto

/-- A template is filtered like the steps that build its instance. -/
theorem instantiate {entry : Template} (compiled : Template.compile source = .ok entry)
    {bindings : Template.Bindings} {loc : Option Location} {built : Target.Expr → List NodeKind}
    (filters : Filters vocabulary before built (.ofExcept (entry.expression .full bindings loc))
      (.ofExcept (entry.expression vocabulary bindings loc))) :
    Filters vocabulary before built (instantiate .full source bindings loc)
      (instantiate vocabulary source bindings loc) := by
  intro pass other alike
  rw [instantiate_apply .full bindings loc alike.faithful compiled,
    instantiate_apply vocabulary bindings loc alike.otherFaithful compiled]
  exact filters _ _ ⟨alike.frames, alike.reserved, alike.faithful.get_snd source,
    alike.otherFaithful.get_snd source⟩

theorem floorDivision (role : Role) (loc : Option Location) (left right : Target.Expr) :
    Filters vocabulary (Target.kinds (left.nodes .plain ++ right.nodes .plain))
      (fun lowered => Target.kinds (lowered.nodes role))
      (Lowering.instantiate .full floorDivision [("left", left), ("right", right)] loc)
      (Lowering.instantiate vocabulary floorDivision [("left", left), ("right", right)] loc) := by
  refine instantiate compile_floorDivision ?_
  simp only [Template.expression, Template.Expr.instantiate, Template.instantiateAll,
    Template.Bindings.find?, BEq.rfl, List.find?_cons_of_pos, Option.map_some, String.reduceBEq,
    Bool.false_eq_true, not_false_eq_true, List.find?_cons_of_neg, Lower.ofExcept_bind,
    ofExcept_expr, Lower.ofExcept_ok, buildExpr_full, pure_bind, bind_assoc]
  refine buildExpr _ (buildExpr _ (buildExpr _ (buildExpr _ (builtExpr fun kind => ?_))))
  simp only [Target.Expr.nodes, Target.exprNodes, Target.kinds_append, Target.kinds_cons,
    Target.Node.kind?, Target.Expr.kind, Option.toList_some, Target.kinds_nil, List.mem_append,
    List.mem_cons, List.not_mem_nil]
  tauto

theorem applyGenerator (loc : Option Location) (generator : Target.Expr) :
    Filters vocabulary (Target.kinds (generator.nodes .plain))
      (fun lowered => Target.kinds (lowered.nodes .plain))
      (Lowering.instantiate .full applyGenerator [("fn", generator)] loc)
      (Lowering.instantiate vocabulary applyGenerator [("fn", generator)] loc) := by
  refine instantiate compile_applyGenerator ?_
  simp only [Template.expression, Template.Expr.instantiate, Template.instantiateAll,
    Template.Bindings.find?, BEq.rfl, List.find?_cons_of_pos, Option.map_some, Lower.ofExcept_bind,
    ofExcept_expr, Lower.ofExcept_ok, buildExpr_full, pure_bind, bind_assoc]
  refine buildExpr _ (buildExpr _ (buildExpr _ (buildExpr _ (builtExpr fun kind => ?_))))
  simp only [Target.Expr.nodes, Target.exprNodes, Target.kinds_append, Target.kinds_cons,
    Target.Node.kind?, Target.Expr.kind, Option.toList_some, Target.kinds_nil, List.mem_append,
    List.mem_cons, List.not_mem_nil]
  tauto

theorem functionExpr (role : Role) (loc own : Option Location) (bound generator async : Bool)
    (params : List Target.Expr) (body : Target.Block) :
    Filters vocabulary (Target.kinds (Target.exprNodes params ++ body.nodes))
      (fun lowered => Target.kinds (lowered.nodes role))
      (functionExpr .full loc own bound generator async params body)
      (functionExpr vocabulary loc own bound generator async params body) := by
  unfold Lowering.functionExpr
  split
  · rw [buildExpr_full]
    exact builtExpr (by simp [Target.Expr.nodes, Target.Function.nodes, Target.Node.kind?])
  split
  · -- The parameters go to the arrow function, and the body to the generator that it applies.
    simp only [buildExpr_full, buildStmt_full, require_full, pure_bind]
    refine buildExpr _ (bindOn (Target.kinds (Target.exprNodes params)) (applyGenerator loc _) ?_ ?_)
    · intro kind
      simp only [Target.Expr.nodes, Target.Function.nodes, Target.exprNodes, Target.kinds_append,
        Target.kinds_cons, Target.Node.kind?, Option.toList_some, Option.toList_none,
        List.nil_append, List.mem_append, List.mem_cons]
      tauto
    · intro applied
      refine buildStmt _ (require _ (builtExpr fun kind => ?_))
      simp only [Target.Expr.nodes, Target.Function.nodes, Target.Block.nodes, Target.stmtNodes,
        Target.Stmt.nodes, Target.optionNodes, Target.kinds_append, Target.kinds_cons,
        Target.Node.kind?, Target.Stmt.kind, Option.toList_some, Option.toList_none,
        List.nil_append, List.append_nil, List.mem_append, List.mem_cons]
      tauto
  · rw [buildExpr_full]
    exact builtExpr (by simp [Target.Expr.nodes, Target.Function.nodes, Target.Node.kind?])

end Filters

/-- Hoisting keeps the kinds of what a statement became. -/
theorem mem_kinds_hoist_cons (stmt : Script.Stmt) (stmts : List Script.Stmt)
    (items : List Target.Stmt) (lowered : List (List Target.Stmt)) (kind : NodeKind) :
    kind ∈ Target.kinds (Target.stmtNodes (hoist (stmt :: stmts) (items :: lowered))) ↔
      kind ∈ Target.kinds (Target.stmtNodes items) ++
        Target.kinds (Target.stmtNodes (hoist stmts lowered)) := by
  obtain ⟨before, after, split, placed⟩ := hoist_cons stmt stmts items lowered
  rw [placed, split]
  simp only [Target.stmtNodes_append, Target.kinds_append, List.mem_append]
  tauto

end Lowering

end Offside
