import Offside.Proofs.ExpansionSize
import Offside.Proofs.LeafTrace
import Offside.Proofs.TemplateInstances

/-! How the steps of lowering trace leaves. A step that succeeds adds to the leaves at hand what becomes
of those it lowers, and the names that wait to be declared are those that the nearest scope gained.
The rules follow the ways in which steps are put together. -/

namespace Offside.Lowering

variable {pass middle : Pass}

/-- The frames of a pass tell the place of the node at hand, and give only receivers that are
available. -/
structure Holds (place : Script.Place) (available : List String) (pass : Pass) : Prop where
  receiver : ∀ x, innermostReceiver pass.frames = some x → x ∈ available
  inMethod : inMethod pass.frames = place.inMethod
  faithful : pass.templates.Faithful

/-- What happened between two passes. -/
structure Traced (available : List String) (pass later : Pass) (source : List Script.Leaf)
    (target : List Target.Leaf) (opened : List String) : Prop where
  frames : later.frames = extendScope opened pass.frames
  faithful : later.templates.Faithful
  lowers : Lowers available pass.reserved source target opened later.reserved

theorem Traced.still (faithful : pass.templates.Faithful)
    (lowers : Lowers available pass.reserved source target [] pass.reserved) :
    Traced available pass pass source target [] :=
  ⟨by simp, faithful, lowers⟩

theorem Traced.append (first : Traced available pass middle source target opened)
    (next : Traced available middle later more rest openedNext) :
    Traced available pass later (source ++ more) (target ++ rest) (opened ++ openedNext) := by
  refine ⟨?_, next.faithful, first.lowers.append next.lowers⟩
  rw [next.frames, first.frames, extendScope_extendScope]

theorem Holds.traced (holds : Holds place available pass)
    (traced : Traced available pass later source target opened) : Holds place available later := by
  refine ⟨fun x => ?_, ?_, traced.faithful⟩
  · rw [traced.frames, innermostReceiver_extendScope]
    exact holds.receiver x
  · rw [traced.frames, inMethod_extendScope]
    exact holds.inMethod

/-- A further name may be available. -/
theorem Holds.more (holds : Holds place available pass) (x : String) :
    Holds place (x :: available) pass :=
  ⟨fun y found => List.mem_cons_of_mem x (holds.receiver y found), holds.inMethod, holds.faithful⟩

/-- If the step succeeds, then the leaves of its result are those at hand before and what becomes of
the leaves it lowers. -/
def Appends (place : Script.Place) (available : List String) (source : List Script.Leaf)
    (before : List Target.Leaf) (view : α → List Target.Leaf) (step : Lower α) : Prop :=
  ∀ pass a later, Holds place available pass → step pass = (.ok a, later) →
    ∃ added opened, view a = before ++ added ∧ Traced available pass later source added opened

/-- A step that does not change the pass, and of whose result something is known. -/
def Silent (shape : α → Prop) (step : Lower α) : Prop :=
  ∀ pass a later, step pass = (.ok a, later) → later = pass ∧ shape a

namespace Appends

variable {place : Script.Place} {available : List String} {view : β → List Target.Leaf}

theorem of_eq {step : Lower β} (appends : Appends place available source before view step)
    (same : source = other) : Appends place available other before view step := same ▸ appends

theorem start_eq {step : Lower β} (appends : Appends place available source start view step)
    (same : start = before) : Appends place available source before view step := same ▸ appends

theorem perm {step : Lower β} (appends : Appends place available source before view step)
    (same : source.Perm other) : Appends place available other before view step := by
  intro pass b later holds ran
  obtain ⟨added, opened, seen, traced⟩ := appends pass b later holds ran
  exact ⟨added, opened, seen, traced.frames, traced.faithful, traced.lowers.reorder same⟩

/-- A result with leaves that come about without making up names. -/
theorem ends {step : Lower β} (silent : Silent shape step)
    (seen : ∀ b, shape b → view b = before ++ added)
    (lowers : ∀ reserved, Lowers available reserved source added [] reserved) :
    Appends place available source before view step := by
  intro pass b later holds ran
  obtain ⟨rfl, shaped⟩ := silent pass b later ran
  exact ⟨added, [], seen b shaped, .still holds.faithful (lowers later.reserved)⟩

theorem pure (seen : view b = before) : Appends place available [] before view (pure b) := by
  intro pass a later holds ran
  cases ran
  exact ⟨[], [], by rw [seen, List.append_nil], .still holds.faithful .nil⟩

theorem fail (fault : Fault) : Appends place available source before view (.fail fault) := by
  intro pass b later holds ran
  cases ran

theorem skip {step : Lower α} {next : α → Lower β} (silent : Silent shape step)
    (rest : ∀ a, shape a → Appends place available source before view (next a)) :
    Appends place available source before view (step >>= next) := by
  intro pass b later holds ran
  obtain ⟨a, middle, ran, continued⟩ := Lower.bind_eq_ok.mp ran
  obtain ⟨rfl, shaped⟩ := silent pass a middle ran
  exact rest a shaped middle b later holds continued

/-- A step whose result is known. -/
theorem given {step : Lower α} {next : α → Lower β} (silent : Silent (· = value) step)
    (rest : Appends place available source before view (next value)) :
    Appends place available source before view (step >>= next) :=
  skip silent fun _ same => same ▸ rest

/-- The leaves of a part come after those at hand before. -/
theorem bind {first : Lower α} {next : α → Lower β} {part : α → List Target.Leaf}
    (lowered : Appends place available source [] part first)
    (rest : ∀ a, Appends place available more (before ++ part a) view (next a)) :
    Appends place available (source ++ more) before view (first >>= next) := by
  intro pass b later holds ran
  obtain ⟨a, middle, ran, continued⟩ := Lower.bind_eq_ok.mp ran
  obtain ⟨added, opened, seen, traced⟩ := lowered pass a middle holds ran
  obtain ⟨more, openedNext, seenNext, tracedNext⟩ :=
    rest a middle b later (holds.traced traced) continued
  refine ⟨added ++ more, opened ++ openedNext, ?_, traced.append tracedNext⟩
  rw [seenNext, seen, List.nil_append, List.append_assoc]

/-- What a step lowers is seen as a part of something else. -/
theorem map {first : Lower α} {part : α → List Target.Leaf}
    (lowered : Appends place available source start part first) {f : α → β}
    (outer : List Target.Leaf) (seen : ∀ a, view (f a) = outer ++ part a) :
    Appends place available source (outer ++ start) view (first >>= fun a => Pure.pure (f a)) := by
  intro pass b later holds ran
  obtain ⟨a, middle, ran, same⟩ := Lower.bind_eq_ok.mp ran
  cases same
  obtain ⟨added, opened, seenPart, traced⟩ := lowered pass a later holds ran
  exact ⟨added, opened, by rw [seen, seenPart, List.append_assoc], traced⟩

/-- A name that is available may be used. -/
theorem reuse {step : Lower β} (known : x ∈ available)
    (rest : Appends place available source (before ++ [.name .plain x]) view step) :
    Appends place available source before view step := by
  intro pass b later holds ran
  obtain ⟨added, opened, seen, traced⟩ := rest pass b later holds ran
  refine ⟨.name .plain x :: added, opened, by simp [seen], traced.frames, traced.faithful, ?_⟩
  exact (Lowers.reuse known).append traced.lowers

/-- A name that is made up is assigned next, and waits to be declared. -/
theorem mint {next : String → Lower β} (known : stem ∈ stems)
    (rest : ∀ name, Appends place (name :: available) source
      (before ++ [.name .assigned name]) view (next name)) :
    Appends place available source before view (freshName stem >>= next) := by
  intro pass b later holds ran
  obtain ⟨name, middle, ran, continued⟩ := Lower.bind_eq_ok.mp ran
  obtain ⟨-, rfl, rfl⟩ := freshName_eq_ok.mp ran
  have minted := pass.mint_free_frames stem
  -- The scope gains the name, which changes neither receivers nor methods.
  have holdsNext : Holds place (freeName stem pass.reserved :: available)
      (pass.mint (freeName stem pass.reserved)) :=
    ⟨by simpa [minted] using (holds.more _).receiver, by simpa [minted] using holds.inMethod,
      holds.faithful⟩
  obtain ⟨added, opened, seen, traced⟩ := rest _ _ b later holdsNext continued
  refine ⟨.name .assigned _ :: added, _ :: opened, by simp [seen], ?_, traced.faithful,
    .mint known traced.lowers⟩
  rw [traced.frames, minted, extendScope_extendScope]
  rfl

end Appends

namespace Silent

theorem pure {shape : α → Prop} (shaped : shape a) : Silent shape (pure a) := by
  intro pass b later ran
  cases ran
  exact ⟨rfl, shaped⟩

theorem fail {shape : α → Prop} (fault : Fault) : Silent shape (.fail fault) := by
  intro pass b later ran
  cases ran

theorem bind {known : α → Prop} {shape : β → Prop} {first : Lower α} {next : α → Lower β}
    (silent : Silent known first) (rest : ∀ a, known a → Silent shape (next a)) :
    Silent shape (first >>= next) := by
  intro pass b later ran
  obtain ⟨a, middle, ran, continued⟩ := Lower.bind_eq_ok.mp ran
  obtain ⟨rfl, shaped⟩ := silent pass a middle ran
  exact rest a shaped middle b later continued

theorem given {shape : β → Prop} {first : Lower α} {next : α → Lower β}
    (silent : Silent (· = value) first) (rest : Silent shape (next value)) :
    Silent shape (first >>= next) :=
  silent.bind fun _ same => same ▸ rest

theorem result {shape : α → Prop} {outcome : Except Fault α}
    (shaped : ∀ a, outcome = .ok a → shape a) : Silent shape (.ofExcept outcome) := by
  intro pass a later ran
  obtain ⟨same, rfl⟩ := Prod.mk.inj ran
  exact ⟨rfl, shaped a same⟩

variable (vocabulary : Target.Vocabulary)

theorem require (kind : Target.NodeKind) : Silent (fun _ => True) (require vocabulary kind) :=
  result fun _ _ => trivial

theorem buildExpr (node : Target.Expr) : Silent (· = node) (buildExpr vocabulary node) :=
  result fun _ built => (Target.Vocabulary.expr_eq_ok.mp built).2

theorem buildStmt (node : Target.Stmt) : Silent (· = node) (buildStmt vocabulary node) :=
  result fun _ built => (Target.Vocabulary.stmt_eq_ok.mp built).2

theorem identifier (loc : Option Location) (name : String) :
    Silent (· = .identifier loc name) (identifier vocabulary loc name) := buildExpr vocabulary _

theorem assign (loc : Option Location) (name : String) (value : Target.Expr) :
    Silent (· = .assignment loc .assign (.identifier loc name) value)
      (assign vocabulary loc name value) :=
  (identifier vocabulary loc name).given (buildExpr vocabulary _)

theorem assignStmt (loc : Option Location) (name : String) (value : Target.Expr) :
    Silent (· = .expression loc (.assignment loc .assign (.identifier loc name) value))
      (assignStmt vocabulary loc name value) :=
  (assign vocabulary loc name value).given (buildStmt vocabulary _)

theorem declarator (loc : Option Location) (id : Target.Expr) (init : Option Target.Expr) :
    Silent (· = .mk loc id init) (declarator vocabulary loc id init) :=
  (require vocabulary _).bind fun _ _ => pure rfl

theorem declareAll (loc : Option Location) (names : List String) :
    Silent (· = names.map fun name => .mk loc (.identifier loc name) none)
      (declareAll vocabulary loc names) := by
  induction names with
  | nil => exact pure rfl
  | cons name names ih =>
    exact (identifier vocabulary loc name).given <|
      (declarator vocabulary loc _ none).given <| ih.given <| pure rfl

theorem declareNames (loc : Option Location) (names : List String) (rest : List Target.Stmt) :
    Silent (fun declarations => Target.Opens names (declarations ++ rest) ∧
        Target.leaves (Target.stmtNodes declarations) = names.map (.name .declared))
      (declareNames vocabulary loc names) := by
  unfold Lowering.declareNames
  split
  next empty =>
    have empty : names = [] := List.isEmpty_iff.mp empty
    exact pure (by simp [empty, Target.Opens, Target.stmtNodes])
  next =>
    refine (declareAll vocabulary loc names).given <| (buildStmt vocabulary _).given <| pure ?_
    refine ⟨fun _ => ⟨loc, rest, rfl⟩, ?_⟩
    simp [Target.stmtNodes, Target.Stmt.nodes, Target.leaves_cons, Target.Node.leaf?,
      Target.leaves_declarators]

theorem comparison (op : Script.BinaryOp) : Silent (fun _ => True) (comparison op) := by
  unfold Lowering.comparison
  split
  · exact pure trivial
  · exact fail _

/-- The leaves of a chain, if there is one. -/
theorem chainLink (loc : Option Location) (op : Target.BinaryOp) (left right : Target.Expr)
    (chain : Option Target.Expr) :
    Silent (fun link => ∀ role, Target.leaves (link.nodes role) =
        Target.leaves (Target.optionNodes chain) ++ Target.leaves (left.nodes .plain) ++
          Target.leaves (right.nodes .plain))
      (chainLink vocabulary loc op left right chain) := by
  unfold Lowering.chainLink
  refine (buildExpr vocabulary _).given ?_
  cases chain with
  | none =>
    exact pure (by simp [Target.Expr.nodes, Target.optionNodes, Target.leaves_cons,
      Target.Node.leaf?])
  | some chain =>
    intro pass link later ran
    obtain ⟨rfl, rfl⟩ := buildExpr vocabulary _ pass link later ran
    simp [Target.Expr.nodes, Target.optionNodes, Target.leaves_cons, Target.Node.leaf?]

end Silent

/-- The same for the steps of a cascade. They may replace the receivers in its frame, by receivers that
are available. -/
def AppendsInCascade (available : List String) (source : List Script.Leaf)
    (before : List Target.Leaf) (view : α → List Target.Leaf) (step : Lower α) : Prop :=
  ∀ pass held outer a later, pass.frames = .cascade held :: outer → held ⊆ available →
    pass.templates.Faithful → step pass = (.ok a, later) →
    ∃ added opened heldLater, view a = before ++ added ∧
      later.frames = .cascade heldLater :: extendScope opened outer ∧
      later.templates.Faithful ∧
      Lowers available pass.reserved source added opened later.reserved

namespace AppendsInCascade

variable {available : List String} {view : β → List Target.Leaf}

theorem of_eq {step : Lower β} (appends : AppendsInCascade available source before view step)
    (same : source = other) : AppendsInCascade available other before view step := same ▸ appends

theorem start_eq {step : Lower β} (appends : AppendsInCascade available source start view step)
    (same : start = before) : AppendsInCascade available source before view step := same ▸ appends

theorem pure (seen : view b = before) : AppendsInCascade available [] before view (pure b) := by
  intro pass held outer a later top _ faithful ran
  cases ran
  exact ⟨[], [], held, by simp [seen], by simp [top], faithful, .nil⟩

theorem fail (fault : Fault) : AppendsInCascade available source before view (.fail fault) := by
  intro pass held outer b later _ _ _ ran
  cases ran

theorem given {step : Lower α} {next : α → Lower β} (silent : Silent (· = value) step)
    (rest : AppendsInCascade available source before view (next value)) :
    AppendsInCascade available source before view (step >>= next) := by
  intro pass held outer b later top known faithful ran
  obtain ⟨a, middle, ran, continued⟩ := Lower.bind_eq_ok.mp ran
  obtain ⟨rfl, rfl⟩ := silent pass a middle ran
  exact rest middle held outer b later top known faithful continued

theorem receivers {next : List String → Lower β}
    (rest : ∀ held, held ⊆ available → AppendsInCascade available source before view (next held)) :
    AppendsInCascade available source before view (receivers true >>= next) := by
  intro pass held outer b later top known faithful ran
  rw [Lower.bind_apply, receivers_eq top] at ran
  exact rest held known pass held outer b later top known faithful ran

theorem setReceivers {next : Unit → Lower β} (known : held ⊆ available)
    (rest : AppendsInCascade available source before view (next ())) :
    AppendsInCascade available source before view (setReceivers true held >>= next) := by
  intro pass old outer b later top _ faithful ran
  rw [Lower.bind_apply, setReceivers_eq held top] at ran
  exact rest (pass.receive held) held outer b later (by simp [top]) known faithful ran

/-- A part is lowered as anywhere inside a step. -/
theorem bind {first : Lower α} {next : α → Lower β} {part : α → List Target.Leaf}
    (lowered : Appends .step available source [] part first)
    (rest : ∀ a, AppendsInCascade available more (before ++ part a) view (next a)) :
    AppendsInCascade available (source ++ more) before view (first >>= next) := by
  intro pass held outer b later top known faithful ran
  obtain ⟨a, middle, ran, continued⟩ := Lower.bind_eq_ok.mp ran
  have holds : Holds .step available pass := by
    refine ⟨fun x found => known ?_, by simp [top, inMethod, Script.Place.step], faithful⟩
    rw [top] at found
    exact List.mem_of_getLast? found
  obtain ⟨added, opened, seen, traced⟩ := lowered pass a middle holds ran
  have topLater : middle.frames = .cascade held :: extendScope opened outer := by
    rw [traced.frames, top]
    rfl
  obtain ⟨addedNext, openedNext, heldLater, seenNext, frames, faithfulNext, lowers⟩ :=
    rest a middle held _ b later topLater known traced.faithful continued
  refine ⟨added ++ addedNext, opened ++ openedNext, heldLater, ?_, ?_, faithfulNext,
    traced.lowers.append lowers⟩
  · rw [seenNext, seen, List.nil_append, List.append_assoc]
  · rw [frames, extendScope_extendScope]

theorem map {first : Lower α} {part : α → List Target.Leaf}
    (lowered : AppendsInCascade available source [] part first) {f : α → β}
    (seen : ∀ a, view (f a) = before ++ part a) :
    AppendsInCascade available source before view (first >>= fun a => Pure.pure (f a)) := by
  intro pass held outer b later top known faithful ran
  obtain ⟨a, middle, ran, same⟩ := Lower.bind_eq_ok.mp ran
  cases same
  obtain ⟨added, opened, heldLater, seenPart, kept⟩ :=
    lowered pass held outer a later top known faithful ran
  exact ⟨added, opened, heldLater, by rw [seen, seenPart, List.nil_append], kept⟩

theorem mint {next : String → Lower β} (known : stem ∈ stems)
    (rest : ∀ name, AppendsInCascade (name :: available) source
      (before ++ [.name .assigned name]) view (next name)) :
    AppendsInCascade available source before view (freshName stem >>= next) := by
  intro pass held outer b later top heldKnown faithful ran
  obtain ⟨name, middle, ran, continued⟩ := Lower.bind_eq_ok.mp ran
  obtain ⟨-, rfl, rfl⟩ := freshName_eq_ok.mp ran
  have topNext : (pass.mint (freeName stem pass.reserved)).frames =
      .cascade held :: extendScope [freeName stem pass.reserved] outer := by
    rw [pass.mint_free_frames, top]
    rfl
  obtain ⟨added, opened, heldLater, seen, frames, faithfulNext, lowers⟩ :=
    rest (freeName stem pass.reserved) (pass.mint (freeName stem pass.reserved)) held _ b later topNext
      (List.subset_cons_of_subset _ heldKnown) faithful continued
  refine ⟨.name .assigned _ :: added, _ :: opened, heldLater, by simp [seen], ?_, faithfulNext,
    .mint known lowers⟩
  rw [frames, extendScope_extendScope]
  rfl

end AppendsInCascade

namespace Appends

variable {place : Script.Place} {available : List String}

/-- The steps of a cascade are lowered with its root as their receiver. -/
theorem withCascade {step : Lower α} {view : α → List Target.Leaf}
    (appends : AppendsInCascade (name :: available) source [] view step) :
    Appends place (name :: available) source [] (fun result => view result.1)
      (step.withFrame (.cascade name)) := by
  intro pass result later holds ran
  obtain ⟨inner, inside, -, rfl⟩ := Lower.withFrame_eq_ok.mp ran
  obtain ⟨added, opened, heldLater, seen, frames, faithful, lowers⟩ :=
    appends (pass.push (.cascade name)) [name] pass.frames result.1 inner
      rfl (by simp) holds.faithful inside
  exact ⟨added, opened, seen, by simp [frames], faithful, lowers⟩

theorem withMethod {step : Lower α} {view : α → List Target.Leaf}
    (appends : Appends place.inDefinition available source [] view step) :
    Appends place available source [] (fun result => view result.1) (step.withFrame .method) := by
  intro pass result later holds ran
  obtain ⟨inner, inside, -, rfl⟩ := Lower.withFrame_eq_ok.mp ran
  have holdsInside : Holds place.inDefinition available
      (pass.push .method) := ⟨holds.receiver, rfl, holds.faithful⟩
  obtain ⟨added, opened, seen, traced⟩ := appends _ result.1 inner holdsInside inside
  refine ⟨added, opened, seen, ?_, traced.faithful, traced.lowers⟩
  rw [Pass.pop_frames, traced.frames]
  rfl

/-- What the surroundings tell. -/
theorem surroundings {next : List Frame → Lower β} {view : β → List Target.Leaf}
    (rest : ∀ frames, (∀ x, innermostReceiver frames = some x → x ∈ available) →
      inMethod frames = place.inMethod → Appends place available source before view (next frames)) :
    Appends place available source before view (surroundings >>= next) := by
  intro pass b later holds ran
  exact rest pass.frames holds.receiver holds.inMethod pass b later holds ran

/-- Where only one statement may stand, it is all that the lowered one became. -/
theorem single {lowering : Lower (Expansion Target.Stmt)} (kind : String)
    (appends : Appends place available source []
      (fun expansion => Target.leaves (Target.stmtNodes expansion.toList)) lowering) :
    Appends place available source [] (fun stmt => Target.leaves stmt.nodes)
      (single kind lowering) := by
  intro pass stmt later holds ran
  obtain ⟨expansion, middle, ran, continued⟩ := Lower.bind_eq_ok.mp ran
  obtain ⟨added, opened, seen, traced⟩ := appends pass expansion middle holds ran
  cases normal : expansion.normalize with
  | single item =>
    rw [normal] at continued
    cases continued
    have alone := Expansion.normalize_eq_single.mp normal
    exact ⟨added, opened, by simpa [alone, Target.stmtNodes] using seen, traced⟩
  | spread items =>
    rw [normal] at continued
    cases continued

end Appends

/-- A body that applies what is at hand after some leaves. -/
theorem Lowers.applied (lowers : Lowers available reserved source (outside ++ inside) opened later)
    (body : List Target.Stmt) :
    Lowers available reserved (.boundGenerator :: source)
      (outside ++ .body body :: (inside ++ [.name .plain "apply"])) opened later := by
  have whole : Lowers available reserved source ((outside ++ inside) ++ []) opened later := by
    rwa [List.append_nil]
  have called : Lowers available reserved (.boundGenerator :: source)
      (outside ++ (inside ++ [.name .plain "apply"])) opened later := by
    simpa using Lowers.apply.insert whole
  simpa using Lowers.block.insert called

/-- A step at the end that makes up no names and puts what is at hand into a larger node, which may
bring leaves of its own. -/
def Completes (extra : List Script.Leaf) (part : List Target.Leaf) (view : α → List Target.Leaf)
    (step : Lower α) : Prop :=
  ∀ pass a later, pass.templates.Faithful → step pass = (.ok a, later) →
    later.frames = pass.frames ∧ later.reserved = pass.reserved ∧ later.templates.Faithful ∧
      ∀ available reserved source opened last, Lowers available reserved source part opened last →
        Lowers available reserved (extra ++ source) (view a) opened last

/-- Two parts that a last step puts into one node. -/
theorem Appends.complete {first : Lower α} {second : Lower β} {next : α → β → Lower γ}
    {part : α → List Target.Leaf} {other : β → List Target.Leaf} {view : γ → List Target.Leaf}
    (lowered : Appends place available source [] part first)
    (loweredOther : Appends place available more [] other second)
    (completes : ∀ a b, Completes extra (part a ++ other b) view (next a b)) :
    Appends place available (extra ++ (source ++ more)) [] view
      (first >>= fun a => second >>= fun b => next a b) := by
  intro pass c later holds ran
  obtain ⟨a, middle, ranFirst, continued⟩ := Lower.bind_eq_ok.mp ran
  obtain ⟨b, last, ranSecond, ends⟩ := Lower.bind_eq_ok.mp continued
  obtain ⟨added, opened, seen, traced⟩ := lowered pass a middle holds ranFirst
  obtain ⟨addedOther, openedOther, seenOther, tracedOther⟩ :=
    loweredOther middle b last (holds.traced traced) ranSecond
  have both := traced.append tracedOther
  obtain ⟨frames, reserved, faithful, completed⟩ := completes a b last c later both.faithful ends
  refine ⟨view c, _, rfl, frames.trans both.frames, faithful, ?_⟩
  rw [reserved]
  refine completed available pass.reserved _ _ last.reserved ?_
  rw [seen, seenOther]
  exact both.lowers

namespace Completes

variable {view : α → List Target.Leaf}

theorem silent {step : Lower α} (silent : Silent (· = a) step) (seen : view a = part) :
    Completes [] part view step := by
  intro pass b later faithful ran
  obtain ⟨rfl, rfl⟩ := silent pass b later ran
  refine ⟨rfl, rfl, faithful, fun available reserved source opened last lowers => ?_⟩
  rw [seen]
  exact lowers

variable (vocabulary : Target.Vocabulary)

theorem floorDivision (role : Role) (left right : Target.Expr) (loc : Option Location) :
    Completes [.floorDivision]
      (Target.leaves (left.nodes .plain) ++ Target.leaves (right.nodes .plain))
      (fun built => Target.leaves (built.nodes role))
      (instantiate vocabulary floorDivision [("left", left), ("right", right)] loc) := by
  intro pass built later faithful ran
  obtain ⟨rfl, rfl⟩ := instantiate_floorDivision_ok faithful ran
  refine ⟨rfl, rfl, faithful.get_snd _, fun available reserved source opened last lowers => ?_⟩
  have seen : Target.leaves ((floorCall loc left right).nodes role) =
      [.name .plain "Math", .name .plain "floor"] ++
        (Target.leaves (left.nodes .plain) ++ Target.leaves (right.nodes .plain)) := by
    simp [floorCall, Target.Expr.nodes, Target.exprNodes, Target.leaves_cons, Target.Node.leaf?]
  show Lowers available reserved _ (Target.leaves _) opened last
  rw [seen]
  exact Lowers.floorDivision.append lowers

/-- The parameters and the body of a function. A bound generator is applied in a body of its own. -/
theorem functionExpr (role : Role) (loc own : Option Location) (bound generator async : Bool)
    (params : List Target.Expr) (body : Target.Block) :
    Completes (if bound && generator then [.boundGenerator] else [])
      (Target.leaves (Target.exprNodes params) ++ Target.leaves body.nodes)
      (fun built => Target.leaves (built.nodes role))
      (functionExpr vocabulary loc own bound generator async params body) := by
  unfold Lowering.functionExpr
  cases bound with
  | false =>
    exact silent (Silent.buildExpr vocabulary _) (by
      simp [Target.Expr.nodes, Target.Function.nodes, Target.leaves_cons, Target.Node.leaf?])
  | true =>
    cases generator with
    | false =>
      exact silent (Silent.buildExpr vocabulary _) (by
        simp [Target.Expr.nodes, Target.Function.nodes, Target.leaves_cons, Target.Node.leaf?])
    | true =>
      intro pass built later faithful ran
      simp only [Bool.not_true, Bool.false_eq_true, ↓reduceIte, Lower.bind_eq_ok] at ran
      obtain ⟨_, _, inner, _, _, applied, _, _, result, _, _, required, arrow⟩ := ran
      obtain ⟨rfl, rfl⟩ := Silent.buildExpr vocabulary _ _ _ _ inner
      obtain ⟨rfl, rfl⟩ := instantiate_applyGenerator_ok faithful applied
      obtain ⟨rfl, rfl⟩ := Silent.buildStmt vocabulary _ _ _ _ result
      obtain ⟨rfl, -⟩ := Silent.require vocabulary _ _ _ _ required
      obtain ⟨rfl, rfl⟩ := Silent.buildExpr vocabulary _ _ _ _ arrow
      refine ⟨rfl, rfl, faithful.get_snd _, fun available reserved source opened last lowers => ?_⟩
      simpa [applyCall, Target.Expr.nodes, Target.exprNodes, Target.optionNodes,
        Target.Function.nodes, Target.Block.nodes, Target.Stmt.nodes, Target.stmtNodes,
        Target.leaves_cons, Target.Node.leaf?] using lowers.applied _

end Completes

/-- What a statement became is put in between what the others became. -/
theorem hoist_cons (stmt : Script.Stmt) (stmts : List Script.Stmt) (items : List Target.Stmt)
    (lowered : List (List Target.Stmt)) :
    ∃ before after, hoist stmts lowered = before ++ after ∧
      hoist (stmt :: stmts) (items :: lowered) = before ++ items ++ after := by
  cases hoisted : stmt.isHoisted with
  | true => exact ⟨[], hoist stmts lowered, rfl, by simp [hoist, hoisted]⟩
  | false => exact ⟨_, _, rfl, by simp [hoist, hoisted]⟩

theorem Appends.hoisted {first : Lower (Expansion Target.Stmt)}
    {rest : Lower (List (List Target.Stmt))} (stmt : Script.Stmt) (stmts : List Script.Stmt)
    (lowered : Appends place available source []
      (fun expansion => Target.leaves (Target.stmtNodes expansion.toList)) first)
    (others : Appends place available more []
      (fun lists => Target.leaves (Target.stmtNodes (hoist stmts lists))) rest) :
    Appends place available (source ++ more) []
      (fun lists => Target.leaves (Target.stmtNodes (hoist (stmt :: stmts) lists)))
      (first >>= fun expansion => rest >>= fun lists => Pure.pure (expansion.toList :: lists)) := by
  intro pass lists later holds ran
  obtain ⟨expansion, middle, ranFirst, continued⟩ := Lower.bind_eq_ok.mp ran
  obtain ⟨tail, _, ranTail, same⟩ := Lower.bind_eq_ok.mp continued
  cases same
  obtain ⟨inner, opened, seen, traced⟩ := lowered pass expansion middle holds ranFirst
  obtain ⟨around, openedNext, seenAround, tracedAround⟩ :=
    others middle tail later (holds.traced traced) ranTail
  obtain ⟨before, after, split, placed⟩ := hoist_cons stmt stmts expansion.toList tail
  refine ⟨Target.leaves (Target.stmtNodes before) ++ inner ++ Target.leaves (Target.stmtNodes after),
    opened ++ openedNext, ?_, ?_, tracedAround.faithful, traced.lowers.insert ?_⟩
  · simpa [placed] using seen
  · rw [tracedAround.frames, traced.frames, extendScope_extendScope]
  · simp only [split, Target.stmtNodes_append, Target.leaves_append, List.nil_append] at seenAround
    rw [seenAround]
    exact tracedAround.lowers

/-- A body declares at its top the names made up in it. -/
theorem listBody_traced {vocabulary : Target.Vocabulary} {loc : Option Location}
    {lowering : Lower (List (List Target.Stmt))}
    (appends : Appends place available source []
      (fun lists => Target.leaves (Target.stmtNodes (hoist stmts lists))) lowering)
    (holds : Holds place available (pass.push .scope))
    (ran : listBody vocabulary loc stmts lowering pass = (.ok body, later)) :
    later.frames = pass.frames ∧ later.templates.Faithful ∧
      Lowers available pass.reserved source
        (.body body :: Target.leaves (Target.stmtNodes body)) [] later.reserved := by
  obtain ⟨⟨lists, frame⟩, middle, ran, continued⟩ := Lower.bind_eq_ok.mp ran
  obtain ⟨inner, inside, top, rfl⟩ := Lower.withFrame_eq_ok.mp ran
  obtain ⟨added, opened, seen, traced⟩ := appends _ lists inner holds inside
  have frames : inner.frames = .scope opened :: pass.frames := traced.frames
  obtain rfl : .scope opened = frame := Option.some.inj ((congrArg List.head? frames).symm.trans top)
  dsimp only at continued
  obtain ⟨declarations, _, declared, same⟩ := Lower.bind_eq_ok.mp continued
  cases same
  obtain ⟨rfl, opens, names⟩ :=
    Silent.declareNames vocabulary loc opened (hoist stmts lists) _ _ _ declared
  refine ⟨by simp [frames], traced.faithful, .scope opens ?_ traced.lowers⟩
  rw [Target.stmtNodes_append, Target.leaves_append, names]
  simpa using seen

end Offside.Lowering
