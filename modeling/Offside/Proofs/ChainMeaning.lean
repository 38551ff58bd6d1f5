import Offside.Proofs.Hygiene
import Offside.Proofs.LeafSteps
import Offside.Proofs.Simulation
import Offside.Proofs.SuccessConditions

/-! Lowering keeps the meaning of expressions. The lowered expression gives the same value from the same
store, accesses the same variables in the same order, and leaves the same store, but for the names
made up in comparison chains. -/

namespace Offside

variable {Value α β : Type}

namespace Lowering

/-- The lowered expression simulates the one it comes from, if no name of that is a temporary. -/
def Copies (meaning : Meaning Value) (node : Script.Expr) (temporaries : List String)
    (lowered : Target.Expr) : Prop :=
  node.names.Disjoint temporaries →
    Simulates temporaries (node.eval meaning) (lowered.eval meaning)

/-- After the chain so far and its last operand, the lowered chain does what is left of the one it
comes from. -/
def CopiesChain (meaning : Meaning Value) (chain : Option Target.Expr) (left : Target.Expr)
    (operators : List Script.BinaryOp) (operands : List Script.Expr) (temporaries : List String)
    (lowered : Target.Expr) : Prop :=
  (Script.exprNames operands).Disjoint temporaries →
    ∃ tail, lowered.eval meaning = guarded meaning chain (left.eval meaning >>= tail) ∧
      ∀ value, Simulates temporaries (Script.evalChain meaning value operators operands) (tail value)

/-- If the step succeeds, then the reserved names have gained temporaries with which its result has a
shape. -/
def Mints (shape : List String → α → Prop) (step : Lower α) : Prop :=
  ∀ pass a later, step pass = (.ok a, later) → ∃ minted,
    Supplied pass.reserved minted later.reserved ∧
      ∀ temporaries, minted ⊆ temporaries → shape temporaries a

namespace Mints

variable {shape : List String → β → Prop}

theorem ends {known : β → Prop} {step : Lower β} (silent : Silent known step)
    (shaped : ∀ b, known b → ∀ temporaries, shape temporaries b) : Mints shape step := by
  intro pass b later ran
  obtain ⟨rfl, holds⟩ := silent pass b later ran
  exact ⟨[], .none, fun temporaries _ => shaped b holds temporaries⟩

theorem pure (shaped : ∀ temporaries, shape temporaries b) : Mints shape (pure b) :=
  ends (.pure rfl) fun _ same => same ▸ shaped

theorem mono {part : List String → β → Prop} {step : Lower β} (mints : Mints part step)
    (weaker : ∀ temporaries b, part temporaries b → shape temporaries b) : Mints shape step := by
  intro pass b later ran
  obtain ⟨minted, supplied, shaped⟩ := mints pass b later ran
  exact ⟨minted, supplied, fun temporaries all => weaker temporaries b (shaped temporaries all)⟩

theorem fail (fault : Fault) : Mints shape (.fail fault) := by
  intro pass a later ran
  cases ran

theorem skip {known : α → Prop} {step : Lower α} {next : α → Lower β} (silent : Silent known step)
    (rest : ∀ a, known a → Mints shape (next a)) : Mints shape (step >>= next) := by
  intro pass b later ran
  obtain ⟨a, middle, ran, continued⟩ := Lower.bind_eq_ok.mp ran
  obtain ⟨rfl, shaped⟩ := silent pass a middle ran
  exact rest a shaped middle b later continued

theorem given {step : Lower α} {next : α → Lower β} (silent : Silent (· = value) step)
    (rest : Mints shape (next value)) : Mints shape (step >>= next) :=
  skip silent fun _ same => same ▸ rest

/-- What is made up later does not take away the shape of a part. -/
theorem bind {part : List String → α → Prop} {first : Lower α} {next : α → Lower β}
    (mints : Mints part first)
    (rest : ∀ a, Mints (fun temporaries b => part temporaries a → shape temporaries b) (next a)) :
    Mints shape (first >>= next) := by
  intro pass b later ran
  obtain ⟨a, middle, ran, continued⟩ := Lower.bind_eq_ok.mp ran
  obtain ⟨minted, supplied, shaped⟩ := mints pass a middle ran
  obtain ⟨more, suppliedNext, shapedNext⟩ := rest a middle b later continued
  refine ⟨minted ++ more, supplied.trans suppliedNext, fun temporaries all => ?_⟩
  obtain ⟨allFirst, allNext⟩ := List.append_subset.mp all
  exact shapedNext temporaries allNext (shaped temporaries allFirst)

theorem fresh (known : stem ∈ stems) :
    Mints (fun temporaries name => name ∈ temporaries) (freshName stem) := by
  intro pass name later ran
  obtain ⟨-, rfl, rfl⟩ := freshName_eq_ok.mp ran
  exact ⟨[_], .next known .none, fun temporaries all => all (List.mem_singleton_self _)⟩

end Mints

private theorem silent_identifier (vocabulary : Target.Vocabulary) (loc : Option Location)
    (name : String) :
    Silent (· = .identifier loc name) (lowerExpr vocabulary (.identifier loc name)) := by
  rw [lowerExpr]
  exact (Silent.require vocabulary _).bind fun _ _ => .pure rfl

/-- A comparison in a chain has an operator of the target. -/
theorem silent_comparison (op : Script.BinaryOp) :
    Silent (fun lowered => op.target? = some lowered) (comparison op) := by
  unfold comparison
  split
  next lowered found => exact .pure found
  next => exact .fail _

theorem silent_chainLink (vocabulary : Target.Vocabulary) (meaning : Meaning Value)
    (loc : Option Location) (op : Target.BinaryOp) (left right : Target.Expr)
    (chain : Option Target.Expr) :
    Silent (fun lowered => lowered.eval meaning = guarded meaning chain
        (left.eval meaning >>= fun l => do return meaning.target op l (← right.eval meaning)))
      (chainLink vocabulary loc op left right chain) := by
  unfold chainLink
  refine (Silent.buildExpr vocabulary _).given ?_
  cases chain with
  | none => exact .pure rfl
  | some chain =>
    intro pass lowered later ran
    obtain ⟨rfl, rfl⟩ := Silent.buildExpr vocabulary _ pass lowered later ran
    exact ⟨rfl, rfl⟩

section

variable (vocabulary : Target.Vocabulary) (meaning : Meaning Value)

mutual

theorem mints_expr : ∀ node : Script.Expr, node.isPlain = true →
    Mints (Copies meaning node) (lowerExpr vocabulary node)
  | .identifier loc name, _ => by
    rw [lowerExpr]
    refine .skip (Silent.require vocabulary _) fun _ _ => .pure fun temporaries apart => ?_
    exact .read (by simpa [Script.Expr.names] using apart)
  | .literal loc value, _ => by
    rw [lowerExpr]
    exact .skip (Silent.require vocabulary _) fun _ _ => .pure fun _ _ => .pure _
  | .unary loc op argument, plain => by
    rw [lowerExpr]
    refine .skip (Silent.require vocabulary _) fun _ _ => ?_
    refine .bind (mints_expr argument plain) fun _ => .pure fun temporaries copies apart => ?_
    exact (copies apart).map _
  | .binary loc op left right, plain => by
    simp only [Script.Expr.isPlain, Bool.and_eq_true, bne_iff_ne] at plain
    obtain ⟨⟨divides, plainLeft⟩, plainRight⟩ := plain
    rw [lowerExpr]
    refine .bind (mints_expr left plainLeft) fun _ => .bind (mints_expr right plainRight) fun _ => ?_
    cases found : op.target? with
    | none => exact absurd (op.target?_eq_none_iff.mp found) divides
    | some lowered =>
      refine .ends (Silent.buildExpr vocabulary _) ?_
      rintro _ rfl temporaries copiesRight copiesLeft apart
      obtain ⟨apartLeft, apartRight⟩ := List.disjoint_append_left.mp apart
      simp only [Target.Expr.eval, Script.Expr.eval, meaning.target_eq op lowered found]
      exact (copiesLeft apartLeft).bind fun l => (copiesRight apartRight).map _
  | .logical loc op left right, plain => by
    simp only [Script.Expr.isPlain, Bool.and_eq_true] at plain
    obtain ⟨plainLeft, plainRight⟩ := plain
    rw [lowerExpr]
    refine .skip (Silent.require vocabulary _) fun _ _ => ?_
    refine .bind (mints_expr left plainLeft) fun _ => .bind (mints_expr right plainRight) fun _ => ?_
    refine .pure fun temporaries copiesRight copiesLeft apart => ?_
    obtain ⟨apartLeft, apartRight⟩ := List.disjoint_append_left.mp apart
    exact .logical _ op (copiesLeft apartLeft) (copiesRight apartRight)
  | .conditional loc test consequent alternate, plain => by
    simp only [Script.Expr.isPlain, Bool.and_eq_true] at plain
    obtain ⟨⟨plainTest, plainConsequent⟩, plainAlternate⟩ := plain
    rw [lowerExpr]
    refine .skip (Silent.require vocabulary _) fun _ _ => .bind (mints_expr test plainTest) fun _ => ?_
    refine .bind (mints_expr consequent plainConsequent) fun _ => ?_
    refine .bind (mints_expr alternate plainAlternate) fun _ => ?_
    refine .pure fun temporaries copiesAlternate copiesConsequent copiesTest apart => ?_
    obtain ⟨apart, apartAlternate⟩ := List.disjoint_append_left.mp apart
    obtain ⟨apartTest, apartConsequent⟩ := List.disjoint_append_left.mp apart
    exact .conditional _ (copiesTest apartTest) (copiesConsequent apartConsequent)
      (copiesAlternate apartAlternate)
  | .assignment loc op left right, plain => by
    cases left with
    | identifier at_ name =>
      rw [lowerExpr]
      refine .skip (Silent.require vocabulary _) fun _ _ => ?_
      refine .given (silent_identifier vocabulary at_ name) ?_
      refine .bind (mints_expr right plain) fun _ => .pure fun temporaries copies apart => ?_
      obtain ⟨apartName, apartRight⟩ := List.disjoint_append_left.mp apart
      have apartName : name ∉ temporaries := by simpa [Script.Expr.names] using apartName
      have same := meaning.update_eq op
      cases op with
      | assign => exact .assign apartName (copies apartRight)
      | _ =>
        simp only [Script.Expr.eval, ← same]
        exact .updated _ apartName (copies apartRight)
    | _ => cases plain
  | .compareChain loc operands operators, plain => by
    cases operators with
    | nil => cases plain
    | cons op operators =>
      simp only [Script.Expr.isPlain, List.isEmpty_cons, Bool.not_false, List.length_cons,
        Bool.true_and, Bool.and_eq_true, beq_iff_eq] at plain
      obtain ⟨⟨fit, -⟩, plain⟩ := plain
      cases operands with
      | nil => cases fit
      | cons first operands =>
        simp only [Script.arePlain, Bool.and_eq_true] at plain
        rw [lowerExpr_compareChain_cons vocabulary loc first op (Nat.succ.inj fit)]
        refine .skip (silent_comparison op) fun lowered found => ?_
        refine .bind (mints_expr first plain.1) fun left => ?_
        refine (mints_chain loc found left none operators operands (Nat.succ.inj fit) plain.2).mono ?_
        intro temporaries built copiesRest copiesFirst apart
        obtain ⟨apartFirst, apartRest⟩ := List.disjoint_append_left.mp apart
        obtain ⟨tail, evaluated, simulates⟩ := copiesRest apartRest
        rw [evaluated]
        exact (copiesFirst apartFirst).bind simulates
  | .thisObject _, plain | .virtualObject _, plain | .array .., plain | .object .., plain
  | .function .., plain | .call .., plain | .construct .., plain | .member .., plain
  | .sequence .., plain | .yielding .., plain | .awaiting .., plain => by cases plain

theorem mints_chain (loc : Option Location) {op : Script.BinaryOp} {lowered : Target.BinaryOp}
    (found : op.target? = some lowered) (left : Target.Expr) (chain : Option Target.Expr)
    (operators : List Script.BinaryOp) :
    ∀ operands : List Script.Expr, operands.length = operators.length + 1 →
      Script.arePlain operands = true →
      Mints (CopiesChain meaning chain left (op :: operators) operands)
        (lowerChain vocabulary loc lowered left chain operators operands)
  | [], _, _ => .fail _
  | operand :: operands, fit, plain => by
    simp only [Script.arePlain, Bool.and_eq_true] at plain
    cases operators with
    | nil =>
      rw [lowerChain_last]
      refine .bind (mints_expr operand plain.1) fun right => ?_
      refine .ends (silent_chainLink vocabulary meaning loc lowered left right chain) ?_
      intro _ evaluated temporaries copies apart
      obtain ⟨apart, -⟩ := List.disjoint_append_left.mp apart
      refine ⟨_, evaluated, fun value => ?_⟩
      rw [meaning.target_eq op lowered found]
      exact (copies apart).bind fun _ => .pure _
    | cons next operators =>
      rw [lowerChain_cons]
      refine .bind (.fresh (by simp [stems])) fun name => ?_
      refine .bind (mints_expr operand plain.1) fun right => ?_
      refine .given (Silent.assign vocabulary loc name right) ?_
      refine .skip (silent_chainLink vocabulary meaning loc lowered left _ chain) ?_
      intro link evaluatedLink
      refine .skip (silent_comparison next) fun loweredNext foundNext => ?_
      refine .given (Silent.identifier vocabulary loc name) ?_
      refine (mints_chain loc foundNext (.identifier loc name) (some link) operators operands
        (Nat.succ.inj fit) plain.2).mono ?_
      intro temporaries built copiesRest copies temporary apart
      obtain ⟨apart, apartRest⟩ := List.disjoint_append_left.mp apart
      obtain ⟨tail, evaluated, simulates⟩ := copiesRest apartRest
      refine ⟨storedLink meaning.truthy (meaning.script op) name (right.eval meaning) tail, ?_,
        fun value => .storedLink temporary meaning op next operators value (copies apart) simulates⟩
      simp only [Target.Expr.eval, meaning.target_eq op lowered found] at evaluatedLink
      rw [← logical_and_storedLink, ← logical_and_guarded, evaluated, ← evaluatedLink]
      rfl

end

end

/-- A pass in which names can be made up. -/
def Scoped (pass : Pass) : Prop := hasScope pass.frames = true

private theorem runs_fresh (stem : String) : Runs Scoped Scoped True (freshName stem) := by
  refine .succeeds fun pass inside => ?_
  refine ⟨_, _, freshName_eq_ok.mpr ⟨inside, rfl, rfl⟩, ?_⟩
  simpa [Scoped, pass.mint_free_frames stem] using inside

theorem comparison_eq (found : op.target? = some lowered) : comparison op = pure lowered := by
  simp [comparison, found]

theorem exists_target {op : Script.BinaryOp} (other : op ≠ .floorDiv) :
    ∃ lowered, op.target? = some lowered := by
  cases found : op.target? with
  | none => exact absurd (op.target?_eq_none_iff.mp found) other
  | some lowered => exact ⟨lowered, rfl⟩

theorem chainLink_full (loc : Option Location) (op : Target.BinaryOp) (left right : Target.Expr)
    (chain : Option Target.Expr) : ∃ link, chainLink .full loc op left right chain = pure link := by
  cases chain <;> simp [chainLink]

section

open Target.Vocabulary (full)

mutual

theorem runs_expr : ∀ node : Script.Expr, node.isPlain = true →
    Runs Scoped Scoped True (lowerExpr full node)
  | .identifier loc name, _ => by
    rw [lowerExpr, require_full, pure_bind]
    exact .pure _
  | .literal loc value, _ => by
    rw [lowerExpr, require_full, pure_bind]
    exact .pure _
  | .unary loc op argument, plain => by
    rw [lowerExpr, require_full, pure_bind]
    exact (runs_expr argument plain).map _
  | .binary loc op left right, plain => by
    simp only [Script.Expr.isPlain, Bool.and_eq_true, bne_iff_ne] at plain
    obtain ⟨⟨divides, plainLeft⟩, plainRight⟩ := plain
    obtain ⟨lowered, found⟩ := exists_target divides
    rw [lowerExpr]
    simp only [found, buildExpr_full]
    exact (runs_expr left plainLeft).always fun _ => (runs_expr right plainRight).map _
  | .logical loc op left right, plain => by
    simp only [Script.Expr.isPlain, Bool.and_eq_true] at plain
    rw [lowerExpr, require_full, pure_bind]
    exact (runs_expr left plain.1).always fun _ => (runs_expr right plain.2).map _
  | .conditional loc test consequent alternate, plain => by
    simp only [Script.Expr.isPlain, Bool.and_eq_true] at plain
    rw [lowerExpr, require_full, pure_bind]
    refine (runs_expr test plain.1.1).always fun _ => ?_
    exact (runs_expr consequent plain.1.2).always fun _ => (runs_expr alternate plain.2).map _
  | .assignment loc op left right, plain => by
    cases left with
    | identifier at_ name =>
      rw [lowerExpr, lowerExpr, require_full, require_full, pure_bind, pure_bind, pure_bind]
      exact (runs_expr right plain).map _
    | _ => cases plain
  | .compareChain loc operands operators, plain => by
    cases operators with
    | nil => cases plain
    | cons op operators =>
      simp only [Script.Expr.isPlain, List.isEmpty_cons, Bool.not_false, List.length_cons,
        Bool.true_and, Bool.and_eq_true, beq_iff_eq, List.all_cons, bne_iff_ne] at plain
      obtain ⟨⟨fit, divides, others⟩, plain⟩ := plain
      obtain ⟨lowered, found⟩ := exists_target divides
      cases operands with
      | nil => cases fit
      | cons first operands =>
        simp only [Script.arePlain, Bool.and_eq_true] at plain
        rw [lowerExpr_compareChain_cons full loc first op (Nat.succ.inj fit), comparison_eq found,
          pure_bind]
        refine (runs_expr first plain.1).always fun left => ?_
        exact runs_chain loc lowered left none operators operands others (Nat.succ.inj fit) plain.2
  | .thisObject _, plain | .virtualObject _, plain | .array .., plain | .object .., plain
  | .function .., plain | .call .., plain | .construct .., plain | .member .., plain
  | .sequence .., plain | .yielding .., plain | .awaiting .., plain => by cases plain

theorem runs_chain (loc : Option Location) (op : Target.BinaryOp) (left : Target.Expr)
    (chain : Option Target.Expr) (operators : List Script.BinaryOp) :
    ∀ operands : List Script.Expr, operators.all (· != .floorDiv) = true →
      operands.length = operators.length + 1 → Script.arePlain operands = true →
      Runs Scoped Scoped True (lowerChain full loc op left chain operators operands)
  | [], _, fit, _ => by cases fit
  | operand :: operands, others, fit, plain => by
    simp only [Script.arePlain, Bool.and_eq_true] at plain
    cases operators with
    | nil =>
      rw [lowerChain_last]
      refine (runs_expr operand plain.1).always fun right => ?_
      obtain ⟨link, built⟩ := chainLink_full loc op left right chain
      rw [built]
      exact .pure link
    | cons next operators =>
      simp only [List.all_cons, Bool.and_eq_true, bne_iff_ne] at others
      obtain ⟨lowered, found⟩ := exists_target others.1
      rw [lowerChain_cons]
      refine (runs_fresh tempStem).always fun name => ?_
      refine (runs_expr operand plain.1).always fun right => ?_
      obtain ⟨link, built⟩ := chainLink_full loc op left
        (.assignment loc .assign (.identifier loc name) right) chain
      rw [assign_full, pure_bind, built, pure_bind, comparison_eq found, pure_bind, identifier_full,
        pure_bind]
      exact runs_chain loc lowered _ _ operators operands others.2 (Nat.succ.inj fit) plain.2

end

end

/-- From every store, both expressions give the same value, the same accesses to all variables but
temporaries, and stores that agree on these variables. -/
def KeepsMeaning (meaning : Meaning Value) (temporaries : List String) (node : Script.Expr)
    (lowered : Target.Expr) : Prop :=
  ∀ store, ∃ value source target, node.eval meaning ⟨store, []⟩ = some (value, source) ∧
    lowered.eval meaning ⟨store, []⟩ = some (value, target) ∧ Agrees temporaries source target

/-- Temporaries are made up, so that no name of the script is one. -/
theorem lowerExpr_keepsMeaning (vocabulary : Target.Vocabulary) (meaning : Meaning Value)
    {node : Script.Expr} (plain : node.isPlain = true) {pass later : Pass}
    (reserved : node.names ⊆ pass.reserved)
    (ran : lowerExpr vocabulary node pass = (.ok lowered, later)) :
    ∃ minted, Supplied pass.reserved minted later.reserved ∧
      KeepsMeaning meaning minted node lowered := by
  obtain ⟨minted, supplied, copies⟩ := mints_expr vocabulary meaning node plain pass lowered later ran
  have apart : node.names.Disjoint minted :=
    fun name used made => supplied.fresh name made (reserved used)
  refine ⟨minted, supplied, fun store => ?_⟩
  exact copies minted (List.Subset.refl minted) apart _ _ ⟨fun _ _ => rfl, rfl⟩

/-- A program of one expression. -/
def ofExpr (loc at_ : Option Location) (node : Script.Expr) : Script.Program :=
  ⟨loc, [.expression at_ node]⟩

/-- The pass in which the expression of a program is lowered. -/
def Engine.enter (engine : Engine) (program : Script.Program) : Pass :=
  (engine.start program).push .scope

/-- What a program of one expression becomes is what the expression becomes, and the declarations of
its temporaries. -/
private theorem Engine.lower_ofExpr {engine : Engine} (complete : engine.vocabulary = .full)
    (loc at_ : Option Location) {node : Script.Expr} {later : Pass}
    (ran : lowerExpr .full node (engine.enter (ofExpr loc at_ node)) = (.ok lowered, later)) :
    (engine.finish (ofExpr loc at_ node)).reserved = later.reserved ∧ ∃ declarations,
      (engine.lower (ofExpr loc at_ node)).1 =
        .ok ⟨loc, declarations ++ [.expression at_ lowered], .script⟩ := by
  obtain ⟨names, frames⟩ : ∃ names, later.frames = [.scope names] := by
    obtain ⟨names, frames⟩ := (closed_keeps.expr .full node _).frames
    rw [ran] at frames
    exact ⟨names, frames⟩
  obtain ⟨declarations, declares⟩ := declareNames_full loc names
  have body : (lowerStmts .full [.expression at_ node]).withFrame .scope
      (engine.start (ofExpr loc at_ node)) =
        (.ok ([[.expression at_ lowered]], .scope names), later.pop) := by
    refine Lower.withFrame_eq_ok.mpr ⟨later, ?_, by rw [frames]; rfl, rfl⟩
    simp only [lowerStmts, lowerStmt, require_full, pure_bind, bind_assoc]
    exact Lower.bind_eq_ok.mpr ⟨lowered, later, ran, rfl⟩
  have program : lowerProgram .full (ofExpr loc at_ node) (engine.start (ofExpr loc at_ node)) =
      (.ok ⟨loc, declarations ++ [.expression at_ lowered], .script⟩, later.pop) := by
    simp only [lowerProgram_eq, listBody, require_full, pure_bind, bind_assoc]
    refine Lower.bind_eq_ok.mpr ⟨_, _, body, ?_⟩
    simp [ofExpr, declares, hoist, Script.Stmt.isHoisted]
  refine ⟨?_, declarations, lower_fst_eq_ok.mpr ⟨_, complete ▸ program, by simp [frames]⟩⟩
  rw [finish, complete, program, Pass.pop_reserved]

private theorem Engine.lower_ofExpr_keepsMeaning {engine : Engine}
    (complete : engine.vocabulary = .full)
    (meaning : Meaning Value) (loc at_ : Option Location) {node : Script.Expr}
    (plain : node.isPlain = true) :
    ∃ declarations lowered, (engine.lower (ofExpr loc at_ node)).1 =
        .ok ⟨loc, declarations ++ [.expression at_ lowered], .script⟩ ∧
      KeepsMeaning meaning (engine.minted (ofExpr loc at_ node)) node lowered := by
  obtain ⟨lowered, later, ran⟩ :=
    ((runs_expr node plain).iff (engine.enter (ofExpr loc at_ node)) rfl).mpr trivial
  obtain ⟨finished, declarations, lowers⟩ := lower_ofExpr complete loc at_ ran
  have reserved : node.names ⊆ (engine.enter (ofExpr loc at_ node)).reserved := by
    intro name used
    simp [enter, start, ofExpr, Script.Program.names, Script.stmtNames, Script.Stmt.names, used]
  obtain ⟨minted, supplied, keeps⟩ := lowerExpr_keepsMeaning .full meaning plain reserved ran
  have same : minted = engine.minted (ofExpr loc at_ node) := by
    have gained := (engine.supplied_minted (ofExpr loc at_ node)).later_eq
    rw [finished, supplied.later_eq] at gained
    exact List.reverse_injective (List.append_cancel_right gained)
  exact ⟨declarations, lowered, lowers, same ▸ keeps⟩

/-- Lowering keeps the meaning of expressions with comparison chains. It succeeds wherever there is a
scope for temporaries, and wherever the names of the expression are reserved, what was made up is all
that differs. A program provides both. -/
theorem lowering_keeps_meaning (meaning : Meaning Value) (node : Script.Expr)
    (plain : node.isPlain = true) :
    (∀ pass, hasScope pass.frames = true →
      ∃ lowered later, lowerExpr .full node pass = (.ok lowered, later)) ∧
    (∀ vocabulary pass lowered later, node.names ⊆ pass.reserved →
      lowerExpr vocabulary node pass = (.ok lowered, later) →
        ∃ minted, later.reserved = minted.reverse ++ pass.reserved ∧
          KeepsMeaning meaning minted node lowered) ∧
    ∀ earlier loc at_, ∃ declarations lowered,
      ((({} : Engine).after earlier).lower (ofExpr loc at_ node)).1 =
        .ok ⟨loc, declarations ++ [.expression at_ lowered], .script⟩ ∧
      KeepsMeaning meaning ((({} : Engine).after earlier).minted (ofExpr loc at_ node)) node
        lowered := by
  refine ⟨fun pass reach => ((runs_expr node plain).iff pass reach).mpr trivial, ?_, ?_⟩
  · intro vocabulary pass lowered later reserved ran
    obtain ⟨minted, supplied, keeps⟩ := lowerExpr_keepsMeaning vocabulary meaning plain reserved ran
    exact ⟨minted, supplied.later_eq, keeps⟩
  · intro earlier loc at_
    have complete := ({} : Engine).after_vocabulary earlier
    exact Engine.lower_ofExpr_keepsMeaning complete meaning loc at_ plain

/-- `_temp$1 < (a = _temp$1 <= b <= c) < d`, which uses the first name that would be made up. -/
def nestedChain : Script.Expr :=
  .compareChain none
    [.identifier none "_temp$1",
     .assignment none .assign (.identifier none "a")
       (.compareChain none
         [.identifier none "_temp$1", .identifier none "b", .identifier none "c"]
         [.lessEqual, .lessEqual]),
     .identifier none "d"]
    [.less, .less]

/-- Natural numbers that are compared, where 0 is false. -/
def naturals : Meaning Nat where
  literal _ := 0
  unary _ value := value
  script op left right := (if op = .less then left < right else left ≤ right : Bool).toNat
  target op left right := (if op = .less then left < right else left ≤ right : Bool).toNat
  target_eq op lowered found := by
    cases op <;> cases found <;> rfl
  update _ _ value := value
  targetUpdate _ _ value := value
  update_eq _ := rfl
  truthy value := value != 0

theorem lowering_keeps_meaning_nestedChain :
    nestedChain.isPlain = true ∧
      ({} : Engine).minted (ofExpr none none nestedChain) = ["_temp$2", "_temp$3"] ∧
      ∃ declarations lowered, (({} : Engine).lower (ofExpr none none nestedChain)).1 =
          .ok ⟨none, declarations ++ [.expression none lowered], .script⟩ ∧
        KeepsMeaning naturals ["_temp$2", "_temp$3"] nestedChain lowered := by
  have plain : nestedChain.isPlain = true := rfl
  have minted : ({} : Engine).minted (ofExpr none none nestedChain) = ["_temp$2", "_temp$3"] := by
    with_unfolding_all rfl
  obtain ⟨declarations, lowered, lowers, keeps⟩ :=
    (lowering_keeps_meaning naturals nestedChain plain).2.2 [] none none
  exact ⟨plain, minted, declarations, lowered, lowers, minted ▸ keeps⟩

end Lowering

end Offside
