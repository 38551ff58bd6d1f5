import Offside.Proofs.PassInvariant

/-! Nodes that a vocabulary lets through, and the two templates that lowering uses. An instance of a
template is the same whether the template was compiled before or is compiled now. -/

namespace Offside

theorem Except.bind_eq_ok {first : Except ε α} {next : α → Except ε β} :
    (first >>= next) = .ok b ↔ ∃ a, first = .ok a ∧ next a = .ok b := by
  cases first <;> simp [bind, Except.bind]

namespace Target.Vocabulary

theorem expr_eq_ok {vocabulary : Vocabulary} {node built : Expr} :
    vocabulary.expr node = .ok built ↔ vocabulary.contains node.kind.name = true ∧ built = node := by
  unfold expr require
  cases vocabulary.contains node.kind.name
  · simp [bind, Except.bind]
  · simp [bind, Except.bind, pure, Except.pure, eq_comm]

theorem stmt_eq_ok {vocabulary : Vocabulary} {node built : Stmt} :
    vocabulary.stmt node = .ok built ↔ vocabulary.contains node.kind.name = true ∧ built = node := by
  unfold stmt require
  cases vocabulary.contains node.kind.name
  · simp [bind, Except.bind]
  · simp [bind, Except.bind, pure, Except.pure, eq_comm]

@[simp] theorem require_full (kind : NodeKind) : full.require kind.name = .ok () := by
  simp [require, contains_full]

@[simp] theorem expr_full (node : Expr) : full.expr node = .ok node :=
  expr_eq_ok.mpr ⟨contains_full _, rfl⟩

@[simp] theorem stmt_full (node : Stmt) : full.stmt node = .ok node :=
  stmt_eq_ok.mpr ⟨contains_full _, rfl⟩

end Target.Vocabulary

namespace Lowering

variable {pass later : Pass}

/-- Floor division in the target. -/
def floorCall (loc : Option Location) (left right : Target.Expr) : Target.Expr :=
  .call loc (.member loc (.identifier loc "Math") (.identifier loc "floor") false)
    [.binary loc .div left right]

/-- The application of a generator to the `this` around it. -/
def applyCall (loc : Option Location) (generator : Target.Expr) : Target.Expr :=
  .call loc (.member loc generator (.identifier loc "apply") false)
    [.thisObject loc, .array loc []]

theorem compile_floorDivision : Template.compile floorDivision = .ok ⟨floorDivision,
    [.expression (.call (.member (.identifier "Math") (.identifier "floor") false)
      [.binary .div (.placeholder "left") (.placeholder "right")])]⟩ := by
  with_unfolding_all rfl

theorem compile_applyGenerator : Template.compile applyGenerator = .ok ⟨applyGenerator,
    [.expression (.call (.member (.placeholder "fn") (.identifier "apply") false)
      [.thisObject, .array []])]⟩ := by
  with_unfolding_all rfl

/-- With a faithful cache, a template is what its text compiles to. -/
theorem instantiate_apply (vocabulary : Target.Vocabulary) (bindings : Template.Bindings)
    (loc : Option Location) {entry : Template} (faithful : pass.templates.Faithful)
    (compiled : Template.compile source = .ok entry) :
    instantiate vocabulary source bindings loc pass =
      (entry.expression vocabulary bindings loc,
        { pass with templates := (pass.templates.get source).2 }) := by
  have found : template source pass =
      (.ok entry, { pass with templates := (pass.templates.get source).2 }) := by
    rw [← compiled, ← faithful.get_fst source]
    rfl
  rw [instantiate, Lower.bind_apply, found]
  rfl

theorem instantiate_floorDivision_ok {vocabulary : Target.Vocabulary}
    (faithful : pass.templates.Faithful)
    (ran : instantiate vocabulary floorDivision [("left", left), ("right", right)] loc pass =
      (.ok built, later)) :
    built = floorCall loc left right ∧
      later = { pass with templates := (pass.templates.get floorDivision).2 } := by
  rw [instantiate_apply vocabulary _ loc faithful compile_floorDivision] at ran
  obtain ⟨instanced, rfl⟩ := Prod.mk.inj ran
  refine ⟨?_, rfl⟩
  simp only [Template.expression, Template.Expr.instantiate, Template.instantiateAll,
    Template.Bindings.find?, BEq.rfl, List.find?_cons_of_pos, Option.map_some, String.reduceBEq,
    Bool.false_eq_true, not_false_eq_true, List.find?_cons_of_neg, bind_pure_comp, bind_assoc,
    bind_map_left, Except.bind_eq_ok, Target.Vocabulary.expr_eq_ok, Except.ok.injEq, List.nil_eq,
    exists_eq_left, exists_eq_left'] at instanced
  obtain ⟨_, ⟨_, rfl⟩, _, ⟨_, rfl⟩, _, ⟨_, rfl⟩, _, ⟨_, rfl⟩, _, rfl⟩ := instanced
  rfl

theorem instantiate_floorDivision_full (left right : Target.Expr) (loc : Option Location)
    (faithful : pass.templates.Faithful) :
    instantiate .full floorDivision [("left", left), ("right", right)] loc pass =
      (.ok (floorCall loc left right),
        { pass with templates := (pass.templates.get floorDivision).2 }) := by
  rw [instantiate_apply .full _ loc faithful compile_floorDivision]
  simp [Template.expression, Template.Expr.instantiate, Template.instantiateAll, floorCall,
    Template.Bindings.find?, bind, Except.bind, pure, Except.pure]

theorem instantiate_applyGenerator_ok {vocabulary : Target.Vocabulary}
    (faithful : pass.templates.Faithful)
    (ran : instantiate vocabulary applyGenerator [("fn", generator)] loc pass =
      (.ok built, later)) :
    built = applyCall loc generator ∧
      later = { pass with templates := (pass.templates.get applyGenerator).2 } := by
  rw [instantiate_apply vocabulary _ loc faithful compile_applyGenerator] at ran
  obtain ⟨instanced, rfl⟩ := Prod.mk.inj ran
  refine ⟨?_, rfl⟩
  simp only [Template.expression, Template.Expr.instantiate, Template.Bindings.find?, BEq.rfl,
    List.find?_cons_of_pos, Option.map_some, Template.instantiateAll, bind_pure_comp, bind_assoc,
    map_bind, Functor.map_map, bind_map_left, Except.bind_eq_ok, Except.ok.injEq,
    Target.Vocabulary.expr_eq_ok, List.nil_eq, exists_eq_left, exists_eq_left'] at instanced
  obtain ⟨_, ⟨_, rfl⟩, _, ⟨_, rfl⟩, _, ⟨_, rfl⟩, _, ⟨_, rfl⟩, _, rfl⟩ := instanced
  rfl

theorem instantiate_applyGenerator_full (generator : Target.Expr) (loc : Option Location)
    (faithful : pass.templates.Faithful) :
    instantiate .full applyGenerator [("fn", generator)] loc pass =
      (.ok (applyCall loc generator),
        { pass with templates := (pass.templates.get applyGenerator).2 }) := by
  rw [instantiate_apply .full _ loc faithful compile_applyGenerator]
  simp [Template.expression, Template.Expr.instantiate, Template.instantiateAll, applyCall,
    Template.Bindings.find?, bind, Except.bind, pure, Except.pure]

end Lowering

end Offside
