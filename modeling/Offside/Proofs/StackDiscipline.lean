import Offside.Proofs.Hygiene
import Offside.Proofs.LocationPropagation

/-! The discipline of frames. Whatever happens, lowering a node leaves the frames as they were, but for
new names at the end of the nearest scope. Hence the faults that tell of frames out of order never
arise, and neither do those of templates, which are all well-formed, and of chains whose length was
checked before. -/

namespace Offside

namespace Lowering

variable {pass middle later : Pass}

/-- The frames gained names in the nearest scope. These are among the names made up meanwhile, in the
same order. -/
def Gained (pass later : Pass) : Prop :=
  ∃ names minted, later.frames = extendScope names pass.frames ∧ names.Sublist minted ∧
    Supplied pass.reserved minted later.reserved

/-- The same below the frame of a cascade. -/
def GainedBelow (outer : List Frame) (pass later : Pass) : Prop :=
  ∃ held names minted, later.frames = .cascade held :: extendScope names outer ∧
    names.Sublist minted ∧ Supplied pass.reserved minted later.reserved

theorem Gained.refl (pass : Pass) : Gained pass pass :=
  ⟨[], [], (extendScope_nil _).symm, .slnil, .none⟩

theorem Gained.trans (first : Gained pass middle) (second : Gained middle later) :
    Gained pass later := by
  obtain ⟨names, minted, frames, among, supplied⟩ := first
  obtain ⟨more, mintedMore, framesMore, amongMore, suppliedMore⟩ := second
  refine ⟨names ++ more, minted ++ mintedMore, ?_, among.append amongMore,
    supplied.trans suppliedMore⟩
  rw [framesMore, frames, extendScope_extendScope]

theorem GainedBelow.trans {outer : List Frame} (first : GainedBelow outer pass middle)
    (second : ∀ held inner, middle.frames = .cascade held :: inner → GainedBelow inner middle later) :
    GainedBelow outer pass later := by
  obtain ⟨held, names, minted, frames, among, supplied⟩ := first
  obtain ⟨left, more, mintedMore, framesMore, amongMore, suppliedMore⟩ := second held _ frames
  refine ⟨left, names ++ more, minted ++ mintedMore, ?_, among.append amongMore,
    supplied.trans suppliedMore⟩
  rw [framesMore, extendScope_extendScope]

/-- A step after which the frames gained names, even when it fails. -/
def Gains (step : Lower α) : Prop := ∀ pass, Gained pass (step pass).2

def GainsBelow (step : Lower α) : Prop :=
  ∀ pass held outer, pass.frames = .cascade held :: outer → GainedBelow outer pass (step pass).2

theorem Gains.bind {first : Lower α} {next : α → Lower β} (gains : Gains first)
    (rest : ∀ a, Gains (next a)) : Gains (first >>= next) := by
  intro pass
  have before := gains pass
  rw [Lower.bind_apply]
  revert before
  rcases first pass with ⟨_ | a, middle⟩
  · exact id
  · exact fun before => before.trans (rest a middle)

theorem GainsBelow.bind {first : Lower α} {next : α → Lower β} (gains : GainsBelow first)
    (rest : ∀ a, GainsBelow (next a)) : GainsBelow (first >>= next) := by
  intro pass held outer top
  have before := gains pass held outer top
  rw [Lower.bind_apply]
  revert before
  rcases first pass with ⟨_ | a, middle⟩
  · exact id
  · exact fun before => before.trans (rest a middle)

theorem Gains.below {step : Lower α} (gains : Gains step) : GainsBelow step := by
  intro pass held outer top
  obtain ⟨names, minted, frames, among, supplied⟩ := gains pass
  refine ⟨held, names, minted, ?_, among, supplied⟩
  rw [frames, top]
  rfl

theorem Gains.withScope {step : Lower α} (gains : Gains step) :
    Gains (step.withFrame .scope) := by
  intro pass
  obtain ⟨names, minted, frames, -, supplied⟩ :=
    gains (pass.push .scope)
  rw [Lower.withFrame_snd]
  exact ⟨[], minted, by simp [frames, extendScope], List.nil_sublist _, supplied⟩

theorem Gains.withMethod {step : Lower α} (gains : Gains step) :
    Gains (step.withFrame .method) := by
  intro pass
  obtain ⟨names, minted, frames, among, supplied⟩ :=
    gains (pass.push .method)
  rw [Lower.withFrame_snd]
  exact ⟨names, minted, by simp [frames, extendScope], among, supplied⟩

theorem GainsBelow.withCascade {step : Lower α} (gains : GainsBelow step) (name : String) :
    Gains (step.withFrame (.cascade name)) := by
  intro pass
  obtain ⟨held, names, minted, frames, among, supplied⟩ :=
    gains (pass.push (.cascade name)) [name] pass.frames rfl
  rw [Lower.withFrame_snd]
  exact ⟨names, minted, by simp [frames], among, supplied⟩

private theorem gains_freshName (known : stem ∈ stems) : Gains (freshName stem) := by
  intro pass
  unfold freshName
  cases hasScope pass.frames
  · exact .refl pass
  · exact ⟨[_], [_], pass.mint_free_frames stem, .refl _, .next known .none⟩

theorem closed_gains : Closed (fun _ => Gains) (fun _ => GainsBelow) where
  pure _ pass := .refl pass
  bind := .bind
  result _ pass := .refl pass
  surroundings pass := .refl pass
  template _ pass := .refl pass
  fresh := gains_freshName
  scope := .withScope
  method := .withMethod
  cascade name gains := gains.withCascade name
  ofGeneral gains := gains.below
  bindInCascade := .bind
  receivers pass held outer top := by
    rw [receivers_eq top]
    exact ⟨held, [], [], by simp [top], .slnil, .none⟩
  setReceivers names pass held outer top := by
    rw [setReceivers_eq names top]
    exact ⟨names, [], [], by simp [top], .slnil, .none⟩

/-- Where there is a scope, the nearest one gains names that were not reserved, and has none twice. -/
theorem Gained.nearest (gained : Gained pass later) {inner outer : List Frame} {held : List String}
    (frames : pass.frames = inner ++ .scope held :: outer) (nearest : ∀ others, .scope others ∉ inner) :
    ∃ names : List String, (held ++ names).Nodup ∧ (∀ name ∈ names, name ∉ pass.reserved) ∧
      later.frames = inner ++ .scope (held ++ names) :: outer := by
  obtain ⟨names, minted, extended, among, supplied⟩ := gained
  rw [frames, extendScope_append inner outer held names nearest] at extended
  have distinct : (held ++ names).Nodup :=
    (later.declared (.scope (held ++ names)) (by simp [extended])).1
  refine ⟨names, distinct, ?_, extended⟩
  intro name member
  exact supplied.fresh name (among.subset member)

end Lowering

/-- The text of a chain of a wrong length starts with a digit. -/
private theorem ShapeFault.chainLength_reason (operands operators : Nat) :
    ∃ first more, (chainLength operands operators).reason.toList = first :: more ∧
      first.isDigit = true := by
  obtain ⟨first, more, digits⟩ := List.exists_cons_of_ne_nil (Nat.toDigits_ne_nil : Nat.toDigits 10 operands ≠ [])
  refine ⟨first, more ++ (" operands for " ++ toString operators ++ " operators").toList, ?_, ?_⟩
  · simp [reason, digits]
  · apply Nat.isDigit_of_mem_toDigits (by decide : 0 < 10) (by decide)
    rw [digits]
    exact List.mem_cons_self ..

/-- No fault that can arise is about an empty chain or one that ran out of operands. -/
private theorem ShapeFault.reason_of_arises {shape : ShapeFault}
    (arises : (Fault.shape shape).Arises kind) :
    shape.reason ≠ "empty comparison chain" ∧
      shape.reason ≠ "comparison chain ran out of operands" := by
  cases shape with
  | chainLength operands operators =>
    obtain ⟨first, more, text, digit⟩ := chainLength_reason operands operators
    constructor
    · intro same
      rw [same] at text
      obtain ⟨rfl, -⟩ := List.cons.inj text
      exact absurd digit (by decide)
    · intro same
      rw [same] at text
      obtain ⟨rfl, -⟩ := List.cons.inj text
      exact absurd digit (by decide)
  | noDeclarators => decide
  | emptyChain => exact arises.elim
  | chainEnded => exact arises.elim

namespace Lowering.Engine

/-- Lowering an expression, a statement or a property leaves the frames as they were, except that the
nearest scope may have gained names at its end. They were not reserved, and no name of the scope is held
twice. No program makes an engine report frames out of order, a template that cannot be read or filled, or
a chain that has no comparison or too few operands for its comparisons. -/
theorem frames_disciplined (vocabulary : Target.Vocabulary) :
    (∀ (pass : Pass) (inner outer : List Frame) (held : List String),
      pass.frames = inner ++ .scope held :: outer → (∀ others, .scope others ∉ inner) →
      ∀ later, ((∃ node, (lowerExpr vocabulary node pass).2 = later) ∨
          (∃ node, (lowerStmt vocabulary node pass).2 = later) ∨
          ∃ node, (lowerProperty vocabulary node pass).2 = later) →
        ∃ names : List String, (held ++ names).Nodup ∧ (∀ name ∈ names, name ∉ pass.reserved) ∧
          later.frames = inner ++ .scope (held ++ names) :: outer) ∧
    ∀ earlier program fault,
      ((({ vocabulary } : Engine).after earlier).lower program).1 = .error fault →
        (∀ frame, fault ≠ .frames frame) ∧ (∀ form, fault ≠ .templateForm form) ∧
        (∀ leftover, fault ≠ .templateSyntax leftover) ∧
        (∀ column, fault ≠ .templateWidth column) ∧ (∀ name, fault ≠ .unboundPlaceholder name) ∧
        ∀ shape, fault = .shape shape → shape.reason ≠ "empty comparison chain" ∧
          shape.reason ≠ "comparison chain ran out of operands" := by
  constructor
  · intro pass inner outer held frames nearest later lowered
    have gained : Gained pass later := by
      rcases lowered with ⟨node, rfl⟩ | ⟨node, rfl⟩ | ⟨node, rfl⟩
      · exact closed_gains.expr vocabulary node pass
      · exact closed_gains.stmt vocabulary node pass
      · exact closed_gains.property vocabulary node pass
    exact gained.nearest frames nearest
  · intro earlier program fault ran
    have lend : Script.Lend (fun _ => True) program.nodes :=
      fun _ _ => ⟨fun _ => trivial, fun _ _ => trivial⟩
    have faithful : (({ vocabulary } : Engine).after earlier).templates.Faithful :=
      after_faithful .empty earlier
    have settles := lower_settles faithful trivial lend
    rw [ran] at settles
    have arises : fault.Arises fun _ => True := by
      cases settles with
      | error arises => exact arises
    refine ⟨?_, ?_, ?_, ?_, ?_, ?_⟩
    · rintro frame rfl
      exact arises
    · rintro form rfl
      exact arises
    · rintro leftover rfl
      exact arises
    · rintro column rfl
      exact arises
    · rintro name rfl
      exact arises
    · rintro shape rfl
      exact ShapeFault.reason_of_arises arises

/-- A cascade on a chain of comparisons. A deeper step follows its first one, which is no expression, so
that lowering fails while the frame of the cascade is open. -/
def brokenCascade : Script.Stmt :=
  .cascade none (.compareChain none [.thisObject none, .thisObject none, .thisObject none] [.less, .less])
    [.block none (.mk none [.empty none]), .empty none] [1, 2]

/-- A pass in a method and a cascade, whose scope has a name already. -/
def crowdedPass : Pass where
  frames := [.method, .cascade ["a"], .scope ["b"], .scope []]
  reserved := ["a", "b"]
  templates := {}
  declared := by decide

theorem frames_disciplined_brokenCascade :
    (lowerStmt .full brokenCascade crowdedPass).1 =
      .error (.cascade (.notExpression "BlockStatement") none) ∧
    (∃ names : List String, ("b" :: names).Nodup ∧ (∀ name ∈ names, name ∉ ["a", "b"]) ∧
      (lowerStmt .full brokenCascade crowdedPass).2.frames =
        [.method, .cascade ["a"], .scope ("b" :: names), .scope []]) ∧
    ∃ fault, (({} : Engine).lower ⟨none, [brokenCascade]⟩).1 = .error fault ∧
      ∀ frame, fault ≠ .frames frame := by
  have fails : (lowerStmt .full brokenCascade crowdedPass).1 =
      .error (.cascade (.notExpression "BlockStatement") none) := rfl
  refine ⟨fails, ?_, ?_⟩
  · apply (frames_disciplined .full).1 crowdedPass [.method, .cascade ["a"]] [.scope []] ["b"] rfl
    · simp
    · exact .inr (.inl ⟨brokenCascade, rfl⟩)
  · have evaluated : (({} : Engine).lower ⟨none, [brokenCascade]⟩).1.isOk = false := by decide +kernel
    cases ran : (({} : Engine).lower ⟨none, [brokenCascade]⟩).1 with
    | ok lowered =>
      rw [ran] at evaluated
      cases evaluated
    | error fault => exact ⟨fault, rfl, ((frames_disciplined .full).2 [] _ fault ran).1⟩

end Lowering.Engine

end Offside
