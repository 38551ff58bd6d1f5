import Offside.Proofs.NameSupply

/-! What a step of lowering leaves of the pass. Frames come back as they were, but for names that the
nearest scope gained, and every template at hand is the one its text compiles to. -/

namespace Offside

namespace Template

/-- Every compiled template is what its text compiles to. -/
def Cache.Faithful (cache : Cache) : Prop :=
  ∀ template ∈ cache.compiled, compile template.source = .ok template

theorem compile_source {source : String} {template : Template}
    (compiled : compile source = .ok template) : template.source = source := by
  unfold compile at compiled
  split at compiled
  · cases compiled
    rfl
  · split at compiled <;> cases compiled

theorem Cache.Faithful.empty : ({} : Cache).Faithful := by simp [Cache.Faithful]

/-- A faithful cache answers as if it compiled anew. -/
theorem Cache.Faithful.get_fst {cache : Cache} (faithful : cache.Faithful) (source : String) :
    (cache.get source).1 = compile source := by
  unfold Cache.get
  cases found : cache.find? source with
  | none => cases compile source <;> rfl
  | some template =>
    have member : template ∈ cache.compiled := List.mem_of_find?_eq_some found
    have same : template.source = source := by simpa using List.find?_some found
    rw [← same]
    exact (faithful template member).symm

theorem Cache.Faithful.get_snd {cache : Cache} (faithful : cache.Faithful) (source : String) :
    (cache.get source).2.Faithful := by
  unfold Cache.get
  cases cache.find? source with
  | some _ => exact faithful
  | none =>
    cases compiled : compile source with
    | error _ => exact faithful
    | ok template =>
      intro entry member
      rcases List.mem_append.mp member with old | new
      · exact faithful entry old
      · rw [List.mem_singleton.mp new, compile_source compiled, compiled]

end Template

namespace Lowering

variable {pass middle later : Pass}

theorem Lower.bind_eq_ok {first : Lower α} {next : α → Lower β} :
    (first >>= next) pass = (.ok b, later) ↔
      ∃ a middle, first pass = (.ok a, middle) ∧ next a middle = (.ok b, later) := by
  rw [Lower.bind_apply]
  constructor
  · intro ran
    split at ran
    · exact ⟨_, _, ‹_›, ran⟩
    · simp at ran
  · rintro ⟨a, middle, ran, rest⟩
    simp [ran, rest]

/-- Adds names to the nearest scope, if there is one. -/
def extendScope (names : List String) : List Frame → List Frame
  | [] => []
  | .scope held :: outer => .scope (held ++ names) :: outer
  | frame :: outer => frame :: extendScope names outer

@[simp] theorem extendScope_nil (frames : List Frame) : extendScope [] frames = frames := by
  induction frames with
  | nil => rfl
  | cons frame outer ih => cases frame <;> simp [extendScope, ih]

theorem extendScope_extendScope (first second : List String) (frames : List Frame) :
    extendScope second (extendScope first frames) = extendScope (first ++ second) frames := by
  induction frames with
  | nil => rfl
  | cons frame outer ih => cases frame <;> simp [extendScope, ih]

@[simp] theorem inMethod_extendScope (names : List String) (frames : List Frame) :
    inMethod (extendScope names frames) = inMethod frames := by
  cases frames with
  | nil => rfl
  | cons frame outer => cases frame <;> rfl

@[simp] theorem innermostReceiver_extendScope (names : List String) (frames : List Frame) :
    innermostReceiver (extendScope names frames) = innermostReceiver frames := by
  induction frames with
  | nil => rfl
  | cons frame outer ih => cases frame <;> simp [extendScope, innermostReceiver, ih]

@[simp] theorem hasScope_extendScope (names : List String) (frames : List Frame) :
    hasScope (extendScope names frames) = hasScope frames := by
  induction frames with
  | nil => rfl
  | cons frame outer ih => cases frame <;> simp [extendScope, hasScope, ih]

theorem hasScope_iff {frames : List Frame} : hasScope frames = true ↔ ∃ names, .scope names ∈ frames := by
  induction frames with
  | nil => simp [hasScope]
  | cons frame outer ih => cases frame <;> simp [hasScope, ih]

/-- Frames with a scope have a nearest one. -/
theorem exists_nearest {frames : List Frame} (reach : hasScope frames = true) :
    ∃ (inner outer : List Frame) (held : List String),
      frames = inner ++ .scope held :: outer ∧ ∀ others, .scope others ∉ inner := by
  induction frames with
  | nil => cases reach
  | cons frame rest ih =>
    cases frame with
    | scope held => exact ⟨[], rest, held, rfl, by simp⟩
    | cascade receivers =>
      obtain ⟨inner, outer, held, rfl, nearest⟩ := ih reach
      exact ⟨.cascade receivers :: inner, outer, held, rfl, by simpa using nearest⟩
    | method =>
      obtain ⟨inner, outer, held, rfl, nearest⟩ := ih reach
      exact ⟨.method :: inner, outer, held, rfl, by simpa using nearest⟩

theorem extendScope_append (inner outer : List Frame) (held names : List String)
    (nearest : ∀ others, .scope others ∉ inner) :
    extendScope names (inner ++ .scope held :: outer) = inner ++ .scope (held ++ names) :: outer := by
  induction inner with
  | nil => rfl
  | cons frame inner ih =>
    have rest := ih fun others member => nearest others (List.mem_cons_of_mem _ member)
    cases frame with
    | scope others => exact absurd (List.mem_cons_self ..) (nearest others)
    | cascade _ => exact congrArg (_ :: ·) rest
    | method => exact congrArg (_ :: ·) rest

/-- A name that no frame has is put after the names of the nearest scope. -/
private theorem declareName_eq {frames : List Frame} (new : ∀ frame ∈ frames, name ∉ frame.names) :
    declareName name frames = extendScope [name] frames := by
  induction frames with
  | nil => rfl
  | cons frame outer ih =>
    have rest := ih fun frame member => new frame (List.mem_cons_of_mem _ member)
    have first := new frame List.mem_cons_self
    cases frame with
    | scope held => simpa [declareName, extendScope, insertName, Frame.names] using first
    | cascade _ => exact congrArg (_ :: ·) rest
    | method => exact congrArg (_ :: ·) rest

/-- No frame has a name that is not reserved. -/
theorem Pass.mint_frames (pass : Pass) (free : name ∉ pass.reserved) :
    (pass.mint name).frames = extendScope [name] pass.frames :=
  declareName_eq fun frame member held => free ((pass.declared frame member).2 name held)

theorem Pass.mint_free_frames (pass : Pass) (stem : String) :
    (pass.mint (freeName stem pass.reserved)).frames =
      extendScope [freeName stem pass.reserved] pass.frames :=
  pass.mint_frames (freeName_not_mem stem pass.reserved)

/-- A name is made up where there is a scope to declare it in, and nowhere else. -/
theorem freshName_eq_ok :
    freshName stem pass = (.ok name, later) ↔
      hasScope pass.frames = true ∧ name = freeName stem pass.reserved ∧ later = pass.mint name := by
  unfold freshName
  cases hasScope pass.frames
  · simp
  · simp only [↓reduceIte, Prod.mk.injEq, Except.ok.injEq, true_and]
    constructor
    · rintro ⟨rfl, rfl⟩
      exact ⟨rfl, rfl⟩
    · rintro ⟨rfl, rfl⟩
      exact ⟨rfl, rfl⟩

/-- The frame of a cascade tells its receivers. -/
theorem receivers_eq_ok :
    receivers true pass = (.ok held, later) ↔
      (∃ outer, pass.frames = .cascade held :: outer) ∧ later = pass := by
  rw [receivers, Lower.bind_apply, ownFrame]
  cases pass.frames with
  | nil => simp
  | cons frame outer => cases frame <;> simp [eq_comm]

theorem receivers_eq (top : pass.frames = .cascade held :: outer) :
    receivers true pass = (.ok held, pass) := receivers_eq_ok.mpr ⟨⟨outer, top⟩, rfl⟩

/-- Reading the receivers changes nothing, whether or not there are any. -/
theorem receivers_snd (opened : Bool) (pass : Pass) : (receivers opened pass).2 = pass := by
  rw [receivers, Lower.bind_apply, ownFrame]
  cases opened with
  | false => rfl
  | true =>
    cases pass.frames with
    | nil => rfl
    | cons frame outer => cases frame <;> rfl

theorem setReceivers_snd (opened : Bool) (names : List String) (pass : Pass) :
    (setReceivers opened names pass).2 = pass ∨
      (setReceivers opened names pass).2 = pass.receive names := by
  have same := receivers_snd opened pass
  rw [setReceivers, Lower.bind_apply]
  rcases ran : receivers opened pass with ⟨fault | held, later⟩
  · rw [ran] at same
    exact .inl same
  · rw [ran] at same
    exact .inr (congrArg (Pass.receive names) same)

theorem setReceivers_eq_ok :
    setReceivers true names pass = (.ok done, later) ↔
      (∃ held outer, pass.frames = .cascade held :: outer) ∧ later = pass.receive names := by
  rw [setReceivers, Lower.bind_eq_ok]
  simp only [receivers_eq_ok, Lower.modify_apply, Prod.mk.injEq, true_and]
  constructor
  · rintro ⟨held, _, ⟨⟨outer, top⟩, rfl⟩, rfl⟩
    exact ⟨⟨held, outer, top⟩, rfl⟩
  · rintro ⟨⟨held, outer, top⟩, rfl⟩
    exact ⟨held, pass, ⟨⟨outer, top⟩, rfl⟩, rfl⟩

theorem setReceivers_eq (names : List String) (top : pass.frames = .cascade held :: outer) :
    setReceivers true names pass = (.ok (), pass.receive names) :=
  setReceivers_eq_ok.mpr ⟨⟨held, outer, top⟩, rfl⟩

/-- What lowering a node leaves of the pass. -/
structure Kept (pass later : Pass) : Prop where
  frames : ∃ names, later.frames = extendScope names pass.frames
  templates : pass.templates.Faithful → later.templates.Faithful

theorem Kept.refl (pass : Pass) : Kept pass pass := ⟨⟨[], by simp⟩, id⟩

theorem Kept.trans (first : Kept pass middle) (second : Kept middle later) : Kept pass later := by
  obtain ⟨before, framesBefore⟩ := first.frames
  obtain ⟨after, framesAfter⟩ := second.frames
  refine ⟨⟨before ++ after, ?_⟩, second.templates ∘ first.templates⟩
  rw [framesAfter, framesBefore, extendScope_extendScope]

/-- A step that leaves the pass as it found it, in this sense, even when it fails. -/
def Keeps (step : Lower α) : Prop := ∀ pass, Kept pass (step pass).2

/-- What is below the frame of a cascade after some of its steps. -/
structure KeptBelow (outer : List Frame) (pass later : Pass) : Prop where
  frames : ∃ held names, later.frames = .cascade held :: extendScope names outer
  templates : pass.templates.Faithful → later.templates.Faithful

def KeepsBelow (step : Lower α) : Prop :=
  ∀ pass held outer, pass.frames = .cascade held :: outer → KeptBelow outer pass (step pass).2

theorem Keeps.bind {first : Lower α} {next : α → Lower β} (kept : Keeps first)
    (rest : ∀ a, Keeps (next a)) : Keeps (first >>= next) := by
  intro pass
  have before := kept pass
  rw [Lower.bind_apply]
  revert before
  rcases first pass with ⟨_ | a, middle⟩
  · exact id
  · exact fun before => before.trans (rest a middle)

theorem Lower.withFrame_snd (opening : Opening) (step : Lower α) (pass : Pass) :
    (step.withFrame opening pass).2 = (step (pass.push opening)).2.pop := by
  rw [withFrame_apply]

theorem Lower.withFrame_eq_ok {step : Lower α} :
    step.withFrame opening pass = (.ok result, later) ↔
      ∃ inner, step (pass.push opening) = (.ok result.1, inner) ∧
        inner.frames.head? = some result.2 ∧ later = inner.pop := by
  obtain ⟨a, left⟩ := result
  rw [withFrame_apply]
  rcases step (pass.push opening) with ⟨fault | b, inner⟩
  · simp [bind, Except.bind]
  · cases frames : inner.frames with
    | nil => simp [bind, Except.bind, innermost, frames]
    | cons top outer =>
      simp only [bind, Except.bind, innermost, Pure.pure, Except.pure, Prod.mk.injEq,
        Except.ok.injEq]
      constructor
      · rintro ⟨⟨rfl, rfl⟩, rfl⟩
        exact ⟨inner, ⟨rfl, rfl⟩, by rw [frames]; rfl, rfl⟩
      · rintro ⟨_, ⟨rfl, rfl⟩, same, rfl⟩
        rw [frames] at same
        exact ⟨⟨rfl, Option.some.inj same⟩, rfl⟩

/-- A step under a frame succeeds if the step does there. -/
theorem Lower.withFrame_succeeds {step : Lower α}
    (stays : (step (pass.push opening)).2.frames ≠ []) :
    (∃ result later, step.withFrame opening pass = (.ok result, later)) ↔
      ∃ a inner, step (pass.push opening) = (.ok a, inner) := by
  simp only [Lower.withFrame_eq_ok]
  constructor
  · rintro ⟨result, later, inner, ran, -, -⟩
    exact ⟨result.1, inner, ran⟩
  · rintro ⟨a, inner, ran⟩
    rw [ran] at stays
    obtain ⟨left, outer, frames⟩ := List.exists_cons_of_ne_nil stays
    exact ⟨(a, left), _, inner, ran, by rw [frames]; rfl, rfl⟩

/-- A step does not take away the frame it runs under. -/
theorem Keeps.frames_ne_nil {step : Lower α} (kept : Keeps step)
    (under : pass.frames = frame :: outer) : (step pass).2.frames ≠ [] := by
  obtain ⟨names, frames⟩ := (kept pass).frames
  rw [frames, under]
  cases frame <;> exact List.cons_ne_nil _ _

theorem KeepsBelow.frames_ne_nil {step : Lower α} (kept : KeepsBelow step)
    (under : pass.frames = .cascade held :: outer) : (step pass).2.frames ≠ [] := by
  obtain ⟨_, _, frames⟩ := (kept pass held outer under).frames
  rw [frames]
  exact List.cons_ne_nil _ _

theorem Keeps.withScope {step : Lower α} (kept : Keeps step) :
    Keeps (step.withFrame .scope) := by
  intro pass
  have inside := kept (pass.push .scope)
  obtain ⟨names, frames⟩ := inside.frames
  rw [Lower.withFrame_snd]
  exact ⟨⟨[], by simp [frames, extendScope]⟩, inside.templates⟩

/-- The frame of a scope is a scope at the end. -/
theorem Keeps.withScope_frame {step : Lower α} (kept : Keeps step)
    (ran : step.withFrame .scope pass = (.ok result, later)) :
    ∃ names, result.2 = .scope names := by
  obtain ⟨inner, ran, left, -⟩ := Lower.withFrame_eq_ok.mp ran
  obtain ⟨names, frames⟩ := (kept (pass.push .scope)).frames
  rw [ran] at frames
  rw [frames] at left
  exact ⟨names, (Option.some.inj left).symm⟩

theorem Keeps.withMethod {step : Lower α} (kept : Keeps step) :
    Keeps (step.withFrame .method) := by
  intro pass
  have inside := kept (pass.push .method)
  obtain ⟨names, frames⟩ := inside.frames
  rw [Lower.withFrame_snd]
  exact ⟨⟨names, by simp [frames, extendScope]⟩, inside.templates⟩

theorem KeepsBelow.withCascade {step : Lower α} (kept : KeepsBelow step) (name : String) :
    Keeps (step.withFrame (.cascade name)) := by
  intro pass
  have inside := kept (pass.push (.cascade name)) [name] pass.frames rfl
  obtain ⟨held, names, frames⟩ := inside.frames
  rw [Lower.withFrame_snd]
  exact ⟨⟨names, by simp [frames]⟩, inside.templates⟩

theorem KeepsBelow.bind {first : Lower α} {next : α → Lower β} (kept : KeepsBelow first)
    (rest : ∀ a, KeepsBelow (next a)) : KeepsBelow (first >>= next) := by
  intro pass held outer top
  have before := kept pass held outer top
  rw [Lower.bind_apply]
  revert before
  rcases first pass with ⟨_ | a, middle⟩
  · exact id
  · intro before
    obtain ⟨heldMiddle, namesMiddle, framesMiddle⟩ := before.frames
    have after := rest a middle heldMiddle _ framesMiddle
    obtain ⟨heldAfter, namesAfter, framesAfter⟩ := after.frames
    rw [extendScope_extendScope] at framesAfter
    exact ⟨⟨heldAfter, _, framesAfter⟩, after.templates ∘ before.templates⟩

theorem Keeps.below {step : Lower α} (kept : Keeps step) : KeepsBelow step := by
  intro pass held outer top
  obtain ⟨names, frames⟩ := (kept pass).frames
  refine ⟨⟨held, names, ?_⟩, (kept pass).templates⟩
  rw [frames, top]
  rfl

theorem keeps_freshName (stem : String) : Keeps (freshName stem) := by
  intro pass
  unfold freshName
  cases hasScope pass.frames
  · exact .refl pass
  · exact ⟨⟨[_], pass.mint_free_frames stem⟩, id⟩

private theorem keeps_template (source : String) : Keeps (template source) := fun pass =>
  ⟨⟨[], (extendScope_nil pass.frames).symm⟩, fun faithful => faithful.get_snd source⟩

theorem closed_keeps : Closed (fun _ => Keeps) (fun _ => KeepsBelow) where
  pure a pass := .refl pass
  bind := .bind
  result result pass := .refl pass
  surroundings pass := .refl pass
  template := keeps_template
  fresh _ := keeps_freshName _
  scope := .withScope
  method := .withMethod
  cascade name kept := kept.withCascade name
  ofGeneral kept := kept.below
  bindInCascade := .bind
  receivers pass held outer top := by
    rw [receivers_eq top]
    exact ⟨⟨held, [], by simp [top]⟩, id⟩
  setReceivers names pass held outer top := by
    rw [setReceivers_eq names top]
    exact ⟨⟨names, [], by simp [top]⟩, id⟩

namespace Engine

/-- An engine gives a program if lowering does, and no frame is left over. -/
theorem lower_fst_eq_ok {engine : Engine} :
    (engine.lower program).1 = .ok lowered ↔
      ∃ later, lowerProgram engine.vocabulary program (engine.start program) = (.ok lowered, later) ∧
        later.frames = [] := by
  unfold lower
  rcases lowerProgram engine.vocabulary program (engine.start program) with ⟨fault | result, later⟩
  · simp
  · simp only [List.isEmpty_iff, Prod.mk.injEq, Except.ok.injEq]
    constructor
    · intro checked
      split at checked
      · cases checked
        exact ⟨later, ⟨rfl, rfl⟩, ‹_›⟩
      · cases checked
    · rintro ⟨_, ⟨rfl, rfl⟩, empty⟩
      rw [if_pos empty]

private theorem lower_faithful {engine : Engine} (faithful : engine.templates.Faithful)
    (program : Script.Program) : (engine.lower program).2.templates.Faithful :=
  (closed_keeps.program engine.vocabulary program (engine.start program)).templates faithful

/-- The engine after it lowered some programs. -/
def after (engine : Engine) (programs : List Script.Program) : Engine :=
  programs.foldl (fun engine program => (engine.lower program).2) engine

theorem after_vocabulary (engine : Engine) (programs : List Script.Program) :
    (engine.after programs).vocabulary = engine.vocabulary := by
  induction programs generalizing engine with
  | nil => rfl
  | cons program programs ih => exact ih _

theorem after_faithful {engine : Engine} (faithful : engine.templates.Faithful)
    (programs : List Script.Program) : (engine.after programs).templates.Faithful := by
  induction programs generalizing engine with
  | nil => exact faithful
  | cons program programs ih => exact ih (lower_faithful faithful program)

end Engine

end Lowering

end Offside
