import Offside.Proofs.VocabularyFilter

/-! What an engine remembers. It keeps the templates it compiled, also those of programs that it could
not lower. They save work and nothing else: what an engine makes of a program does not depend on the
programs before. -/

namespace Offside

namespace Template.Cache

/-- No text was compiled twice. -/
def Distinct (cache : Cache) : Prop := (cache.compiled.map Template.source).Nodup

private theorem prefix_get (cache : Cache) (source : String) :
    cache.compiled <+: (cache.get source).2.compiled := by
  unfold get
  cases cache.find? source with
  | some _ => exact List.prefix_rfl
  | none =>
    cases compile source with
    | ok template => exact List.prefix_append _ _
    | error _ => exact List.prefix_rfl

theorem Distinct.empty : ({} : Cache).Distinct := List.nodup_nil

/-- A text is compiled only if it is not found. -/
theorem Distinct.get {cache : Cache} (distinct : cache.Distinct) (source : String) :
    (cache.get source).2.Distinct := by
  unfold Cache.get
  cases found : cache.find? source with
  | some _ => exact distinct
  | none =>
    cases compiled : compile source with
    | error _ => exact distinct
    | ok template =>
      have absent : source ∉ cache.compiled.map Template.source := by
        intro known
        obtain ⟨entry, member, same⟩ := List.mem_map.mp known
        have differs := List.find?_eq_none.mp found entry member
        exact differs (beq_iff_eq.mpr same)
      rw [Distinct, List.map_append, List.map_singleton, compile_source compiled]
      exact List.nodup_append.mpr ⟨distinct, List.nodup_singleton _, fun known member _ last =>
        List.mem_singleton.mp last ▸ fun same => absent (same ▸ member)⟩

end Template.Cache

namespace Lowering

variable {pass other : Pass}

private theorem closed_indifferent : Closed (fun _ => Indifferent) (fun _ => Indifferent) where
  pure _ _ _ alike := ⟨rfl, alike⟩
  bind := .bind
  result _ _ _ alike := ⟨rfl, alike⟩
  surroundings _ _ alike := ⟨congrArg Except.ok alike.frames, alike⟩
  template := .template
  fresh _ := .freshName _
  scope indifferent := indifferent.withFrame _
  method indifferent := indifferent.withFrame _
  cascade _ indifferent := indifferent.withFrame _
  ofGeneral := id
  bindInCascade := .bind
  receivers := .receivers true
  setReceivers := .setReceivers true

/-- A step that only adds templates, each of a text that was not compiled before. -/
def Accumulates (step : Lower α) : Prop :=
  ∀ pass, pass.templates.compiled <+: (step pass).2.templates.compiled ∧
    (pass.templates.Distinct → (step pass).2.templates.Distinct)

namespace Accumulates

/-- Steps that do not touch the templates. -/
theorem of_templates {step : Lower α} (kept : ∀ pass, (step pass).2.templates = pass.templates) :
    Accumulates step := by
  intro pass
  rw [kept]
  exact ⟨List.prefix_rfl, id⟩

theorem bind {first : Lower α} {next : α → Lower β} (accumulates : Accumulates first)
    (rest : ∀ a, Accumulates (next a)) : Accumulates (first >>= next) := by
  intro pass
  obtain ⟨grown, distinct⟩ := accumulates pass
  cases result : (first pass).1 with
  | error fault =>
    rw [Lower.bind_of_error result]
    exact ⟨grown, distinct⟩
  | ok a =>
    rw [Lower.bind_of_ok result]
    obtain ⟨grownAgain, distinctAgain⟩ := rest a (first pass).2
    exact ⟨grown.trans grownAgain, distinctAgain ∘ distinct⟩

theorem withFrame {step : Lower α} (accumulates : Accumulates step) (opening : Opening) :
    Accumulates (step.withFrame opening) := by
  intro pass
  rw [Lower.withFrame_snd]
  exact accumulates (pass.push opening)

theorem freshName (stem : String) : Accumulates (freshName stem) := by
  apply of_templates
  intro pass
  unfold Lowering.freshName
  cases hasScope pass.frames <;> rfl

theorem receivers : Accumulates (receivers true) := by
  apply of_templates
  intro pass
  rw [receivers_snd]

theorem setReceivers (names : List String) : Accumulates (setReceivers true names) := by
  apply of_templates
  intro pass
  rcases setReceivers_snd true names pass with same | same <;> simp [same]

end Accumulates

theorem closed_accumulates : Closed (fun _ => Accumulates) (fun _ => Accumulates) where
  pure _ := .of_templates fun _ => rfl
  bind := .bind
  result _ := .of_templates fun _ => rfl
  surroundings := .of_templates fun _ => rfl
  template source pass := ⟨pass.templates.prefix_get source, fun distinct => distinct.get source⟩
  fresh _ := .freshName _
  scope accumulates := accumulates.withFrame _
  method accumulates := accumulates.withFrame _
  cascade _ accumulates := accumulates.withFrame _
  ofGeneral := id
  bindInCascade := .bind
  receivers := .receivers
  setReceivers := .setReceivers

namespace Engine

private theorem outcome_congr {engine : Engine} (faithful : engine.templates.Faithful)
    (earlier others : List Script.Program) (program : Script.Program) :
    engine.outcome earlier program = engine.outcome others program := by
  have alike : Alike ((engine.after others).start program) ((engine.after earlier).start program) :=
    ⟨rfl, rfl, after_faithful faithful others, after_faithful faithful earlier⟩
  obtain ⟨same, later⟩ := closed_indifferent.program engine.vocabulary program _ _ alike
  rw [outcome_eq_settled, outcome_eq_settled, settled, settled, same, later.frames]

private theorem prefix_after (engine : Engine) (programs : List Script.Program) :
    engine.templates.compiled <+: (engine.after programs).templates.compiled := by
  induction programs generalizing engine with
  | nil => exact List.prefix_rfl
  | cons program programs ih =>
    have step := (closed_accumulates.program engine.vocabulary program (engine.start program)).1
    exact step.trans (ih (engine.lower program).2)

private theorem after_distinct {engine : Engine} (distinct : engine.templates.Distinct)
    (programs : List Script.Program) : (engine.after programs).templates.Distinct := by
  induction programs generalizing engine with
  | nil => exact distinct
  | cons program programs ih =>
    have step := (closed_accumulates.program engine.vocabulary program (engine.start program)).2
    exact ih (step distinct)

private theorem after_append (engine : Engine) (programs more : List Script.Program) :
    engine.after (programs ++ more) = (engine.after programs).after more :=
  List.foldl_append

/-- An engine has no memory that matters. Whatever it lowered before, and whether or not this went
well, it makes of a program what a fresh engine makes of it. The number of compiled templates never
goes down, each text counts once, and each template is what its text compiles to. -/
theorem history_unobservable (vocabulary : Target.Vocabulary) (earlier : List Script.Program) :
    (∀ program, (⟨vocabulary, {}⟩ : Engine).outcome earlier program =
      ((⟨vocabulary, {}⟩ : Engine).lower program).1) ∧
    (∀ more, ((⟨vocabulary, {}⟩ : Engine).after earlier).templates.size ≤
      ((⟨vocabulary, {}⟩ : Engine).after (earlier ++ more)).templates.size) ∧
    ((⟨vocabulary, {}⟩ : Engine).after earlier).templates.Distinct ∧
    ∀ template ∈ ((⟨vocabulary, {}⟩ : Engine).after earlier).templates.compiled,
      Template.compile template.source = .ok template := by
  refine ⟨fun program => ?_, fun more => ?_, ?_, ?_⟩
  · exact outcome_congr .empty earlier [] program
  · rw [after_append]
    exact (prefix_after _ more).length_le
  · exact after_distinct .empty earlier
  · exact after_faithful .empty earlier

end Engine

end Lowering

end Offside
