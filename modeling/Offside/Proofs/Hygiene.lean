import Offside.Proofs.PassInvariant
import Offside.Proofs.Nodes

/-! Names made up one after the other. They differ from one another and from those reserved before, and
those of one stem have the smallest numbers that are free, in order. Lowering makes up names in this way,
whatever the engine and also where it fails. -/

namespace Offside.Lowering

/-- Reserved names gain names made up one after the other, each with one of the stems. -/
inductive Supplied : List String → List String → List String → Prop where
  | none : Supplied reserved [] reserved
  | next (known : stem ∈ stems)
      (rest : Supplied (freeName stem reserved :: reserved) minted later) :
      Supplied reserved (freeName stem reserved :: minted) later

/-- The numbers of a list are the smallest ones with a property, in order. -/
structure Smallest (property : Nat → Prop) (numbers : List Nat) : Prop where
  increasing : numbers.Pairwise (· < ·)
  holds : ∀ n ∈ numbers, property n
  least : ∀ n, property n → n ∈ numbers ∨ ∀ m ∈ numbers, m < n

namespace Supplied

theorem trans (first : Supplied reserved minted middle) (second : Supplied middle more later) :
    Supplied reserved (minted ++ more) later := by
  induction first with
  | none => exact second
  | next known _ ih => exact .next known (ih second)

theorem later_eq (supplied : Supplied reserved minted later) : later = minted.reverse ++ reserved := by
  induction supplied with
  | none => rfl
  | next _ _ ih => simp [ih]

theorem fresh (supplied : Supplied reserved minted later) : ∀ name ∈ minted, name ∉ reserved := by
  induction supplied with
  | none => simp
  | @next stem reserved _ _ _ _ ih =>
    intro name member
    rcases List.mem_cons.mp member with rfl | member
    · exact freeName_not_mem stem reserved
    · exact fun old => ih name member (List.mem_cons_of_mem _ old)

theorem nodup (supplied : Supplied reserved minted later) : minted.Nodup := by
  induction supplied with
  | none => exact List.nodup_nil
  | next _ rest ih =>
    refine List.nodup_cons.mpr ⟨fun repeated => ?_, ih⟩
    exact rest.fresh _ repeated (List.mem_cons_self ..)

theorem stem_known (supplied : Supplied reserved minted later) :
    ∀ name ∈ minted, ∃ stem ∈ stems, hasStem stem name = true := by
  induction supplied with
  | none => simp
  | @next stem reserved _ _ known _ ih =>
    intro name member
    rcases List.mem_cons.mp member with rfl | member
    · obtain ⟨n, made, _⟩ := freeName_spec stem reserved
      exact ⟨stem, known, by simp [made]⟩
    · exact ih name member

end Supplied

/-- Taking the least number with a property leaves the others to be taken in order. -/
theorem Smallest.cons {property later : Nat → Prop} (holds : property n)
    (least : ∀ m, property m → n ≤ m) (taken : ∀ m, later m ↔ property m ∧ m ≠ n)
    (rest : Smallest later numbers) : Smallest property (n :: numbers) where
  increasing := by
    refine List.pairwise_cons.mpr ⟨fun m member => ?_, rest.increasing⟩
    have other := (taken m).mp (rest.holds m member)
    have := least m other.1
    have := other.2
    omega
  holds m member := by
    rcases List.mem_cons.mp member with rfl | member
    · exact holds
    · exact ((taken m).mp (rest.holds m member)).1
  least m free := by
    by_cases same : m = n
    · exact .inl (same ▸ List.mem_cons_self ..)
    · rcases rest.least m ((taken m).mpr ⟨free, same⟩) with member | above
      · exact .inl (List.mem_cons_of_mem _ member)
      · refine .inr fun k member => ?_
        rcases List.mem_cons.mp member with rfl | member
        · have := least m free
          omega
        · exact above k member

private theorem free_cons_same (stem : String) (reserved : List String) (n m : Nat) :
    Free stem (candidate stem n :: reserved) m ↔ Free stem reserved m ∧ m ≠ n := by
  simp only [Free, List.mem_cons, not_or, (candidate_injective stem).eq_iff]
  tauto

private theorem free_cons_other {stem other : String} (known : stem ∈ stems)
    (otherKnown : other ∈ stems)
    (different : stem ≠ other) (reserved : List String) (n : Nat) :
    Free stem (candidate other n :: reserved) = Free stem reserved := by
  funext m
  have apart : candidate stem m ≠ candidate other n := by
    intro same
    have stemOf := hasStem_candidate stem m
    rw [same, hasStem_candidate_ne known otherKnown different] at stemOf
    exact Bool.false_ne_true stemOf
  simp [Free, apart]

/-- The names of one stem carry the smallest free numbers, in order. -/
theorem Supplied.smallest (supplied : Supplied reserved minted later) (known : stem ∈ stems) :
    ∃ numbers : List Nat, minted.filter (hasStem stem) = numbers.map (candidate stem) ∧
      Smallest (Free stem reserved) numbers := by
  induction supplied with
  | none => exact ⟨[], rfl, by simp, by simp, by simp⟩
  | @next other reserved minted _ otherKnown _ ih =>
    obtain ⟨numbers, names, smallest⟩ := ih
    obtain ⟨n, made, free, least⟩ := freeName_spec other reserved
    rw [made] at smallest ⊢
    by_cases same : stem = other
    · subst other
      refine ⟨n :: numbers, by simp [names], ?_⟩
      exact .cons free least (free_cons_same stem reserved n) smallest
    · rw [free_cons_other known otherKnown same] at smallest
      exact ⟨numbers, by simp [names, hasStem_candidate_ne known otherKnown same], smallest⟩

/-- A step after which the reserved names are those before it and the names made up meanwhile. -/
def Supplies (step : Lower α) : Prop :=
  ∀ pass, ∃ minted, Supplied pass.reserved minted (step pass).2.reserved

theorem Supplies.bind {first : Lower α} {next : α → Lower β} (supplies : Supplies first)
    (rest : ∀ a, Supplies (next a)) : Supplies (first >>= next) := by
  intro pass
  obtain ⟨minted, before⟩ := supplies pass
  rw [Lower.bind_apply]
  revert before
  rcases first pass with ⟨_ | a, middle⟩
  · exact fun before => ⟨minted, before⟩
  · intro before
    obtain ⟨more, after⟩ := rest a middle
    exact ⟨minted ++ more, before.trans after⟩

theorem Supplies.withFrame {step : Lower α} (supplies : Supplies step) (opening : Opening) :
    Supplies (step.withFrame opening) := by
  intro pass
  rw [Lower.withFrame_snd]
  exact supplies (pass.push opening)

private theorem supplies_freshName (known : stem ∈ stems) : Supplies (freshName stem) := by
  intro pass
  unfold freshName
  cases hasScope pass.frames
  · exact ⟨[], .none⟩
  · exact ⟨[_], .next known .none⟩

private theorem closed_supplies : Closed (fun _ => Supplies) (fun _ => Supplies) where
  pure a pass := ⟨[], .none⟩
  bind := .bind
  result result pass := ⟨[], .none⟩
  surroundings pass := ⟨[], .none⟩
  template source pass := ⟨[], .none⟩
  fresh := supplies_freshName
  scope supplies := supplies.withFrame _
  method supplies := supplies.withFrame _
  cascade name supplies := supplies.withFrame _
  ofGeneral := id
  bindInCascade := .bind
  receivers pass := by
    rw [receivers_snd]
    exact ⟨[], .none⟩
  setReceivers names pass := by
    rcases setReceivers_snd true names pass with same | same <;> rw [same] <;>
      exact ⟨[], .none⟩

namespace Engine

/-- The pass after an engine lowered a program. -/
def finish (engine : Engine) (program : Script.Program) : Pass :=
  (lowerProgram engine.vocabulary program (engine.start program)).2

/-- The names made up while a program was lowered, in order. They are what the reserved names, of
which the latest comes first, gained. -/
def minted (engine : Engine) (program : Script.Program) : List String :=
  ((engine.finish program).reserved.take
    ((engine.finish program).reserved.length - (engine.start program).reserved.length)).reverse

theorem supplied_minted (engine : Engine) (program : Script.Program) :
    Supplied (engine.start program).reserved (engine.minted program)
      (engine.finish program).reserved := by
  obtain ⟨minted, supplied⟩ :=
    closed_supplies.program engine.vocabulary program (engine.start program)
  have same : engine.minted program = minted := by
    have gained : (engine.finish program).reserved =
        minted.reverse ++ (engine.start program).reserved := supplied.later_eq
    simp [Engine.minted, gained]
  rw [same]
  exact supplied

theorem mem_start_reserved (engine : Engine) (program : Script.Program) (name : String) :
    name ∈ (engine.start program).reserved ↔ name ∈ program.identifiers := by
  simp [start, program.identifiers_eq_names]

end Engine

end Offside.Lowering
