import Mathlib.Data.List.Basic
import Offside.Proofs.Evaluation

/-! Computations that agree but for temporaries. Temporaries are variables of which only one side knows;
what it stores there changes nothing for the other, and what it stored there last is what it reads. -/

namespace Offside

variable {Value α β : Type}

/-- Two worlds that differ only in temporaries. -/
structure Agrees (temporaries : List String) (source target : World Value) : Prop where
  store : ∀ name, name ∉ temporaries → target.store name = source.store name
  accesses : source.accesses = target.accesses.filter fun access => access.name ∉ temporaries

/-- From worlds that agree, both computations give the same value, and worlds that agree. -/
def Simulates (temporaries : List String) (source target : Eval Value α) : Prop :=
  ∀ before beforeTarget, Agrees temporaries before beforeTarget →
    ∃ value after afterTarget, source before = some (value, after) ∧
      target beforeTarget = some (value, afterTarget) ∧ Agrees temporaries after afterTarget

theorem Eval.bind_of_eq_some {first : Eval Value α} {next : α → Eval Value β}
    (ran : first world = some (value, after)) : (first >>= next) world = next value after := by
  simp [bind, StateT.bind, ran]

namespace Simulates

variable {temporaries : List String} {source target : Eval Value α}

theorem pure (value : α) : Simulates temporaries (pure value : Eval Value α) (pure value) :=
  fun before beforeTarget agrees => ⟨value, before, beforeTarget, rfl, rfl, agrees⟩

theorem bind {next nextTarget : α → Eval Value β} (first : Simulates temporaries source target)
    (rest : ∀ value, Simulates temporaries (next value) (nextTarget value)) :
    Simulates temporaries (source >>= next) (target >>= nextTarget) := by
  intro before beforeTarget agrees
  obtain ⟨value, middle, middleTarget, ran, ranTarget, agrees⟩ := first before beforeTarget agrees
  rw [Eval.bind_of_eq_some ran, Eval.bind_of_eq_some ranTarget]
  exact rest value middle middleTarget agrees

theorem map (simulates : Simulates temporaries source target) (f : α → β) :
    Simulates temporaries (do return f (← source)) (do return f (← target)) :=
  simulates.bind fun value => pure (f value)

theorem ite {other otherTarget : Eval Value α} (condition : Bool)
    (positive : Simulates temporaries source target)
    (negative : Simulates temporaries other otherTarget) :
    Simulates temporaries (if condition then source else other)
      (if condition then target else otherTarget) := by
  cases condition
  · exact negative
  · exact positive

theorem read (apart : name ∉ temporaries) :
    Simulates temporaries (Eval.read name : Eval Value Value) (Eval.read name) := by
  intro before beforeTarget agrees
  have ranTarget : Eval.read name beforeTarget = some (before.store name,
      ⟨beforeTarget.store, beforeTarget.accesses ++ [.read name (before.store name)]⟩) := by
    rw [Eval.read, agrees.store name apart]
  refine ⟨before.store name, _, _, rfl, ranTarget, agrees.store, ?_⟩
  simp [agrees.accesses, apart, Access.name]

theorem write (apart : name ∉ temporaries) (value : Value) :
    Simulates temporaries (Eval.write name value) (Eval.write name value) := by
  intro before beforeTarget agrees
  refine ⟨(), _, _, rfl, rfl, fun other otherApart => ?_, ?_⟩
  · by_cases same : other = name
    · simp [same]
    · simp [same, agrees.store other otherApart]
  · simp [agrees.accesses, apart, Access.name]

theorem assign {source target : Eval Value Value} (apart : name ∉ temporaries)
    (right : Simulates temporaries source target) :
    Simulates temporaries (Eval.assign name source) (Eval.assign name target) :=
  right.bind fun value => (write apart value).bind fun _ => pure value

theorem updated {source target : Eval Value Value} (update : Value → Value → Value)
    (apart : name ∉ temporaries) (right : Simulates temporaries source target) :
    Simulates temporaries (Eval.updated update name source) (Eval.updated update name target) :=
  (read apart).bind fun old => assign apart (right.map (update old))

theorem logical {left leftTarget right rightTarget : Eval Value Value} (truthy : Value → Bool)
    (op : LogicalOp) (first : Simulates temporaries left leftTarget)
    (second : Simulates temporaries right rightTarget) :
    Simulates temporaries (Eval.logical truthy op left right)
      (Eval.logical truthy op leftTarget rightTarget) := by
  refine first.bind fun value => ?_
  cases op with
  | and => exact ite _ second (pure value)
  | or => exact ite _ (pure value) second

theorem conditional {test testTarget consequent consequentTarget alternate alternateTarget :
      Eval Value Value} (truthy : Value → Bool) (tests : Simulates temporaries test testTarget)
    (positive : Simulates temporaries consequent consequentTarget)
    (negative : Simulates temporaries alternate alternateTarget) :
    Simulates temporaries (Eval.conditional truthy test consequent alternate)
      (Eval.conditional truthy testTarget consequentTarget alternateTarget) :=
  tests.bind fun _ => ite _ positive negative

/-- What is stored under a temporary does not matter. -/
private theorem afterWrite (temporary : name ∈ temporaries) (value : Value)
    (simulates : Simulates temporaries source target) :
    Simulates temporaries source (Eval.write name value >>= fun _ => target) := by
  intro before beforeTarget agrees
  refine simulates before _ ⟨fun other apart => ?_, ?_⟩
  · have different : other ≠ name := fun same => apart (same ▸ temporary)
    simp [different, agrees.store other apart]
  · simp [agrees.accesses, temporary, Access.name]

/-- What was just stored under a temporary is what is read from it. -/
private theorem afterReload (temporary : name ∈ temporaries) (value : Value)
    {next : Value → Eval Value α} (simulates : Simulates temporaries source (next value)) :
    Simulates temporaries source
      (Eval.write name value >>= fun _ => Eval.read name >>= next) := by
  intro before beforeTarget agrees
  have stored : (Eval.write name value >>= fun _ => Eval.read name >>= next) beforeTarget =
      next value ⟨Function.update beforeTarget.store name value,
        beforeTarget.accesses ++ [.write name value] ++ [.read name value]⟩ := by
    rw [Eval.bind_of_eq_some (by rfl), Eval.bind_of_eq_some (by rfl)]
    simp
  rw [stored]
  refine simulates before _ ⟨fun other apart => ?_, ?_⟩
  · have different : other ≠ name := fun same => apart (same ▸ temporary)
    simp [different, agrees.store other apart]
  · simp [agrees.accesses, temporary, Access.name]

end Simulates

/-- Evaluates what comes after a chain of comparisons, unless the chain is false. -/
def guarded (meaning : Meaning Value) (chain : Option Target.Expr) (link : Eval Value Value) :
    Eval Value Value :=
  chain.elim link fun chain => Eval.logical meaning.truthy .and (chain.eval meaning) link

/-- A chain is evaluated from the left, whichever way it is bracketed. -/
theorem logical_and_guarded (meaning : Meaning Value) (chain : Option Target.Expr)
    (link rest : Eval Value Value) :
    Eval.logical meaning.truthy .and (guarded meaning chain link) rest =
      guarded meaning chain (Eval.logical meaning.truthy .and link rest) := by
  cases chain with
  | none => rfl
  | some chain =>
    simp only [guarded, Option.elim_some, Eval.logical, bind_assoc]
    congr 1
    funext value
    by_cases truth : meaning.truthy value = true
    · simp [truth]
    · simp [truth]

/-- A comparison with an operand that is stored under a name, and read again for the next one. -/
def storedLink (truthy : Value → Bool) (compare : Value → Value → Value) (name : String)
    (operand : Eval Value Value) (next : Value → Eval Value Value) (left : Value) :
    Eval Value Value := do
  let right ← Eval.assign name operand
  if truthy (compare left right) then Eval.read name >>= next else return compare left right

theorem logical_and_storedLink (truthy : Value → Bool) (compare : Value → Value → Value)
    (name : String) (left operand : Eval Value Value) (next : Value → Eval Value Value) :
    Eval.logical truthy .and
        (left >>= fun l => do return compare l (← Eval.assign name operand))
        (Eval.read name >>= next) =
      left >>= storedLink truthy compare name operand next := by
  simp only [Eval.logical, bind_assoc, pure_bind]
  rfl

/-- The operand of a link is evaluated once and compared twice. -/
theorem Simulates.storedLink {temporaries : List String} (temporary : name ∈ temporaries)
    (meaning : Meaning Value) (op next : Script.BinaryOp) (operators : List Script.BinaryOp)
    {operand : Script.Expr} {operands : List Script.Expr} {target : Eval Value Value}
    {tail : Value → Eval Value Value} (left : Value)
    (copies : Simulates temporaries (operand.eval meaning) target)
    (rest : ∀ value,
      Simulates temporaries (Script.evalChain meaning value (next :: operators) operands) (tail value)) :
    Simulates temporaries
      (Script.evalChain meaning left (op :: next :: operators) (operand :: operands))
      (storedLink meaning.truthy (meaning.script op) name target tail left) := by
  simp only [Script.evalChain, Offside.storedLink, Eval.assign, bind_assoc, pure_bind]
  refine copies.bind fun right => ?_
  by_cases holds : meaning.truthy (meaning.script op left right) = true
  · simpa [holds] using afterReload temporary right (rest right)
  · simpa [holds] using afterWrite temporary right (pure (meaning.script op left right))

end Offside
