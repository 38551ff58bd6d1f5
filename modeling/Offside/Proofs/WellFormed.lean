import Offside.Proofs.Nodes

/-! Scripts that can be lowered, told from the tree alone. The conditions are about single nodes and the
places they stand in; nothing here refers to lowering. -/

namespace Offside.Script

namespace Stmt

def isExpression : Stmt → Bool
  | expression .. => true
  | _ => false

/-- Whether a statement stands for more than one statement of the target. -/
def Several : Stmt → Prop
  | declaring _ declarators =>
    ∃ first ∈ declarators, ∃ second ∈ declarators, first.constant ≠ second.constant
  | cascade _ _ steps _ => steps ≠ []
  | _ => False

end Stmt

/-- The steps of a cascade and their degrees. The depth grows by one at a time, and only below an
expression. -/
structure DegreesFit (steps : List Stmt) (degrees : List Nat) : Prop where
  count : degrees.length = steps.length
  first : ∀ degree, degrees.head? = some degree → degree = 1
  positive : ∀ degree ∈ degrees, 1 ≤ degree
  rise : ∀ i degree next,
    degrees[i]? = some degree → degrees[i + 1]? = some next → next ≤ degree + 1
  received : ∀ i degree, degrees[i]? = some degree → degrees[i + 1]? = some (degree + 1) →
    ∃ loc value, steps[i]? = some (.expression loc value)

/-- The conditions under which a program can be lowered. -/
structure Program.WellFormed (program : Program) : Prop where
  chains : ∀ place role loc operands operators,
    .expr place role (.compareChain loc operands operators) ∈ program.nodes →
      operators ≠ [] ∧ operands.length = operators.length + 1 ∧ .floorDiv ∉ operators
  cascades : ∀ alone loc root steps degrees,
    .stmt alone (.cascade loc root steps degrees) ∈ program.nodes → DegreesFit steps degrees
  /-- A virtual object needs a cascade around it, and the root of a cascade is not inside it. -/
  virtuals : ∀ place role loc,
    .expr place role (.virtualObject loc) ∈ program.nodes → place.inStep = true
  declarations : ∀ alone loc declarators,
    .stmt alone (.declaring loc declarators) ∈ program.nodes → declarators ≠ []
  /-- Where a function does not say whether it is bound, it is, but for the definition of a method. -/
  functions : ∀ place loc params body bound generator async,
    .function place (.mk loc params body bound generator async) ∈ program.nodes →
      ¬(bound.getD (!place.inMethod) = true ∧ generator = true ∧ async = true)
  singles : ∀ stmt, .stmt true stmt ∈ program.nodes → ¬stmt.Several

/-- What well-formedness asks of one node. -/
def Node.Sound : Node → Prop
  | expr _ _ (.compareChain _ operands operators) =>
    operators ≠ [] ∧ operands.length = operators.length + 1 ∧ .floorDiv ∉ operators
  | expr place _ (.virtualObject _) => place.inStep = true
  | function place (.mk _ _ _ bound generator async) =>
    ¬(bound.getD (!place.inMethod) = true ∧ generator = true ∧ async = true)
  | stmt alone (.declaring loc declarators) =>
    declarators ≠ [] ∧ (alone = true → ¬(Stmt.declaring loc declarators).Several)
  | stmt alone (.cascade loc root steps degrees) =>
    DegreesFit steps degrees ∧ (alone = true → ¬(Stmt.cascade loc root steps degrees).Several)
  | _ => True

def Sound (nodes : List Node) : Prop := ∀ node ∈ nodes, node.Sound

@[simp] theorem sound_nil : Sound [] := by simp [Sound]

@[simp] theorem sound_cons (node : Node) (nodes : List Node) :
    Sound (node :: nodes) ↔ node.Sound ∧ Sound nodes := by
  simp [Sound]

@[simp] theorem sound_append (before after : List Node) :
    Sound (before ++ after) ↔ Sound before ∧ Sound after := by
  simp [Sound, or_imp, forall_and]

theorem Program.WellFormed.sound {program : Program} (formed : program.WellFormed) :
    Sound program.nodes := by
  intro node member
  cases node with
  | expr place role node =>
    cases node with
    | compareChain => exact formed.chains _ _ _ _ _ member
    | virtualObject => exact formed.virtuals _ _ _ member
    | _ => trivial
  | function place node =>
    cases node with
    | mk => exact formed.functions _ _ _ _ _ _ _ member
  | stmt alone node =>
    cases node with
    | declaring =>
      exact ⟨formed.declarations _ _ _ member, fun single => formed.singles _ (single ▸ member)⟩
    | cascade =>
      exact ⟨formed.cascades _ _ _ _ _ member, fun single => formed.singles _ (single ▸ member)⟩
    | _ => trivial
  | _ => trivial

theorem Program.wellFormed_iff (program : Program) : program.WellFormed ↔ Sound program.nodes := by
  refine ⟨fun formed => formed.sound, fun sound => ?_⟩
  refine ⟨fun _ _ _ _ _ member => sound _ member, fun _ _ _ _ _ member => (sound _ member).1,
    fun _ _ _ member => sound _ member, fun _ _ _ member => (sound _ member).1,
    fun _ _ _ _ _ _ _ member => sound _ member, fun stmt member => ?_⟩
  cases stmt with
  | declaring => exact (sound _ member).2 rfl
  | cascade => exact (sound _ member).2 rfl
  | _ => exact id

/-- Where a statement stands alone, it must not stand for several; nothing else differs. -/
theorem sound_alone (place : Place) (stmt : Stmt) :
    Sound (stmt.nodes place true) ↔ Sound (stmt.nodes place false) ∧ ¬stmt.Several := by
  have here : (Node.stmt true stmt).Sound ↔ (Node.stmt false stmt).Sound ∧ ¬stmt.Several := by
    cases stmt <;> simp [Node.Sound, Stmt.Several]
  rw [Stmt.nodes.eq_def place true, Stmt.nodes.eq_def place false, sound_cons, sound_cons, here,
    and_right_comm]

/-- What a run over the steps checks, with `depth` receivers at hand. -/
def StepsFit (depth : Nat) : List Nat → List Stmt → Prop
  | degree :: degrees, step :: steps =>
    (1 ≤ degree ∧ degree ≤ depth) ∧
      (degrees.head?.getD 0 ≤ degree ∧ StepsFit degree degrees steps ∨
        degrees.head?.getD 0 = degree + 1 ∧ step.isExpression = true ∧
          StepsFit (degree + 1) degrees steps)
  | _, _ => True

private theorem rise_cons {degree : Nat} {degrees : List Nat} :
    (∀ i here next, (degree :: degrees)[i]? = some here → (degree :: degrees)[i + 1]? = some next →
        next ≤ here + 1) ↔
      (∀ next, degrees.head? = some next → next ≤ degree + 1) ∧
        ∀ i here next, degrees[i]? = some here → degrees[i + 1]? = some next → next ≤ here + 1 := by
  constructor
  · intro rise
    refine ⟨fun next head => rise 0 degree next rfl ?_, fun i here next => rise (i + 1) here next⟩
    simpa [List.head?_eq_getElem?] using head
  · rintro ⟨head, tail⟩ (_ | i) here next atHere atNext
    · cases atHere
      exact head next (by simpa [List.head?_eq_getElem?] using atNext)
    · exact tail i here next atHere atNext

private theorem received_cons {degree : Nat} {degrees : List Nat} {step : Stmt}
    {steps : List Stmt} :
    (∀ i here, (degree :: degrees)[i]? = some here →
        (degree :: degrees)[i + 1]? = some (here + 1) →
        ∃ loc value, (step :: steps)[i]? = some (.expression loc value)) ↔
      (degrees.head? = some (degree + 1) → step.isExpression = true) ∧
        ∀ i here, degrees[i]? = some here → degrees[i + 1]? = some (here + 1) →
          ∃ loc value, steps[i]? = some (.expression loc value) := by
  constructor
  · intro received
    refine ⟨fun head => ?_, fun i here => received (i + 1) here⟩
    obtain ⟨loc, value, same⟩ :=
      received 0 degree rfl (by simpa [List.head?_eq_getElem?] using head)
    cases same
    rfl
  · rintro ⟨head, tail⟩ (_ | i) here atHere atNext
    · cases atHere
      have expression := head (by simpa [List.head?_eq_getElem?] using atNext)
      cases step with
      | expression loc value => exact ⟨loc, value, rfl⟩
      | _ => simp [Stmt.isExpression] at expression
    · exact tail i here atHere atNext

private theorem stepsFit_iff {depth : Nat} {degrees : List Nat} {steps : List Stmt}
    (count : degrees.length = steps.length) :
    StepsFit depth degrees steps ↔
      (∀ degree, degrees.head? = some degree → degree ≤ depth) ∧
        (∀ degree ∈ degrees, 1 ≤ degree) ∧
        (∀ i degree next,
          degrees[i]? = some degree → degrees[i + 1]? = some next → next ≤ degree + 1) ∧
        ∀ i degree, degrees[i]? = some degree → degrees[i + 1]? = some (degree + 1) →
          ∃ loc value, steps[i]? = some (.expression loc value) := by
  induction degrees generalizing depth steps with
  | nil => simp [StepsFit]
  | cons degree degrees ih =>
    cases steps with
    | nil => simp at count
    | cons step steps =>
      have count : degrees.length = steps.length := by simpa using count
      rw [StepsFit, ih count, ih count, rise_cons, received_cons]
      cases degrees with
      | nil => simp; omega
      | cons next degrees =>
        simp only [List.head?_cons, Option.getD_some, Option.some.injEq, forall_eq',
          List.mem_cons, forall_eq_or_imp]
        constructor
        · rintro ⟨⟨low, high⟩, ⟨flat, _, positive, rise, received⟩ |
            ⟨deeper, expression, _, positive, rise, received⟩⟩
          · exact ⟨high, ⟨low, positive⟩, ⟨by omega, rise⟩, by omega, received⟩
          · exact ⟨high, ⟨low, positive⟩, ⟨by omega, rise⟩, fun _ => expression, received⟩
        · rintro ⟨high, ⟨low, positive⟩, ⟨step, rise⟩, expression, received⟩
          by_cases flat : next ≤ degree
          · exact ⟨⟨low, high⟩, .inl ⟨flat, flat, positive, rise, received⟩⟩
          · have deeper : next = degree + 1 := by omega
            exact ⟨⟨low, high⟩, .inr ⟨deeper, expression deeper, step, positive, rise, received⟩⟩

/-- A run that starts with the root as the only receiver checks exactly that the degrees fit. -/
theorem degreesFit_iff (steps : List Stmt) (degrees : List Nat) :
    DegreesFit steps degrees ↔ degrees.length = steps.length ∧ StepsFit 1 degrees steps := by
  constructor
  · intro fit
    refine ⟨fit.count, (stepsFit_iff fit.count).mpr ?_⟩
    exact ⟨fun degree head => Nat.le_of_eq (fit.first degree head), fit.positive, fit.rise, fit.received⟩
  · rintro ⟨count, fit⟩
    obtain ⟨first, positive, rise, received⟩ := (stepsFit_iff count).mp fit
    refine ⟨count, fun degree head => ?_, positive, rise, received⟩
    have low := positive degree (List.mem_of_mem_head? head)
    have high := first degree head
    omega

end Offside.Script
