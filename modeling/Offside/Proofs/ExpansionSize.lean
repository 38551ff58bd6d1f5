import Offside.Proofs.PassInvariant
import Offside.Proofs.WellFormed

/-! How many statements of the target a statement becomes. Every statement becomes at least one, and
which statements become several is told from the tree. -/

namespace Offside

theorem Expansion.normalize_eq_single {expansion : Expansion α} :
    expansion.normalize = .single item ↔ expansion.toList = [item] := by
  match expansion with
  | .single _ | .spread [] | .spread [_] | .spread (_ :: _ :: _) =>
    simp [Expansion.normalize, Expansion.toList]

namespace Lowering

/-- Whatever a step gives has a shape. -/
def Yields (shape : α → Prop) (step : Lower α) : Prop :=
  ∀ pass a later, step pass = (.ok a, later) → shape a

namespace Yields

theorem pure {shape : α → Prop} (shaped : shape a) : Yields shape (pure a) := by
  intro pass b later ran
  cases ran
  exact shaped

theorem mono {shape wider : α → Prop} {step : Lower α} (yields : Yields shape step)
    (implies : ∀ a, shape a → wider a) : Yields wider step :=
  fun pass a later ran => implies a (yields pass a later ran)

theorem fail {shape : α → Prop} (fault : Fault) : Yields shape (.fail fault) := by
  intro pass b later ran
  cases ran

theorem bindOn {before : α → Prop} {shape : β → Prop} {first : Lower α} {next : α → Lower β}
    (yields : Yields before first) (rest : ∀ a, before a → Yields shape (next a)) :
    Yields shape (first >>= next) := by
  intro pass b later ran
  obtain ⟨a, middle, ranFirst, continued⟩ := Lower.bind_eq_ok.mp ran
  exact rest a (yields pass a middle ranFirst) middle b later continued

theorem bind {shape : β → Prop} {first : Lower α} {next : α → Lower β}
    (rest : ∀ a, Yields shape (next a)) : Yields shape (first >>= next) :=
  have any : Yields (fun _ => True) first := fun _ _ _ _ => trivial
  any.bindOn fun a _ => rest a

theorem withFrame {shape : α → Prop} {step : Lower α} (yields : Yields shape step) :
    Yields (fun result => shape result.1) (step.withFrame opening) := by
  intro pass result later ran
  obtain ⟨inner, ran, -, -⟩ := Lower.withFrame_eq_ok.mp ran
  exact yields _ _ _ ran

end Yields

section

variable (vocabulary : Target.Vocabulary)

/-- Runs of variables: one run if they are all constant or none is, else more. -/
private theorem yields_runs (loc : Option Location) (constant : Bool) (run : List Target.Declarator)
    (declarators : List Script.Declarator) :
    Yields
      (fun stmts => 0 < stmts.length ∧
        (1 < stmts.length ↔ ∃ other ∈ declarators, other.constant ≠ constant))
      (lowerRuns vocabulary loc constant run declarators) := by
  induction declarators generalizing constant run with
  | nil =>
    rw [lowerRuns]
    exact .bind fun _ => .pure (by simp)
  | cons next declarators ih =>
    rw [lowerRuns]
    split
    next same =>
      have same : next.constant = constant := by simpa using same
      exact .bind fun _ => by simpa [same] using ih constant _
    next other =>
      have other : next.constant ≠ constant := by simpa using other
      refine .bind fun _ => .bind fun _ => (ih next.constant _).bindOn fun rest sized => .pure ?_
      simpa [other] using sized.1

/-- Not a declaration of variables and not a cascade. -/
theorem yields_single (stmt : Script.Stmt)
    (notDeclaring : ∀ loc declarators, stmt ≠ .declaring loc declarators)
    (notCascade : ∀ loc root steps degrees, stmt ≠ .cascade loc root steps degrees) :
    Yields (fun expansion => ∃ item, expansion = .single item) (lowerStmt vocabulary stmt) := by
  cases stmt with
  | declaring => exact absurd rfl (notDeclaring _ _)
  | cascade => exact absurd rfl (notCascade _ _ _ _)
  | empty | breaking | continuing =>
    rw [lowerStmt]
    exact .bind fun _ => .pure ⟨_, rfl⟩
  | expression | block | returning | throwing =>
    rw [lowerStmt]
    exact .bind fun _ => .bind fun _ => .pure ⟨_, rfl⟩
  | whileLoop | doWhile | yielding =>
    rw [lowerStmt]
    exact .bind fun _ => .bind fun _ => .bind fun _ => .pure ⟨_, rfl⟩
  | forIn | forOf | trying | function | assignment =>
    rw [lowerStmt]
    exact .bind fun _ => .bind fun _ => .bind fun _ => .bind fun _ => .pure ⟨_, rfl⟩
  | ifElse _ _ _ alternate =>
    cases alternate with
    | none =>
      rw [lowerStmt]
      exact .bind fun _ => .bind fun _ => .bind fun _ => .pure ⟨_, rfl⟩
    | some _ =>
      rw [lowerStmt]
      exact .bind fun _ => .bind fun _ => .bind fun _ => .bind fun _ => .pure ⟨_, rfl⟩

/-- How many statements a statement may become. -/
def Sized (stmt : Script.Stmt) (expansion : Expansion Target.Stmt) : Prop :=
  0 < expansion.toList.length ∧ (1 < expansion.toList.length ↔ stmt.Several)

theorem yields_declaring (loc : Option Location) (declarators : List Script.Declarator) :
    Yields (Sized (.declaring loc declarators))
      (lowerStmt vocabulary (.declaring loc declarators)) := by
  cases declarators with
  | nil => exact .fail _
  | cons first declarators =>
    rw [lowerStmt]
    refine (yields_runs vocabulary loc first.constant [] (first :: declarators)).bindOn ?_
    rintro stmts ⟨positive, more⟩
    refine .pure ?_
    rw [Sized, Expansion.toList_normalize, Expansion.toList, more, Script.Stmt.Several]
    refine ⟨positive, ?_⟩
    constructor
    · rintro ⟨other, member, differs⟩
      exact ⟨other, member, first, by simp, differs⟩
    · rintro ⟨one, memberOne, two, memberTwo, differ⟩
      by_cases same : one.constant = first.constant
      · exact ⟨two, memberTwo, fun also => differ (same.trans also.symm)⟩
      · exact ⟨one, memberOne, same⟩

private theorem yields_nonempty (stmt : Script.Stmt) :
    Yields (0 < ·.toList.length) (lowerStmt vocabulary stmt) := by
  cases stmt with
  | declaring loc declarators =>
    exact (yields_declaring vocabulary loc declarators).mono fun _ sized => sized.1
  | cascade loc root steps degrees =>
    rw [lowerStmt]
    split
    · exact .fail _
    · exact .bind fun _ => .bind fun _ => .bind fun _ => .bind fun _ => .pure (by
        simp [Expansion.toList])
  | _ =>
    refine (yields_single vocabulary _ (by simp) (by simp)).mono ?_
    rintro _ ⟨item, rfl⟩
    exact Nat.one_pos

/-- The steps become nothing only if there are none. -/
private theorem yields_steps (loc : Option Location) {degrees : List Nat} {steps : List Script.Stmt}
    (count : steps.length = degrees.length) :
    Yields (fun stmts => 0 < stmts.length ↔ steps ≠ [])
      (lowerSteps vocabulary true loc degrees steps) := by
  match steps, degrees with
  | [], _ => exact .pure (by simp)
  | step :: steps, degree :: degrees =>
    rw [lowerSteps_cons]
    refine .bind fun held => ?_
    split
    · exact .fail _
    · refine .bind fun _ => ?_
      split
      · refine (yields_nonempty vocabulary step).bindOn fun lowered positive => ?_
        exact .bind fun rest => .pure (by simp; omega)
      · split
        · exact .fail _
        · exact .bind fun _ => .bind fun _ => .pure (by simp)

private theorem yields_cascade (loc : Option Location) (root : Script.Expr)
    (steps : List Script.Stmt)
    (degrees : List Nat) :
    Yields (Sized (.cascade loc root steps degrees))
      (lowerStmt vocabulary (.cascade loc root steps degrees)) := by
  rw [lowerStmt]
  split
  · exact .fail _
  next count =>
    have count : steps.length = degrees.length := by simpa using count
    refine .bind fun name => .bind fun value => .bind fun first => ?_
    refine (yields_steps vocabulary loc count).withFrame.bindOn ?_
    rintro ⟨rest, frame⟩ sized
    refine .pure ⟨by simp [Expansion.toList], ?_⟩
    simpa [Expansion.toList, Script.Stmt.Several] using sized

theorem yields_sized (stmt : Script.Stmt) : Yields (Sized stmt) (lowerStmt vocabulary stmt) := by
  cases stmt with
  | declaring => exact yields_declaring vocabulary _ _
  | cascade => exact yields_cascade vocabulary _ _ _ _
  | _ =>
    refine (yields_single vocabulary _ (by simp) (by simp)).mono ?_
    rintro _ ⟨item, rfl⟩
    simp [Sized, Expansion.toList, Script.Stmt.Several]

end

/-- A statement may stand alone if it does not become several. -/
theorem Sized.normalize_iff {stmt : Script.Stmt} {expansion : Expansion Target.Stmt}
    (sized : Sized stmt expansion) :
    (∃ item, expansion.normalize = .single item) ↔ ¬stmt.Several := by
  obtain ⟨positive, several⟩ := sized
  simp only [Expansion.normalize_eq_single, ← List.length_eq_one_iff, ← several]
  omega

end Lowering

end Offside
