import Offside.Lowering

/-! The statements of a scope are lowered in runs, and the function declarations are collected apart.
Seen as a whole, they are lowered one after the other, and what the function declarations became is then
put before what the others became. -/

namespace Offside.Lowering

/-- The frame that a visit pops. -/
def innermost : List Frame → Except Fault Frame
  | frame :: _ => .ok frame
  | [] => .error (.frames .empty)

/-- A visit that pushes a frame and pops it gives what the step under it gave, and the frame. Whatever
the step did, the frame is gone. -/
theorem Lower.withFrame_apply (opening : Opening) (step : Lower α) (pass : Pass) :
    step.withFrame opening pass =
      ((do
        let a ← (step (pass.push opening)).1
        let left ← innermost (step (pass.push opening)).2.frames
        return (a, left)),
      (step (pass.push opening)).2.pop) := by
  rcases ran : step (pass.push opening) with ⟨fault | a, later⟩
  · simp [withFrame, withOwnFrame, Visit.make, bind, Visit.andThen, Visit.push, Visit.within, ran,
      Except.bind]
  · cases frames : later.frames with
    | nil =>
      have emptied : later.pop = later := by
        ext1 <;> simp [frames]
      simp [withFrame, withOwnFrame, Visit.make, bind, Visit.andThen, Visit.push, Visit.within, ran,
        Visit.pop, frames, Except.bind, innermost, emptied]
    | cons frame outer =>
      simp [withFrame, withOwnFrame, Visit.make, bind, Visit.andThen, Visit.push, Visit.within, ran,
        Visit.pop, frames, Pure.pure, Except.bind, Except.pure, innermost]

/-- What is made of a step's result can be made of it once the frame is gone. -/
theorem Lower.withFrame_bind_pure (opening : Opening) (step : Lower α) (f : α → β) :
    (step >>= fun a => pure (f a)).withFrame opening =
      (step.withFrame opening >>= fun result => pure (f result.1, result.2)) := by
  funext pass
  rw [withFrame_apply, bind_apply, bind_apply, withFrame_apply]
  rcases step (pass.push opening) with ⟨fault | a, frames, reserved, templates, declared⟩
  · rfl
  · cases frames <;> rfl

variable (vocabulary : Target.Vocabulary)

/-- What each statement of a list becomes. -/
def lowerStmts : List Script.Stmt → Lower (List (List Target.Stmt))
  | [] => return []
  | stmt :: stmts => do
    let first ← lowerStmt vocabulary stmt
    return first.toList :: (← lowerStmts stmts)

/-- Adds what statements became, function declarations to function declarations. -/
def Hoisted.collect (body : Hoisted) (stmts : List Script.Stmt) (lowered : List (List Target.Stmt)) :
    Hoisted where
  functions := body.functions ++ ((stmts.zip lowered).filter (·.1.isHoisted)).flatMap Prod.snd
  others := body.others ++ ((stmts.zip lowered).filter (!·.1.isHoisted)).flatMap Prod.snd

/-- Puts what function declarations became before what the other statements became. -/
def hoist (stmts : List Script.Stmt) (lowered : List (List Target.Stmt)) : List Target.Stmt :=
  ((stmts.zip lowered).filter (·.1.isHoisted)).flatMap Prod.snd ++
    ((stmts.zip lowered).filter (!·.1.isHoisted)).flatMap Prod.snd

namespace Hoisted

variable (body : Hoisted)

theorem collect_cons (stmt : Script.Stmt) (stmts : List Script.Stmt) (items : List Target.Stmt)
    (lowered : List (List Target.Stmt)) :
    body.collect (stmt :: stmts) (items :: lowered) =
      (body.extend stmt.isHoisted items).collect stmts lowered := by
  cases hoisted : stmt.isHoisted <;> simp [collect, extend, hoisted]

private theorem extend_extend (hoisted : Bool) (run more : List Target.Stmt) :
    (body.extend hoisted run).extend hoisted more = body.extend hoisted (run ++ more) := by
  cases hoisted <;> simp [extend]

end Hoisted

/-- A run that goes on is as good as one that ends here and another one of its kind. -/
private theorem lowerBodyRuns_eq (hoisted : Bool) (run : List Target.Stmt) (body : Hoisted)
    (stmts : List Script.Stmt) :
    lowerBodyRuns vocabulary hoisted run body stmts =
      (do return (body.extend hoisted run).collect stmts (← lowerStmts vocabulary stmts)) := by
  induction stmts generalizing hoisted run body with
  | nil => simp [lowerBodyRuns, lowerStmts, Hoisted.collect]
  | cons next stmts ih =>
    simp only [lowerBodyRuns, lowerStmts, bind_assoc, pure_bind, Hoisted.collect_cons]
    refine bind_congr fun lowered => ?_
    split
    · next same =>
      rw [ih, eq_of_beq same, Hoisted.extend_extend]
    · rw [ih]

private theorem lowerBody_eq (stmts : List Script.Stmt) :
    lowerBody vocabulary stmts =
      (do return ({} : Hoisted).collect stmts (← lowerStmts vocabulary stmts)) := by
  cases stmts with
  | nil => rfl
  | cons first stmts =>
    simp only [lowerBody, lowerStmts, bind_assoc, pure_bind, Hoisted.collect_cons, lowerBodyRuns_eq]

/-- The body of a scope whose statements are lowered one after the other. -/
def listBody (loc : Option Location) (stmts : List Script.Stmt)
    (lowering : Lower (List (List Target.Stmt))) : Lower (List Target.Stmt) := do
  let (lowered, frame) ← lowering.withFrame .scope
  match frame with
  | .scope names =>
    let declarations ← declareNames vocabulary loc names
    return declarations ++ hoist stmts lowered
  | _ => .fail (.frames .notScope)

theorem scopeBody_eq (loc : Option Location) (stmts : List Script.Stmt) :
    scopeBody vocabulary loc (lowerBody vocabulary stmts) =
      listBody vocabulary loc stmts (lowerStmts vocabulary stmts) := by
  rw [scopeBody, lowerBody_eq, Lower.withFrame_bind_pure, bind_assoc, listBody]
  refine bind_congr fun result => ?_
  obtain ⟨lowered, frame⟩ := result
  cases frame <;> simp [Hoisted.collect, hoist]

theorem lowerBlock_eq (loc own : Option Location) (stmts : List Script.Stmt) :
    lowerBlock vocabulary loc (.mk own stmts) = (do
      let body ← listBody vocabulary (own.or loc) stmts (lowerStmts vocabulary stmts)
      require vocabulary .blockStatement
      return .mk (own.or loc) body) := by
  rw [lowerBlock, scopeBody_eq]

theorem lowerProgram_eq (program : Script.Program) :
    lowerProgram vocabulary program = (do
      let body ← listBody vocabulary program.loc program.body (lowerStmts vocabulary program.body)
      require vocabulary .program
      return ⟨program.loc, body, .script⟩) := by
  rw [lowerProgram, scopeBody_eq]

end Offside.Lowering
