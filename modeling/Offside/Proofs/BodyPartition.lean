import Offside.Proofs.Mintings

/-! What becomes of a list of statements. They are lowered in order. What the function declarations
became comes first and what the others became after it, each in order; above both stand the names
that were made up for the scope of the list. -/

namespace Offside.Lowering

open Script (Minting)

variable (vocabulary : Target.Vocabulary)

namespace Spends

variable {mintings : List Minting}

theorem require {next : Lower α} (kind : Target.NodeKind) (spends : Spends mintings next) :
    Spends mintings (require vocabulary kind >>= fun _ => next) :=
  skip (.require vocabulary kind) fun _ => spends

theorem buildExpr (node : Target.Expr) : Spends [] (buildExpr vocabulary node) :=
  silent (.buildExpr vocabulary node)

theorem buildStmt (node : Target.Stmt) : Spends [] (buildStmt vocabulary node) :=
  silent (.buildStmt vocabulary node)

theorem chainLink (loc : Option Location) (op : Target.BinaryOp) (left right : Target.Expr)
    (chain : Option Target.Expr) : Spends [] (chainLink vocabulary loc op left right chain) :=
  silent (.chainLink vocabulary loc op left right chain)

theorem single (kind : String) {lowering : Lower (Expansion Target.Stmt)}
    (spends : Spends mintings lowering) : Spends mintings (single kind lowering) := by
  apply spends.last
  intro expansion
  split
  · exact pure _
  · exact fail _

theorem functionExpr (loc own : Option Location) (bound generator async : Bool)
    (params : List Target.Expr) (body : Target.Block) :
    Spends [] (functionExpr vocabulary loc own bound generator async params body) := by
  unfold Lowering.functionExpr
  split
  · exact buildExpr vocabulary _
  · split
    · apply skip (.buildExpr vocabulary _)
      intro inner
      apply (instantiate vocabulary _ _ loc).last
      intro applied
      apply skip (.buildStmt vocabulary _)
      intro result
      exact require vocabulary _ (buildExpr vocabulary _)
    · exact buildExpr vocabulary _

theorem listBody (loc : Option Location) (stmts : List Script.Stmt)
    {lowering : Lower (List (List Target.Stmt))} (spends : Spends mintings lowering) :
    Spends (mintings.map Minting.within) (listBody vocabulary loc stmts lowering) := by
  have inside : Spends (mintings.map Minting.within) (lowering.withFrame .scope) :=
    fun pass result later ran => (spends.scope_eq ran).2
  apply inside.last
  rintro ⟨lowered, frame⟩
  cases frame with
  | scope names =>
    apply skip (.declareNames vocabulary loc names [])
    intro declarations
    exact pure _
  | cascade _ | method => exact fail _

end Spends

mutual

theorem spends_expr : ∀ node : Script.Expr, Spends node.mintings (lowerExpr vocabulary node)
  | .identifier .. | .literal .. | .thisObject _ => by
    rw [lowerExpr, Script.Expr.mintings]
    exact .require vocabulary _ (.pure _)
  | .virtualObject loc => by
    rw [lowerExpr, Script.Expr.mintings]
    apply Spends.surroundings.last
    intro frames
    split
    · exact .buildExpr vocabulary _
    · exact .fail _
  | .array _ items | .sequence _ items => by
    rw [lowerExpr, Script.Expr.mintings]
    exact .require vocabulary _ ((spends_exprs items).last fun _ => .pure _)
  | .object _ properties => by
    rw [lowerExpr, Script.Expr.mintings]
    exact .require vocabulary _ ((spends_properties properties).last fun _ => .pure _)
  | .function loc definition => by
    rw [lowerExpr, Script.Expr.mintings]
    exact spends_function loc definition
  | .unary _ _ argument | .awaiting _ argument => by
    rw [lowerExpr, Script.Expr.mintings]
    exact .require vocabulary _ ((spends_expr argument).last fun _ => .pure _)
  | .binary loc op left right => by
    rw [lowerExpr, Script.Expr.mintings]
    apply (spends_expr left).bind
    intro lowered
    apply (spends_expr right).last
    intro other
    split
    · exact .buildExpr vocabulary _
    · exact .instantiate vocabulary _ _ loc
  | .logical _ _ left right | .assignment _ _ left right | .member _ left right _ => by
    rw [lowerExpr, Script.Expr.mintings]
    apply Spends.require
    exact (spends_expr left).bind fun _ => (spends_expr right).last fun _ => .pure _
  | .conditional _ test consequent alternate => by
    rw [lowerExpr, Script.Expr.mintings, List.append_assoc]
    apply Spends.require
    apply (spends_expr test).bind
    intro _
    exact (spends_expr consequent).bind fun _ => (spends_expr alternate).last fun _ => .pure _
  | .call _ callee arguments | .construct _ callee arguments => by
    rw [lowerExpr, Script.Expr.mintings]
    apply Spends.require
    exact (spends_expr callee).bind fun _ => (spends_exprs arguments).last fun _ => .pure _
  | .yielding _ argument _ => by
    rw [lowerExpr, Script.Expr.mintings]
    exact .require vocabulary _ ((spends_option argument).last fun _ => .pure _)
  | .compareChain loc [] operators => by
    rw [lowerExpr_compareChain_fail vocabulary loc (.inr (by simp))]
    exact .fail _
  | .compareChain loc (first :: operands) [] => by
    rw [lowerExpr_compareChain_fail vocabulary loc (.inl rfl)]
    exact .fail _
  | .compareChain loc (first :: operands) (op :: operators) => by
    by_cases fit : operands.length = operators.length + 1
    · rw [lowerExpr_compareChain_cons vocabulary loc first op fit, Script.Expr.mintings]
      apply Spends.skip (.comparison op)
      intro op
      apply (spends_expr first).bind
      intro left
      exact spends_chain loc op left none operators operands fit
    · rw [lowerExpr_compareChain_fail vocabulary loc (.inr (by simpa using fit))]
      exact .fail _

theorem spends_exprs : ∀ nodes : List Script.Expr,
    Spends (Script.exprMintings nodes) (lowerExprs vocabulary nodes)
  | [] => by
    rw [lowerExprs, Script.exprMintings]
    exact .pure _
  | node :: nodes => by
    rw [lowerExprs, Script.exprMintings]
    exact (spends_expr node).bind fun _ => (spends_exprs nodes).last fun _ => .pure _

theorem spends_option : ∀ node : Option Script.Expr,
    Spends (Script.optionMintings node) (lowerOption vocabulary node)
  | none => by
    rw [lowerOption, Script.optionMintings]
    exact .pure _
  | some node => by
    rw [lowerOption, Script.optionMintings]
    exact (spends_expr node).last fun _ => .pure _

/-- As many operands are left as comparisons, the one at hand included, so that all but the last are
followed by another. -/
theorem spends_chain (loc : Option Location) (op : Target.BinaryOp) (left : Target.Expr)
    (before : Option Target.Expr) (operators : List Script.BinaryOp) :
    ∀ operands : List Script.Expr, operands.length = operators.length + 1 →
      Spends (Script.chainMintings operands)
        (lowerChain vocabulary loc op left before operators operands)
  | [], fit => by simp at fit
  | operand :: operands, fit => by
    cases operators with
    | nil =>
      obtain rfl : operands = [] := by simpa using fit
      rw [lowerChain_last]
      simpa [Script.chainMintings] using
        (spends_expr operand).last fun right => .chainLink vocabulary loc op left right before
    | cons next operators =>
      have more : operands.isEmpty = false := by cases operands <;> simp at fit ⊢
      rw [lowerChain_cons, Script.chainMintings, more, if_neg Bool.false_ne_true, List.append_assoc]
      apply (Spends.fresh tempStem).bind
      intro name
      apply (spends_expr operand).bind
      intro value
      apply Spends.skip (.assign vocabulary loc name value)
      intro right
      apply Spends.skip (.chainLink vocabulary loc op left right before)
      intro link
      apply Spends.skip (.comparison next)
      intro op
      apply Spends.skip (.identifier vocabulary loc name)
      intro left
      exact spends_chain loc op left (some link) operators operands (by simpa using fit)

theorem spends_property : ∀ node : Script.Property,
    Spends node.mintings (lowerProperty vocabulary node)
  | .keyValue _ key value => by
    rw [lowerProperty, Script.Property.mintings]
    apply (spends_expr key).bind
    intro _
    exact (spends_expr value).last fun _ => .require vocabulary _ (.pure _)
  | .method loc key definition => by
    rw [lowerProperty, Script.Property.mintings]
    apply (spends_expr key).bind
    intro _
    apply (spends_function (definition.loc.or loc) definition).withMethod.last
    rintro ⟨value, _⟩
    exact .require vocabulary _ (.pure _)

theorem spends_properties : ∀ nodes : List Script.Property,
    Spends (Script.propertyMintings nodes) (lowerProperties vocabulary nodes)
  | [] => by
    rw [lowerProperties, Script.propertyMintings]
    exact .pure _
  | node :: nodes => by
    rw [lowerProperties, Script.propertyMintings]
    exact (spends_property node).bind fun _ => (spends_properties nodes).last fun _ => .pure _

theorem spends_function (loc : Option Location) : ∀ node : Script.Function,
    Spends node.mintings (lowerFunction vocabulary loc node)
  | .mk own params body bound generator async => by
    rw [lowerFunction, Script.Function.mintings]
    apply Spends.surroundings.bind
    intro frames
    dsimp only
    split
    · exact .fail _
    · apply (spends_exprs params).bind
      intro params
      apply (spends_block loc body).last
      intro body
      exact .functionExpr vocabulary loc _ _ _ _ params body

theorem spends_block (loc : Option Location) : ∀ node : Script.Block,
    Spends node.mintings (lowerBlock vocabulary loc node)
  | .mk own body => by
    rw [lowerBlock_eq, Script.Block.mintings]
    apply ((spends_stmts body).listBody vocabulary (own.or loc) body).last
    intro stmts
    exact .require vocabulary _ (.pure _)

theorem spends_handler (loc : Option Location) : ∀ node : Option Script.Catch,
    Spends (Script.handlerMintings node) (lowerHandler vocabulary loc node)
  | none => by
    rw [lowerHandler, Script.handlerMintings]
    exact .pure _
  | some (.mk own param body) => by
    rw [lowerHandler, Script.handlerMintings]
    apply (spends_option param).bind
    intro _
    exact (spends_block loc body).last fun _ => .require vocabulary _ (.pure _)

theorem spends_finalizer (loc : Option Location) : ∀ node : Option Script.Block,
    Spends (Script.finalizerMintings node) (lowerFinalizer vocabulary loc node)
  | none => by
    rw [lowerFinalizer, Script.finalizerMintings]
    exact .pure _
  | some node => by
    rw [lowerFinalizer, Script.finalizerMintings]
    exact (spends_block loc node).last fun _ => .pure _

theorem spends_declarator (loc : Option Location) : ∀ node : Script.Declarator,
    Spends node.mintings (lowerDeclarator vocabulary loc node)
  | .mk own id init _ => by
    rw [lowerDeclarator, Script.Declarator.mintings]
    apply (spends_expr id).bind
    intro _
    exact (spends_option init).last fun _ => .silent (.declarator vocabulary _ _ _)

theorem spends_runs (loc : Option Location) (constant : Bool) (run : List Target.Declarator) :
    ∀ nodes : List Script.Declarator,
      Spends (Script.declaratorMintings nodes) (lowerRuns vocabulary loc constant run nodes)
  | [] => by
    rw [lowerRuns, Script.declaratorMintings]
    exact .skip (.buildStmt vocabulary _) fun _ => .pure _
  | node :: nodes => by
    rw [lowerRuns, Script.declaratorMintings]
    split
    · exact (spends_declarator loc node).bind fun lowered =>
        spends_runs loc constant (run ++ [lowered]) nodes
    · apply Spends.skip (.buildStmt vocabulary _)
      intro done
      apply (spends_declarator loc node).bind
      intro lowered
      exact (spends_runs loc node.constant [lowered] nodes).last fun _ => .pure _

theorem spends_stmt : ∀ node : Script.Stmt, Spends node.mintings (lowerStmt vocabulary node)
  | .expression _ value | .throwing _ value => by
    rw [lowerStmt, Script.Stmt.mintings]
    exact .require vocabulary _ ((spends_expr value).last fun _ => .pure _)
  | .block loc body => by
    rw [lowerStmt, Script.Stmt.mintings]
    apply (spends_block loc body).last
    intro body
    exact .skip (.buildStmt vocabulary _) fun _ => .pure _
  | .empty _ | .breaking _ | .continuing _ => by
    rw [lowerStmt, Script.Stmt.mintings]
    exact .require vocabulary _ (.pure _)
  | .ifElse _ test consequent none => by
    rw [lowerStmt, Script.Stmt.mintings]
    apply Spends.require
    apply (spends_expr test).bind
    intro _
    exact ((spends_stmt consequent).single _).last fun _ => .pure _
  | .ifElse _ test consequent (some alternate) => by
    rw [lowerStmt, Script.Stmt.mintings, List.append_assoc]
    apply Spends.require
    apply (spends_expr test).bind
    intro _
    apply ((spends_stmt consequent).single _).bind
    intro _
    exact ((spends_stmt alternate).single _).last fun _ => .pure _
  | .whileLoop _ test body => by
    rw [lowerStmt, Script.Stmt.mintings]
    apply Spends.require
    apply (spends_expr test).bind
    intro _
    exact ((spends_stmt body).single _).last fun _ => .pure _
  | .doWhile _ body test => by
    rw [lowerStmt, Script.Stmt.mintings]
    apply Spends.require
    apply ((spends_stmt body).single _).bind
    intro _
    exact (spends_expr test).last fun _ => .pure _
  | .forIn _ left right body | .forOf _ left right body => by
    rw [lowerStmt, Script.Stmt.mintings, List.append_assoc]
    apply Spends.require
    apply (spends_expr left).bind
    intro _
    apply (spends_expr right).bind
    intro _
    exact ((spends_stmt body).single _).last fun _ => .pure _
  | .returning _ argument => by
    rw [lowerStmt, Script.Stmt.mintings]
    exact .require vocabulary _ ((spends_option argument).last fun _ => .pure _)
  | .trying loc block handler finalizer => by
    rw [lowerStmt, Script.Stmt.mintings, List.append_assoc]
    apply Spends.require
    apply (spends_block loc block).bind
    intro _
    apply (spends_handler loc handler).bind
    intro _
    exact (spends_finalizer loc finalizer).last fun _ => .pure _
  | .declaring _ [] => by
    rw [lowerStmt]
    exact .fail _
  | .declaring loc (first :: declarators) => by
    rw [lowerStmt, Script.Stmt.mintings]
    exact (spends_runs loc first.constant [] (first :: declarators)).last fun _ => .pure _
  | .function loc id definition => by
    rw [lowerStmt, Script.Stmt.mintings]
    apply (spends_expr id).bind
    intro id
    apply (spends_function (definition.loc.or loc) definition).last
    intro value
    apply Spends.skip (.declarator vocabulary loc id (some value))
    intro binding
    exact .skip (.buildStmt vocabulary _) fun _ => .pure _
  | .assignment _ _ left right => by
    rw [lowerStmt, Script.Stmt.mintings]
    apply (spends_expr left).bind
    intro left
    apply (spends_expr right).last
    intro right
    apply Spends.skip (.buildExpr vocabulary _)
    intro value
    exact .skip (.buildStmt vocabulary _) fun _ => .pure _
  | .cascade loc root steps degrees => by
    rw [lowerStmt, Script.Stmt.mintings]
    split
    · exact .fail _
    next fit =>
      apply (Spends.fresh rootStem).bind
      intro name
      apply (spends_expr root).bind
      intro root
      apply Spends.skip (.assignStmt vocabulary loc name root)
      intro first
      apply ((spends_steps loc degrees steps (by simpa using fit)).withCascade name).last
      rintro ⟨rest, _⟩
      exact .pure _
  | .yielding _ argument => by
    rw [lowerStmt, Script.Stmt.mintings]
    apply (spends_option argument).last
    intro argument
    apply Spends.skip (.buildExpr vocabulary _)
    intro value
    exact .skip (.buildStmt vocabulary _) fun _ => .pure _

theorem spends_stmts : ∀ nodes : List Script.Stmt,
    Spends (Script.stmtMintings nodes) (lowerStmts vocabulary nodes)
  | [] => by
    rw [lowerStmts, Script.stmtMintings]
    exact .pure _
  | node :: nodes => by
    rw [lowerStmts, Script.stmtMintings]
    exact (spends_stmt node).bind fun _ => (spends_stmts nodes).last fun _ => .pure _

/-- Every step has a degree, so that no step is left out. -/
theorem spends_steps (loc : Option Location) (degrees : List Nat) : ∀ steps : List Script.Stmt,
    steps.length = degrees.length →
      SpendsBelow (Script.stepMintings degrees steps) (lowerSteps vocabulary true loc degrees steps)
  | [], _ => by
    rw [lowerSteps_nil, Script.stepMintings]
    exact .pure _
  | step :: steps, fit => by
    cases degrees with
    | nil => simp at fit
    | cons degree degrees =>
      have rest := spends_steps loc degrees steps (by simpa using fit)
      rw [lowerSteps_cons, Script.stepMintings]
      -- Whether the step takes a name depends on the degree of the next one.
      by_cases shallow : degrees.head?.getD 0 ≤ degree
      · simp only [if_pos shallow, List.nil_append]
        apply SpendsBelow.receivers.bind
        intro held
        split
        · exact .fail _
        · apply (SpendsBelow.setReceivers _).bind
          intro _
          apply (SpendsBelow.general (spends_stmt step)).bind
          intro lowered
          exact rest.last fun _ => .pure _
      · simp only [if_neg shallow]
        apply SpendsBelow.receivers.bind
        intro held
        split
        · exact .fail _
        · apply (SpendsBelow.setReceivers _).bind
          intro _
          split
          · exact .fail _
          · apply (spends_stored loc (held.take degree) step).bind
            intro stored
            exact rest.last fun _ => .pure _

theorem spends_stored (loc : Option Location) (held : List String) : ∀ step : Script.Stmt,
    SpendsBelow ([⟨cascadeStem, false⟩] ++ step.mintings) (lowerStored vocabulary loc held step)
  | .expression _ value => by
    rw [lowerStored, Script.Stmt.mintings]
    apply (SpendsBelow.general (.fresh cascadeStem)).bind
    intro name
    apply (SpendsBelow.general (spends_expr value)).last
    intro value
    apply (SpendsBelow.general (.silent (.assignStmt vocabulary loc name value))).bind
    intro stored
    exact (SpendsBelow.setReceivers _).last fun _ => .pure _
  | .block .. | .empty _ | .ifElse .. | .whileLoop .. | .doWhile .. | .forIn .. | .forOf ..
  | .returning .. | .breaking _ | .continuing _ | .throwing .. | .trying .. | .declaring ..
  | .function .. | .assignment .. | .cascade .. | .yielding .. => .fail _

end

/-! ### Bodies -/

/-- Statements lowered one after the other, and what each became. -/
inductive InTurn : Pass → List Script.Stmt → List (List Target.Stmt) → Pass → Prop
  | done {pass : Pass} : InTurn pass [] [] pass
  | next {pass middle later : Pass} {stmt : Script.Stmt} {stmts : List Script.Stmt}
      {expansion : Expansion Target.Stmt} {expansions : List (List Target.Stmt)}
      (ran : lowerStmt vocabulary stmt pass = (.ok expansion, middle))
      (rest : InTurn middle stmts expansions later) :
      InTurn pass (stmt :: stmts) (expansion.toList :: expansions) later

/-- What the statements that meet a test became, in order. -/
def became (test : Script.Stmt → Bool) :
    List Script.Stmt → List (List Target.Stmt) → List Target.Stmt
  | stmt :: stmts, expansion :: expansions =>
    (if test stmt then expansion else []) ++ became test stmts expansions
  | _, _ => []

theorem flatMap_zip_eq_became (test : Script.Stmt → Bool) (stmts : List Script.Stmt)
    (expansions : List (List Target.Stmt)) :
    ((stmts.zip expansions).filter fun entry => test entry.1).flatMap Prod.snd =
      became test stmts expansions := by
  fun_induction became test stmts expansions with
  | case1 stmt stmts expansion expansions ih =>
    rw [List.zip_cons_cons, List.filter_cons, ← ih]
    split <;> simp
  | case2 stmts expansions none =>
    cases stmts with
    | nil => rfl
    | cons stmt stmts =>
      cases expansions with
      | nil => rfl
      | cons expansion expansions => exact (none _ _ _ _ rfl rfl).elim

/-- The declaration of names without values, if there are any. -/
def nameDeclaration (loc : Option Location) (names : List String) : List Target.Stmt :=
  if names = [] then []
  else [.declaring loc .let (names.map fun name => .mk loc (.identifier loc name) none)]

theorem silent_nameDeclaration (loc : Option Location) (names : List String) :
    Silent (· = nameDeclaration loc names) (declareNames vocabulary loc names) := by
  unfold declareNames nameDeclaration
  cases names with
  | nil => exact .pure rfl
  | cons name names =>
    exact (Silent.declareAll vocabulary loc (name :: names)).given <|
      (Silent.buildStmt vocabulary _).given <| .pure rfl

/-- What the statements of a scope become. They are lowered in order in a scope of their own, where
the names that they take are made up. The body declares those of them that no inner scope declares;
then comes what the function declarations became and then what the other statements became. -/
structure Parted (loc : Option Location) (stmts : List Script.Stmt) (pass later : Pass)
    (body : List Target.Stmt) : Prop where
  reserved : later.reserved =
    (mintedNames pass.reserved (Script.stmtMintings stmts)).reverse ++ pass.reserved
  parts : ∃ expansions inner,
    InTurn vocabulary (pass.push .scope) stmts expansions inner ∧
      inner.frames =
        .scope (ownNames pass.reserved (Script.stmtMintings stmts)) :: pass.frames ∧
      body = nameDeclaration loc (ownNames pass.reserved (Script.stmtMintings stmts)) ++
        (became Script.Stmt.isHoisted stmts expansions ++
          became (!·.isHoisted) stmts expansions)

variable {vocabulary} {pass later : Pass} {stmts : List Script.Stmt}

private theorem inTurn_of_lowerStmts {expansions : List (List Target.Stmt)}
    (ran : lowerStmts vocabulary stmts pass = (.ok expansions, later)) :
    InTurn vocabulary pass stmts expansions later := by
  induction stmts generalizing pass expansions with
  | nil =>
    rw [lowerStmts] at ran
    cases ran
    exact .done
  | cons stmt stmts ih =>
    rw [lowerStmts] at ran
    obtain ⟨expansion, middle, first, ran⟩ := Lower.bind_eq_ok.mp ran
    obtain ⟨others, last, rest, ran⟩ := Lower.bind_eq_ok.mp ran
    cases ran
    exact .next first (ih rest)

private theorem parted_listBody {loc : Option Location} {body : List Target.Stmt}
    (ran : listBody vocabulary loc stmts (lowerStmts vocabulary stmts) pass = (.ok body, later)) :
    Parted vocabulary loc stmts pass later body := by
  have spends := spends_stmts vocabulary stmts
  obtain ⟨⟨expansions, frame⟩, middle, under, ran⟩ := Lower.bind_eq_ok.mp ran
  obtain ⟨inner, inside, top, left⟩ := Lower.withFrame_eq_ok.mp under
  obtain ⟨held, spent⟩ := spends.scope_eq under
  have own := (spends _ _ _ inside).frames
  cases held
  obtain ⟨declarations, last, declared, ran⟩ := Lower.bind_eq_ok.mp ran
  obtain ⟨rfl, rfl⟩ := silent_nameDeclaration vocabulary loc _ _ _ _ declared
  cases ran
  refine ⟨?_, expansions, inner, inTurn_of_lowerStmts inside, own, ?_⟩
  · rw [spent.reserved, reservedAfter, mintedNames_within]
  · rw [hoist, flatMap_zip_eq_became, flatMap_zip_eq_became (!·.isHoisted)]

/-- The same of a step that wraps the body in a node. -/
theorem parted_wrapped {loc : Option Location} {kind : Target.NodeKind} {result : α}
    {wrap : List Target.Stmt → α}
    (ran : (do
      let body ← listBody vocabulary loc stmts (lowerStmts vocabulary stmts)
      require vocabulary kind
      return wrap body) pass = (.ok result, later)) :
    ∃ body, result = wrap body ∧ Parted vocabulary loc stmts pass later body := by
  obtain ⟨body, middle, inside, rest⟩ := Lower.bind_eq_ok.mp ran
  obtain ⟨_, last, required, returned⟩ := Lower.bind_eq_ok.mp rest
  obtain ⟨rfl, -⟩ := Silent.require vocabulary kind _ _ _ required
  cases returned
  exact ⟨body, rfl, parted_listBody inside⟩

/-- The body of every block, and that of a program, is the stable partition of what its statements
became, below the names made up for its scope. The names are those that the tree says, in order. -/
theorem Engine.bodies_parted (engine : Engine) :
    (∀ loc own stmts pass block later,
      lowerBlock engine.vocabulary loc (.mk own stmts) pass = (.ok block, later) →
        ∃ body, block = .mk (own.or loc) body ∧
          Parted engine.vocabulary (own.or loc) stmts pass later body) ∧
      ∀ program lowered, (engine.lower program).1 = .ok lowered →
        Parted engine.vocabulary program.loc program.body (engine.start program)
          (engine.finish program) lowered.body := by
  constructor
  · intro loc own stmts pass block later ran
    rw [lowerBlock_eq] at ran
    exact parted_wrapped ran
  · intro program lowered ran
    obtain ⟨later, ran, -⟩ := lower_fst_eq_ok.mp ran
    rw [finish, ran]
    rw [lowerProgram_eq] at ran
    obtain ⟨body, rfl, parted⟩ := parted_wrapped ran
    exact parted

/-- Compares three things. -/
def threefold : Script.Stmt :=
  .expression none (.compareChain none
    [.identifier none "a", .identifier none "b", .identifier none "c"] [.less, .less])

/-- A function is declared between two comparisons and makes one itself. -/
def comparingScript : Script.Program :=
  ⟨none, [threefold,
    .function none (.identifier none "f") (.mk none [] (.mk none [threefold]) none false false),
    threefold]⟩

/-- The name that the function takes is declared in it and not above it. In a block the statements
become the same. -/
theorem comparingScript_parted :
    ownNames (({} : Engine).start comparingScript).reserved
        (Script.stmtMintings comparingScript.body) = ["_temp$1", "_temp$3"] ∧
      (∃ lowered, (({} : Engine).lower comparingScript).1 = .ok lowered ∧
        Parted .full none comparingScript.body (({} : Engine).start comparingScript)
          (({} : Engine).finish comparingScript) lowered.body) ∧
      ∃ body later, lowerBlock .full none (.mk none comparingScript.body)
          (({} : Engine).start comparingScript) = (.ok (.mk none body), later) ∧
        Parted .full none comparingScript.body (({} : Engine).start comparingScript) later
          body := by
  obtain ⟨blocks, programs⟩ := ({} : Engine).bodies_parted
  refine ⟨by decide +kernel, ?_, ?_⟩
  · have succeeds : (({} : Engine).lower comparingScript).1.isOk := by decide +kernel
    cases ran : (({} : Engine).lower comparingScript).1 with
    | error fault => simp [ran, Except.isOk, Except.toBool] at succeeds
    | ok lowered => exact ⟨lowered, rfl, programs comparingScript lowered ran⟩
  · have succeeds : (lowerBlock .full none (.mk none comparingScript.body)
        (({} : Engine).start comparingScript)).1.isOk := by decide +kernel
    cases ran : lowerBlock .full none (.mk none comparingScript.body)
        (({} : Engine).start comparingScript) with
    | mk result later =>
      cases result with
      | error fault => simp [ran, Except.isOk, Except.toBool] at succeeds
      | ok block =>
        obtain ⟨body, rfl, parted⟩ := blocks none none _ _ block later ran
        exact ⟨body, later, rfl, parted⟩

end Offside.Lowering
