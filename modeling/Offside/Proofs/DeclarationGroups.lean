import Mathlib.Data.List.Chain
import Offside.Proofs.LeafSteps

/-! Declarations of variables. Variables that are declared together in a script are lowered in order and
stay in order; those in a row that are all constant, or of which none is, form a group with a
declaration of its own. -/

namespace Offside

theorem Expansion.normalize_normalize (expansion : Expansion α) :
    expansion.normalize.normalize = expansion.normalize := by
  match expansion with
  | .single _ | .spread [] | .spread [_] | .spread (_ :: _ :: _) => rfl

/-- How a variable is declared in the target. -/
def Target.DeclarationKind.ofConstant (constant : Bool) : DeclarationKind :=
  if constant then .const else .let

private theorem Target.DeclarationKind.ofConstant_ne {constant other : Bool}
    (differ : other ≠ constant) :
    ofConstant constant ≠ ofConstant other := by
  revert constant other
  decide

namespace Lowering

open Target.DeclarationKind (ofConstant)

/-- Variables with one declaration. -/
structure Group where
  kind : Target.DeclarationKind
  members : List Target.Declarator

namespace Group

def stmt (loc : Option Location) (group : Group) : Target.Stmt :=
  .declaring loc group.kind group.members

/-- The kind of the declaration, once for each variable. -/
def kinds (group : Group) : List Target.DeclarationKind := group.members.map fun _ => group.kind

/-- Groups of variables, given in order with the kinds to declare them by. No group is empty, and none
could take in the next one. -/
structure Partition (kinds : List Target.DeclarationKind) (members : List Target.Declarator)
    (groups : List Group) : Prop where
  kept : groups.flatMap Group.members = members
  typed : groups.flatMap Group.kinds = kinds
  nonempty : ∀ group ∈ groups, group.members ≠ []
  alternate : groups.IsChain fun group next => group.kind ≠ next.kind

namespace Partition

variable {kinds : List Target.DeclarationKind} {members : List Target.Declarator} {groups : List Group}

theorem single (group : Group) (nonempty : group.members ≠ []) :
    Partition group.kinds group.members [group] :=
  ⟨by simp, by simp, by simpa using nonempty, .singleton group⟩

theorem cons (parts : Partition kinds members groups) (group : Group)
    (nonempty : group.members ≠ []) (differs : ∀ next ∈ groups.head?, group.kind ≠ next.kind) :
    Partition (group.kinds ++ kinds) (group.members ++ members) (group :: groups) where
  kept := by rw [List.flatMap_cons, parts.kept]
  typed := by rw [List.flatMap_cons, parts.typed]
  nonempty := List.forall_mem_cons.mpr ⟨nonempty, parts.nonempty⟩
  alternate := List.isChain_cons.mpr ⟨differs, parts.alternate⟩

end Partition

end Group

section

variable {vocabulary : Target.Vocabulary} {loc : Option Location} {pass later : Pass}

/-- The variables of a list are lowered one after another and join the run at hand. That run has a
variable already, or the first of the list is of its kind. -/
private theorem runs_partition {constant : Bool} {run : List Target.Declarator}
    {declarators : List Script.Declarator} {stmts : List Target.Stmt}
    (ran : lowerRuns vocabulary loc constant run declarators pass = (.ok stmts, later))
    (begun : run = [] → ∃ first ∈ declarators.head?, first.constant = constant) :
    ∃ lowered groups, declarators.mapM (lowerDeclarator vocabulary loc) pass = (.ok lowered, later) ∧
      stmts = groups.map (Group.stmt loc) ∧
      groups.head?.map Group.kind = some (ofConstant constant) ∧
      Group.Partition
        (run.map (fun _ => ofConstant constant) ++ declarators.map fun d => ofConstant d.constant)
        (run ++ lowered) groups := by
  induction declarators generalizing constant run pass stmts with
  | nil =>
    rw [lowerRuns] at ran
    obtain ⟨stmt, middle, declared, returned⟩ := Lower.bind_eq_ok.mp ran
    cases returned
    obtain ⟨rfl, rfl⟩ := Silent.buildStmt vocabulary _ _ _ _ declared
    have held : run ≠ [] := by
      intro empty
      obtain ⟨first, member, -⟩ := begun empty
      cases member
    refine ⟨[], [⟨ofConstant constant, run⟩], rfl, rfl, rfl, ?_⟩
    rw [List.map_nil, List.append_nil, List.append_nil]
    exact .single ⟨ofConstant constant, run⟩ held
  | cons next declarators ih =>
    rw [lowerRuns] at ran
    split at ran
    · rename_i same
      have same : next.constant = constant := by simpa using same
      obtain ⟨lone, middle, one, rest⟩ := Lower.bind_eq_ok.mp ran
      obtain ⟨lowered, groups, all, made, head, parts⟩ := ih rest (by simp)
      refine ⟨lone :: lowered, groups, ?_, made, head, ?_⟩
      · rw [List.mapM_cons]
        exact Lower.bind_eq_ok.mpr ⟨_, _, one, Lower.bind_eq_ok.mpr ⟨_, _, all, rfl⟩⟩
      · simpa [same] using parts
    · rename_i other
      have other : next.constant ≠ constant := by simpa using other
      obtain ⟨stmt, middle, declared, ran⟩ := Lower.bind_eq_ok.mp ran
      obtain ⟨rfl, rfl⟩ := Silent.buildStmt vocabulary _ _ _ _ declared
      obtain ⟨lone, middle, one, ran⟩ := Lower.bind_eq_ok.mp ran
      obtain ⟨more, last, rest, returned⟩ := Lower.bind_eq_ok.mp ran
      cases returned
      obtain ⟨lowered, groups, all, made, head, parts⟩ := ih rest (by simp)
      have held : run ≠ [] := by
        intro empty
        obtain ⟨first, member, same⟩ := begun empty
        cases member
        exact other same
      refine ⟨lone :: lowered, ⟨ofConstant constant, run⟩ :: groups, ?_, ?_, rfl, ?_⟩
      · rw [List.mapM_cons]
        exact Lower.bind_eq_ok.mpr ⟨_, _, one, Lower.bind_eq_ok.mpr ⟨_, _, all, rfl⟩⟩
      · rw [made]
        rfl
      · refine parts.cons ⟨ofConstant constant, run⟩ held ?_
        intro group member
        rw [Option.mem_def.mp member] at head
        rw [Option.some.inj head]
        exact Target.DeclarationKind.ofConstant_ne other

/-- A lowered declaration is a single statement as it stands, or several that cannot be one. -/
private theorem declaring_partition {declarators : List Script.Declarator}
    {expansion : Expansion Target.Stmt}
    (ran : lowerStmt vocabulary (.declaring loc declarators) pass = (.ok expansion, later)) :
    ∃ groups : List Group, expansion = (Expansion.spread (groups.map (Group.stmt loc))).normalize ∧
      declarators.mapM (lowerDeclarator vocabulary loc) pass =
        (.ok (groups.flatMap Group.members), later) ∧
      Group.Partition (declarators.map fun declarator => ofConstant declarator.constant)
        (groups.flatMap Group.members) groups := by
  cases declarators with
  | nil =>
    rw [lowerStmt] at ran
    cases ran
  | cons first declarators =>
    rw [lowerStmt] at ran
    obtain ⟨stmts, middle, runs, returned⟩ := Lower.bind_eq_ok.mp ran
    cases returned
    obtain ⟨lowered, groups, all, rfl, -, parts⟩ :=
      runs_partition runs fun _ => ⟨first, rfl, rfl⟩
    obtain rfl : groups.flatMap Group.members = lowered := parts.kept
    exact ⟨groups, rfl, all, parts⟩

variable {kind : String} {lowering : Lower (Expansion Target.Stmt)} {expansion : Expansion Target.Stmt}

/-- Where only one statement may stand, a statement is accepted if it becomes a single one. -/
private theorem single_eq_ok {stmt : Target.Stmt} (ran : lowering pass = (.ok expansion, later))
    (one : expansion.normalize = .single stmt) : single kind lowering pass = (.ok stmt, later) := by
  rw [single, Lower.bind_apply, ran]
  dsimp only
  rw [one]
  rfl

private theorem single_eq_error (ran : lowering pass = (.ok expansion, later))
    (several : ¬ ∃ stmt, expansion.normalize = .single stmt) :
    single kind lowering pass = (.error (.severalNodes kind), later) := by
  rw [single, Lower.bind_apply, ran]
  dsimp only
  cases normal : expansion.normalize with
  | single stmt => exact absurd ⟨stmt, normal⟩ several
  | spread stmts => rfl

variable {declarators : List Script.Declarator}

/-- A declaration becomes one statement exactly if its variables are all constant or none is. -/
private theorem declaring_single_iff
    (ran : lowerStmt vocabulary (.declaring loc declarators) pass = (.ok expansion, later)) :
    (∃ stmt, expansion.normalize = .single stmt) ↔
      ∀ one ∈ declarators, ∀ other ∈ declarators, one.constant = other.constant := by
  have sized := yields_declaring vocabulary loc declarators pass expansion later ran
  rw [sized.normalize_iff, Script.Stmt.Several]
  push Not
  rfl

/-- How variables that are declared together in a script are declared in the target. They are lowered
one after another, and each stands in order under the kind of declaration it is to have; no declaration
is empty, and two in a row are of different kinds. There is one declaration exactly if all variables
are constant or none is, and only then may it stand where one statement is asked for. -/
theorem declarations_grouped
    (ran : lowerStmt vocabulary (.declaring loc declarators) pass = (.ok expansion, later)) :
    (∃ groups : List Group, expansion.toList = groups.map (Group.stmt loc) ∧
      declarators.mapM (lowerDeclarator vocabulary loc) pass =
        (.ok (groups.flatMap Group.members), later) ∧
      groups.flatMap Group.kinds =
        declarators.map (fun declarator => if declarator.constant then .const else .let) ∧
      (∀ group ∈ groups, group.members ≠ []) ∧
      groups.IsChain fun group next => group.kind ≠ next.kind) ∧
    ((∃ stmt, expansion = .single stmt) ↔
      ∀ one ∈ declarators, ∀ other ∈ declarators, one.constant = other.constant) ∧
    ∀ kind,
      ((∀ one ∈ declarators, ∀ other ∈ declarators, one.constant = other.constant) → ∃ stmt,
        single kind (lowerStmt vocabulary (.declaring loc declarators)) pass = (.ok stmt, later)) ∧
      ((¬ ∀ one ∈ declarators, ∀ other ∈ declarators, one.constant = other.constant) →
        single kind (lowerStmt vocabulary (.declaring loc declarators)) pass =
          (.error (.severalNodes kind), later)) := by
  have alike := declaring_single_iff ran
  obtain ⟨groups, rfl, lowered, parts⟩ := declaring_partition ran
  rw [Expansion.normalize_normalize] at alike
  refine ⟨⟨groups, ?_, lowered, parts.typed, parts.nonempty, parts.alternate⟩, alike, ?_⟩
  · rw [Expansion.toList_normalize, Expansion.toList]
  · intro kind
    rw [← alike, ← Expansion.normalize_normalize]
    refine ⟨?_, single_eq_error ran⟩
    rintro ⟨stmt, one⟩
    exact ⟨stmt, single_eq_ok ran one⟩

end

/-- Two constants and a variable. -/
def mixedDeclarators : List Script.Declarator :=
  [.mk none (.identifier none "a") none true, .mk none (.identifier none "b") none true,
    .mk none (.identifier none "c") none false]

/-- The constants form one declaration and the variable another, so there is no single statement. -/
theorem declarations_grouped_mixed : ∃ stmts,
    lowerStmt .full (.declaring none mixedDeclarators) (.start [] {}) =
      (.ok (.spread stmts), (.start [] {})) ∧ stmts.length = 2 ∧
    ∀ kind, single kind (lowerStmt .full (.declaring none mixedDeclarators)) (.start [] {}) =
      (.error (.severalNodes kind), (.start [] {})) := by
  have ran : lowerStmt .full (.declaring none mixedDeclarators) (.start [] {}) = (.ok (.spread [
      .declaring none .const [.mk none (.identifier none "a") none, .mk none (.identifier none "b") none],
      .declaring none .let [.mk none (.identifier none "c") none]]), (.start [] {})) := by
    with_unfolding_all rfl
  exact ⟨_, ran, rfl, fun kind => ((declarations_grouped ran).2.2 kind).2 (by decide)⟩

end Lowering

end Offside
