import Offside.Proofs.Hygiene

/-! What becomes of the leaves of a script. Names and literals are copied, virtual objects become
receivers, and a few nodes bring names of their own; besides these, the target has only names made up
on the way. A derivation says where each leaf of the target comes from. -/

namespace Offside

theorem filterMap_cons_toList (f : α → Option β) (a : α) (items : List α) :
    (a :: items).filterMap f = (f a).toList ++ items.filterMap f := by
  cases found : f a <;> simp [found]

namespace Script

/-- The nodes of a script that count when its leaves are traced. -/
inductive Leaf where
  | name (role : Role) (name : String)
  | literal (value : Literal)
  | virtual (role : Role)
  | floorDivision
  | boundGenerator

def Node.leaf? : Node → Option Leaf
  | expr _ role (.identifier _ name) => some (.name role name)
  | expr _ _ (.literal _ value) => some (.literal value)
  | expr _ role (.virtualObject _) => some (.virtual role)
  | expr _ _ (.binary _ .floorDiv _ _) => some .floorDivision
  | function place (.mk _ _ _ bound generator _) =>
    if bound.getD (!place.inMethod) && generator then some .boundGenerator else none
  | _ => none

def leaves (nodes : List Node) : List Leaf := nodes.filterMap Node.leaf?

@[simp] theorem leaves_nil : leaves [] = [] := rfl

@[simp] theorem leaves_append (before after : List Node) :
    leaves (before ++ after) = leaves before ++ leaves after := List.filterMap_append

theorem leaves_cons (node : Node) (nodes : List Node) :
    leaves (node :: nodes) = node.leaf?.toList ++ leaves nodes :=
  filterMap_cons_toList Node.leaf? node nodes

@[simp] theorem leaves_alone (place : Place) (stmt : Stmt) :
    leaves (stmt.nodes place true) = leaves (stmt.nodes place false) := by
  rw [Stmt.nodes.eq_def place true, Stmt.nodes.eq_def place false, leaves_cons, leaves_cons]
  rfl

theorem leaves_trying (place : Place) (loc : Option Location) (block : Block)
    (handler : Option Catch) (finalizer : Option Block) :
    leaves ((Stmt.trying loc block handler finalizer).nodes place false) =
      leaves (block.nodes place) ++ leaves (handler.elim [] (Catch.nodes place)) ++
        leaves (finalizer.elim [] (Block.nodes place)) := by
  cases handler <;> cases finalizer <;> simp [Stmt.nodes, leaves_cons, Node.leaf?]

end Script

namespace Target

/-- A block counts by its statements, which its own leaves follow. -/
inductive Leaf where
  | name (role : Role) (name : String)
  | literal (value : Literal)
  | body (stmts : List Stmt)

def Node.leaf? : Node → Option Leaf
  | expr role (.identifier _ name) => some (.name role name)
  | expr _ (.literal _ value) => some (.literal value)
  | block (.mk _ body) => some (.body body)
  | _ => none

def leaves (nodes : List Node) : List Leaf := nodes.filterMap Node.leaf?

@[simp] theorem leaves_nil : leaves [] = [] := rfl

@[simp] theorem leaves_append (before after : List Node) :
    leaves (before ++ after) = leaves before ++ leaves after := List.filterMap_append

theorem leaves_cons (node : Node) (nodes : List Node) :
    leaves (node :: nodes) = node.leaf?.toList ++ leaves nodes :=
  filterMap_cons_toList Node.leaf? node nodes

theorem leaves_trying (loc : Option Location) (block : Block) (handler : Option Catch)
    (finalizer : Option Block) :
    leaves (Stmt.trying loc block handler finalizer).nodes =
      leaves block.nodes ++ leaves (handler.elim [] Catch.nodes) ++
        leaves (finalizer.elim [] Block.nodes) := by
  cases handler <;> cases finalizer <;> simp [Stmt.nodes, leaves_cons, Node.leaf?]

theorem leaves_declarators (loc : Option Location) (names : List String) :
    leaves (declaratorNodes (names.map fun name => .mk loc (.identifier loc name) none)) =
      names.map (Leaf.name .declared) := by
  induction names with
  | nil => rfl
  | cons name names ih =>
    simp [declaratorNodes, Declarator.nodes, Expr.nodes, optionNodes, leaves_cons, Node.leaf?, ih]

/-- The names of a list are declared, without values, by the first statement of a body. -/
def Opens (names : List String) (body : List Stmt) : Prop :=
  names ≠ [] → ∃ loc rest,
    body = .declaring loc .let (names.map fun name => .mk loc (.identifier loc name) none) :: rest

end Target

namespace Lowering

/-- How leaves of a script become leaves of the target while some names are available and others may
not be made up. Names are made up and wait to be declared (`opened`) until a body declares them; they
may not be made up again (`later`). -/
inductive Lowers : (available reserved : List String) → List Script.Leaf → List Target.Leaf →
    (opened later : List String) → Prop where
  | nil : Lowers available reserved [] [] [] reserved
  /-- What is lowered first may end up anywhere in what is lowered next: functions are hoisted. -/
  | insert (first : Lowers available reserved source added opened middle)
      (next : Lowers available middle more (before ++ after) openedNext later) :
      Lowers available reserved (source ++ more) (before ++ added ++ after)
        (opened ++ openedNext) later
  | reorder (same : source.Perm other)
      (lowers : Lowers available reserved source target opened later) :
      Lowers available reserved other target opened later
  | name : Lowers available reserved [.name role x] [.name role x] [] reserved
  | literal : Lowers available reserved [.literal value] [.literal value] [] reserved
  /-- A virtual object is replaced by a name in the same role. -/
  | receiver (known : x ∈ available) :
      Lowers available reserved [.virtual role] [.name role x] [] reserved
  | reuse (known : x ∈ available) : Lowers available reserved [] [.name .plain x] [] reserved
  | floorDivision :
      Lowers available reserved [.floorDivision] [.name .plain "Math", .name .plain "floor"] [] reserved
  | apply : Lowers available reserved [.boundGenerator] [.name .plain "apply"] [] reserved
  /-- A name is assigned where it is made up, and available from there on. -/
  | mint (known : stem ∈ stems)
      (rest : Lowers (freeName stem reserved :: available) (freeName stem reserved :: reserved)
        source target opened later) :
      Lowers available reserved source (.name .assigned (freeName stem reserved) :: target)
        (freeName stem reserved :: opened) later
  | block : Lowers available reserved [] [.body body] [] reserved
  | scope (opens : Target.Opens opened body)
      (within : Target.leaves (Target.stmtNodes body) =
        opened.map (Target.Leaf.name .declared) ++ target)
      (inside : Lowers available reserved source target opened later) :
      Lowers available reserved source (.body body :: Target.leaves (Target.stmtNodes body)) [] later

namespace Lowers

theorem append (first : Lowers available reserved source target opened middle)
    (next : Lowers available middle more rest openedNext later) :
    Lowers available reserved (source ++ more) (target ++ rest) (opened ++ openedNext) later := by
  have behind : Lowers available middle more ([] ++ rest) openedNext later := next
  exact first.insert behind

/-- The names made up are supplied one after the other. -/
theorem supplied (lowers : Lowers available reserved source target opened later) :
    ∃ minted, Supplied reserved minted later ∧ opened.Sublist minted := by
  induction lowers with
  | insert _ _ ihFirst ihNext =>
    obtain ⟨minted, supplied, part⟩ := ihFirst
    obtain ⟨more, suppliedNext, partNext⟩ := ihNext
    exact ⟨minted ++ more, supplied.trans suppliedNext, part.append partNext⟩
  | reorder _ _ ih => exact ih
  | mint known _ ih =>
    obtain ⟨minted, supplied, part⟩ := ih
    exact ⟨_ :: minted, .next known supplied, part.cons_cons _⟩
  | scope _ _ _ ih =>
    obtain ⟨minted, supplied, -⟩ := ih
    exact ⟨minted, supplied, List.nil_sublist _⟩
  | _ => exact ⟨[], .none, List.nil_sublist _⟩

theorem grows (lowers : Lowers available reserved source target opened later) :
    reserved ⊆ later := by
  obtain ⟨minted, supplied, -⟩ := lowers.supplied
  rw [supplied.later_eq]
  exact List.subset_append_right _ _

end Lowers

end Lowering

end Offside
