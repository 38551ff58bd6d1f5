import Offside.Proofs.Nodes

/-! Where the nodes of a tree stand in the text. In a script only programs, statements, expressions and
properties have to say so; the other nodes may leave it to the node around them. -/

namespace Offside

namespace Target

@[simp] def Expr.loc : Expr → Option Location
  | .identifier loc _ | .literal loc _ | .thisObject loc | .array loc _ | .object loc _
  | .function loc _ | .arrow loc _ | .unary loc _ _ | .binary loc _ _ _ | .logical loc _ _ _
  | .conditional loc _ _ _ | .assignment loc _ _ _ | .call loc _ _ | .construct loc _ _
  | .member loc _ _ _ | .sequence loc _ | .yielding loc _ _ | .awaiting loc _ => loc

@[simp] def Property.loc : Property → Option Location
  | .mk loc _ _ _ _ _ _ => loc

@[simp] def Function.loc : Function → Option Location
  | .mk loc _ _ _ _ _ => loc

@[simp] def Block.loc : Block → Option Location
  | .mk loc _ => loc

@[simp] def Catch.loc : Catch → Option Location
  | .mk loc _ _ => loc

@[simp] def Declarator.loc : Declarator → Option Location
  | .mk loc _ _ => loc

@[simp] def Stmt.loc : Stmt → Option Location
  | .expression loc _ | .block loc _ | .empty loc | .ifElse loc _ _ _ | .whileLoop loc _ _
  | .doWhile loc _ _ | .forIn loc _ _ _ | .forOf loc _ _ _ | .returning loc _ | .breaking loc
  | .continuing loc | .throwing loc _ | .trying loc _ _ _ | .declaring loc _ _ => loc

@[simp] def Node.loc : Node → Option Location
  | .expr _ node => node.loc
  | .property node => node.loc
  | .function node => node.loc
  | .block node => node.loc
  | .handler node => node.loc
  | .declarator node => node.loc
  | .stmt node => node.loc

/-- The locations in a program. -/
def Program.locations (program : Program) : List Location :=
  program.loc.toList ++ program.nodes.filterMap Node.loc

/-- The program and all its nodes say where they stand. -/
def Program.Located (program : Program) : Prop :=
  program.loc.isSome = true ∧ ∀ node ∈ program.nodes, node.loc.isSome = true

end Target

namespace Script

def Property.loc : Property → Option Location
  | .keyValue loc _ _ | .method loc _ _ => loc

def Block.loc : Block → Option Location
  | .mk loc _ => loc

def Catch.loc : Catch → Option Location
  | .mk loc _ _ => loc

def Declarator.loc : Declarator → Option Location
  | .mk loc _ _ _ => loc

namespace Node

def loc : Node → Option Location
  | expr _ _ node => node.loc
  | property node => node.loc
  | function _ node => node.loc
  | block node => node.loc
  | handler node => node.loc
  | declarator node => node.loc
  | stmt _ node => node.loc

/-- Statements, expressions and properties. -/
def isMain : Node → Bool
  | expr .. | property _ | stmt .. => true
  | _ => false

end Node

/-- The locations in a program. -/
def Program.locations (program : Program) : List Location :=
  program.loc.toList ++ program.nodes.filterMap Node.loc

/-- The program and its statements, expressions and properties say where they stand. -/
def Program.Located (program : Program) : Prop :=
  program.loc.isSome = true ∧ ∀ node ∈ program.nodes, node.isMain = true → node.loc.isSome = true

/-- A node with a location of a kind, or one that need not have any and has none. -/
structure Node.Lends (kind : Option Location → Prop) (node : Node) : Prop where
  main : node.isMain = true → kind node.loc
  given : ∀ loc, node.loc = some loc → kind (some loc)

theorem Node.Lends.or {node : Node} {around : Option Location} (lends : node.Lends kind)
    (known : kind around) : kind (node.loc.or around) := by
  cases own : node.loc with
  | none => exact known
  | some loc => exact lends.given loc own

/-- What holds of the nodes of a `try` holds of it and of the nodes of its parts. -/
theorem forall_trying {holds : Node → Prop} {place : Place} {block : Block}
    {handler : Option Catch} {finalizer : Option Block} :
    (∀ node ∈ (Stmt.trying loc block handler finalizer).nodes place alone, holds node) ↔
      holds (.stmt alone (.trying loc block handler finalizer)) ∧
        (∀ node ∈ block.nodes place, holds node) ∧
        (∀ clause ∈ handler, ∀ node ∈ Catch.nodes place clause, holds node) ∧
        ∀ body ∈ finalizer, ∀ node ∈ Block.nodes place body, holds node := by
  cases handler <;> cases finalizer <;>
    simp only [Stmt.nodes, List.forall_mem_cons, List.forall_mem_append] <;>
    simp [and_assoc]

/-- All nodes of a list lend locations of a kind. -/
def Lend (kind : Option Location → Prop) (nodes : List Node) : Prop :=
  ∀ node ∈ nodes, node.Lends kind

@[simp] theorem lend_cons : Lend kind (node :: nodes) ↔ node.Lends kind ∧ Lend kind nodes :=
  List.forall_mem_cons

@[simp] theorem lend_append :
    Lend kind (before ++ after) ↔ Lend kind before ∧ Lend kind after :=
  List.forall_mem_append

end Script

namespace Target

/-- All nodes of a list have locations of a kind. -/
def Stand (kind : Option Location → Prop) (nodes : List Node) : Prop :=
  ∀ node ∈ nodes, kind node.loc

@[simp] theorem stand_nil : Stand kind [] := by simp [Stand]

@[simp] theorem stand_cons : Stand kind (node :: nodes) ↔ kind node.loc ∧ Stand kind nodes :=
  List.forall_mem_cons

@[simp] theorem stand_append :
    Stand kind (before ++ after) ↔ Stand kind before ∧ Stand kind after :=
  List.forall_mem_append

theorem stand_role (role : Role) (expr : Expr) :
    Stand kind (expr.nodes role) ↔ Stand kind (expr.nodes .plain) := by
  cases expr <;> simp [Expr.nodes]

@[simp] theorem stand_assigned (expr : Expr) :
    Stand kind (expr.nodes .assigned) ↔ Stand kind (expr.nodes .plain) := stand_role _ expr

@[simp] theorem stand_declared (expr : Expr) :
    Stand kind (expr.nodes .declared) ↔ Stand kind (expr.nodes .plain) := stand_role _ expr

theorem stand_stmtNodes :
    Stand kind (stmtNodes stmts) ↔ ∀ stmt ∈ stmts, Stand kind stmt.nodes := by
  induction stmts with
  | nil => simp [stmtNodes]
  | cons stmt stmts ih => simp [stmtNodes, ih]

end Target

end Offside
