import Mathlib.Data.List.Forall2
import Offside.Proofs.BodyPartition
import Offside.Proofs.FunctionForms

/-! What becomes of the functions and properties of a script. Each has its image in the target: one
function or property, but for generators that capture the surrounding `this`, which become an arrow
function and the generator that it calls. The target has no others. -/

namespace Offside

namespace Script

/-- A function, of which it matters whether it captures the surrounding `this`, or a property. -/
inductive Piece where
  | function (captures : Bool) (node : Function)
  | property (node : Property)

@[simp] def Node.piece? : Node → Option Piece
  | function place node => some (.function (node.bound.getD !place.inMethod) node)
  | property node => some (.property node)
  | _ => none

def pieces (nodes : List Node) : List Piece := nodes.filterMap Node.piece?

def Program.pieces (program : Program) : List Piece := Script.pieces program.nodes

@[simp] theorem pieces_nil : pieces [] = [] := rfl

@[simp] theorem pieces_cons (node : Node) (nodes : List Node) :
    pieces (node :: nodes) = node.piece?.toList ++ pieces nodes :=
  filterMap_cons_toList Node.piece? node nodes

@[simp] theorem pieces_append (before after : List Node) :
    pieces (before ++ after) = pieces before ++ pieces after := List.filterMap_append

/-- The role of an expression and what it holds have nothing to do with each other. -/
theorem pieces_role (place : Place) (role other : Role) (node : Expr) :
    pieces (node.nodes place role) = pieces (node.nodes place other) := by
  rw [Expr.nodes.eq_def place role, Expr.nodes.eq_def place other, pieces_cons, pieces_cons]
  rfl

@[simp] theorem pieces_assigned (place : Place) (node : Expr) :
    pieces (node.nodes place .assigned) = pieces (node.nodes place .plain) := pieces_role ..

@[simp] theorem pieces_declared (place : Place) (node : Expr) :
    pieces (node.nodes place .declared) = pieces (node.nodes place .plain) := pieces_role ..

@[simp] theorem pieces_alone (place : Place) (node : Stmt) :
    pieces (node.nodes place true) = pieces (node.nodes place false) := by
  rw [Stmt.nodes.eq_def place true, Stmt.nodes.eq_def place false, pieces_cons, pieces_cons]
  rfl

theorem pieces_trying (place : Place) (loc : Option Location) (block : Block)
    (handler : Option Catch) (finalizer : Option Block) :
    pieces ((Stmt.trying loc block handler finalizer).nodes place false) =
      pieces (block.nodes place) ++ pieces (handler.elim [] (Catch.nodes place)) ++
        pieces (finalizer.elim [] (Block.nodes place)) := by
  cases handler <;> cases finalizer <;> simp [Stmt.nodes]

end Script

namespace Target

inductive Piece where
  | function (node : Function)
  | arrow (node : Function)
  | property (node : Property)

@[simp] def Node.piece? : Node → Option Piece
  | expr _ (.function _ definition) => some (.function definition)
  | expr _ (.arrow _ definition) => some (.arrow definition)
  | property node => some (.property node)
  | _ => none

def pieces (nodes : List Node) : List Piece := nodes.filterMap Node.piece?

def Program.pieces (program : Program) : List Piece := Target.pieces program.nodes

@[simp] theorem pieces_nil : pieces [] = [] := rfl

@[simp] theorem pieces_cons (node : Node) (nodes : List Node) :
    pieces (node :: nodes) = node.piece?.toList ++ pieces nodes :=
  filterMap_cons_toList Node.piece? node nodes

@[simp] theorem pieces_append (before after : List Node) :
    pieces (before ++ after) = pieces before ++ pieces after := List.filterMap_append

theorem pieces_role (role other : Role) (node : Expr) :
    pieces (node.nodes role) = pieces (node.nodes other) := by
  rw [Expr.nodes.eq_def role, Expr.nodes.eq_def other, pieces_cons, pieces_cons]
  cases node <;> rfl

@[simp] theorem pieces_assigned (node : Expr) :
    pieces (node.nodes .assigned) = pieces (node.nodes .plain) := pieces_role ..

@[simp] theorem pieces_declared (node : Expr) :
    pieces (node.nodes .declared) = pieces (node.nodes .plain) := pieces_role ..

theorem pieces_trying (loc : Option Location) (block : Block) (handler : Option Catch)
    (finalizer : Option Block) :
    pieces (Stmt.trying loc block handler finalizer).nodes =
      pieces block.nodes ++ pieces (handler.elim [] Catch.nodes) ++
        pieces (finalizer.elim [] Block.nodes) := by
  cases handler <;> cases finalizer <;> simp [Stmt.nodes]

/-- Whether the expression is a function that is not an arrow function. -/
def Expr.isFunction : Expr → Bool
  | .function .. => true
  | _ => false

def Function.generator : Function → Bool
  | .mk _ _ _ _ generator _ => generator

end Target

namespace Lowering

theorem pieces_nameDeclaration (loc : Option Location) (names : List String) :
    Target.pieces (Target.stmtNodes (nameDeclaration loc names)) = [] := by
  have plain : Target.pieces (Target.declaratorNodes
      (names.map fun name => .mk loc (.identifier loc name) none)) = [] := by
    induction names with
    | nil => rfl
    | cons name names ih =>
      simp [Target.declaratorNodes, Target.Declarator.nodes, Target.Expr.nodes,
        Target.optionNodes, ih]
  unfold nameDeclaration
  split
  · rfl
  · simp [Target.stmtNodes, Target.Stmt.nodes, plain]

/-- A step gives a result in some pass. -/
def LowersTo (step : Lower α) (a : α) : Prop := ∃ pass later, step pass = (.ok a, later)

variable (vocabulary : Target.Vocabulary)

/-- What becomes of a function or a property. Parameters, bodies, keys and values are lowered. -/
inductive Becomes : Script.Piece → List Target.Piece → Prop
  | function {own loc : Option Location} {params : List Script.Expr} {body : Script.Block}
      {bound : Option Bool} {generator async : Bool} {params' : List Target.Expr}
      {body' : Target.Block} (inParams : LowersTo (lowerExprs vocabulary params) params')
      (inBody : LowersTo (lowerBlock vocabulary loc body) body') :
      Becomes (.function false (.mk own params body bound generator async))
        [.function (.mk (own.or loc) none params' body' generator async)]
  | arrow {own loc : Option Location} {params : List Script.Expr} {body : Script.Block}
      {bound : Option Bool} {async : Bool} {params' : List Target.Expr} {body' : Target.Block}
      (inParams : LowersTo (lowerExprs vocabulary params) params')
      (inBody : LowersTo (lowerBlock vocabulary loc body) body') :
      Becomes (.function true (.mk own params body bound false async))
        [.arrow (.mk (own.or loc) none params' body' false async)]
  /-- An arrow function takes the parameters and calls the generator, which has the body. -/
  | generator {own loc : Option Location} {params : List Script.Expr} {body : Script.Block}
      {bound : Option Bool} {params' : List Target.Expr} {body' : Target.Block}
      {inner : Target.Function} (inParams : LowersTo (lowerExprs vocabulary params) params')
      (inBody : LowersTo (lowerBlock vocabulary loc body) body')
      (generates : inner = .mk (own.or loc) none [] body' true false) :
      Becomes (.function true (.mk own params body bound true false))
        [.arrow (.mk (own.or loc) none params'
          (.mk loc [.returning loc (some (applyCall loc (.function loc inner)))]) false false),
          .function inner]
  | keyValue {loc : Option Location} {key value : Script.Expr} {key' value' : Target.Expr}
      (inKey : LowersTo (lowerExpr vocabulary key) key')
      (inValue : LowersTo (lowerExpr vocabulary value) value') :
      Becomes (.property (.keyValue loc key value))
        [.property (.mk loc key' value' .init false false false)]
  | method {loc : Option Location} {key : Script.Expr} {definition : Script.Function}
      {key' value' : Target.Expr} {method : Bool}
      (inKey : LowersTo (lowerExpr vocabulary key) key')
      (inValue : LowersTo (lowerFunction vocabulary (definition.loc.or loc) definition) value')
      (agrees : method = true ↔ value'.isFunction = true) :
      Becomes (.property (.method loc key definition))
        [.property (.mk loc key' value' .init method false false)]

/-- The pieces of the target are the images of those of the source, in some order: function
declarations are hoisted. -/
def Images (source : List Script.Piece) (target : List Target.Piece) : Prop :=
  ∃ images, List.Forall₂ (Becomes vocabulary) source images ∧ target.Perm images.flatten

variable {vocabulary}

namespace Images

variable {source more : List Script.Piece} {target others : List Target.Piece}

@[simp] theorem nil : Images vocabulary [] [] := ⟨[], .nil, .nil⟩

theorem append (first : Images vocabulary source target) (second : Images vocabulary more others) :
    Images vocabulary (source ++ more) (target ++ others) := by
  obtain ⟨images, becomes, same⟩ := first
  obtain ⟨rest, becomesRest, sameRest⟩ := second
  refine ⟨images ++ rest, List.rel_append becomes becomesRest, ?_⟩
  rw [List.flatten_append]
  exact same.append sameRest

theorem cons {piece : Script.Piece} {image : List Target.Piece}
    (becomes : Becomes vocabulary piece image) (rest : Images vocabulary source target) :
    Images vocabulary (piece :: source) (image ++ target) := by
  obtain ⟨images, becomesRest, same⟩ := rest
  exact ⟨image :: images, .cons becomes becomesRest, same.append_left image⟩

theorem reorder (images : Images vocabulary source target) (same : others.Perm target) :
    Images vocabulary source others := by
  obtain ⟨images, becomes, order⟩ := images
  exact ⟨images, becomes, same.trans order⟩

/-- Every piece of the target is in the image of some piece. -/
theorem origin (images : Images vocabulary source target) {piece : Target.Piece}
    (member : piece ∈ target) :
    ∃ origin image, Becomes vocabulary origin image ∧ piece ∈ image := by
  obtain ⟨images, becomes, same⟩ := images
  obtain ⟨image, among, inImage⟩ := List.mem_flatten.mp (same.mem_iff.mp member)
  clear same member
  induction becomes with
  | nil => cases among
  | @cons origin first _ _ becomes _ ih =>
    rcases List.mem_cons.mp among with rfl | later
    · exact ⟨origin, image, becomes, inImage⟩
    · exact ih later

end Images

theorem Becomes.arrow_plain {origin : Script.Piece} {image : List Target.Piece}
    (becomes : Becomes vocabulary origin image) {definition : Target.Function}
    (member : .arrow definition ∈ image) : definition.generator = false := by
  cases becomes <;> simp at member <;> cases member <;> rfl

theorem Becomes.method_function {origin : Script.Piece} {image : List Target.Piece}
    (becomes : Becomes vocabulary origin image) {loc : Option Location} {key value : Target.Expr}
    {kind : Target.PropertyKind} {shorthand computed : Bool}
    (member : .property (.mk loc key value kind true shorthand computed) ∈ image) :
    value.isFunction = true := by
  cases becomes with
  | method inKey inValue agrees =>
    simp at member
    obtain ⟨-, -, rfl, -, rfl, -⟩ := member
    exact agrees.mp rfl
  | function | arrow | generator | keyValue => simp at member

end Lowering

end Offside
