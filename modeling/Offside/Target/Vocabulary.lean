import Offside.Fault
import Offside.Target.Tree

/-! The kinds of nodes a target has. A node of any other kind is not built. -/

namespace Offside.Target

/-- Kind names, each once, in the order in which they were given. -/
structure Vocabulary where
  kinds : List String

namespace Vocabulary

def ofKinds (kinds : List String) : Vocabulary := ⟨kinds.eraseDups⟩

/-- Every kind of node. -/
def full : Vocabulary := ⟨NodeKind.all.map NodeKind.name⟩

/-- A target that lacks a kind. -/
def without (vocabulary : Vocabulary) (kind : String) : Vocabulary := ⟨vocabulary.kinds.erase kind⟩

def contains (vocabulary : Vocabulary) (kind : String) : Bool := vocabulary.kinds.contains kind

/-- The same kinds, in any order. -/
def sameAs (a b : Vocabulary) : Bool := a.kinds.all b.contains && b.kinds.all a.contains

def require (vocabulary : Vocabulary) (kind : String) : Except Fault Unit :=
  if vocabulary.contains kind then .ok () else .error (.unsupportedNode kind)

/-- Builds a node if the target has its kind. -/
def expr (vocabulary : Vocabulary) (node : Expr) : Except Fault Expr := do
  vocabulary.require node.kind.name
  return node

def stmt (vocabulary : Vocabulary) (node : Stmt) : Except Fault Stmt := do
  vocabulary.require node.kind.name
  return node

theorem contains_full (kind : NodeKind) : full.contains kind.name = true := by
  simpa [contains, full] using ⟨kind, kind.mem_all, rfl⟩

end Vocabulary

end Offside.Target
