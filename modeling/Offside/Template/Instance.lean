import Offside.Target.Vocabulary

/-! Instances of templates. Placeholders are replaced by the expressions bound to their names, and all
other nodes are given one location. -/

namespace Offside.Template

/-- Expressions by name. Of two for one name the first counts. -/
abbrev Bindings := List (String × Target.Expr)

def Bindings.find? (bindings : Bindings) (name : String) : Option Target.Expr :=
  (List.find? (fun binding => binding.1 == name) bindings).map Prod.snd

variable (vocabulary : Target.Vocabulary) (bindings : Bindings) (loc : Option Location)

mutual

def Expr.instantiate : Expr → Except Fault Target.Expr
  | .placeholder name =>
    match bindings.find? name with
    | some expr => .ok expr
    | none => .error (.unboundPlaceholder name)
  | .identifier name => vocabulary.expr (.identifier loc name)
  | .number value => vocabulary.expr (.literal loc (.number value))
  | .string value => vocabulary.expr (.literal loc (.string value))
  | .thisObject => vocabulary.expr (.thisObject loc)
  | .array elements => do vocabulary.expr (.array loc (← instantiateAll elements))
  | .unary op argument => do vocabulary.expr (.unary loc op (← argument.instantiate))
  | .binary op left right => do
    let left ← left.instantiate
    vocabulary.expr (.binary loc op left (← right.instantiate))
  | .logical op left right => do
    let left ← left.instantiate
    vocabulary.expr (.logical loc op left (← right.instantiate))
  | .member object property computed => do
    let object ← object.instantiate
    vocabulary.expr (.member loc object (← property.instantiate) computed)
  | .call callee arguments => do
    let callee ← callee.instantiate
    vocabulary.expr (.call loc callee (← instantiateAll arguments))

def instantiateAll : List Expr → Except Fault (List Target.Expr)
  | [] => .ok []
  | expr :: exprs => do
    let first ← expr.instantiate
    return first :: (← instantiateAll exprs)

end

def Stmt.instantiate : Stmt → Except Fault Target.Stmt
  | .expression value => do
    vocabulary.stmt (.expression loc (← value.instantiate vocabulary bindings loc))
  | .returning none => vocabulary.stmt (.returning loc none)
  | .returning (some argument) => do
    vocabulary.stmt (.returning loc (some (← argument.instantiate vocabulary bindings loc)))

end Offside.Template

namespace Offside.Template

def compile (source : String) : Except Fault Template :=
  match parse source with
  | .ok body => .ok ⟨source, body⟩
  | .error leftover =>
    if leftover.column ≤ Text.widestField then .error (.templateSyntax leftover)
    else .error (.templateWidth leftover.column)

variable (vocabulary : Target.Vocabulary) (bindings : Bindings) (loc : Option Location)

/-- The one expression of a template. -/
def expression (template : Template) : Except Fault Target.Expr :=
  match template.body with
  | [.expression value] => value.instantiate vocabulary bindings loc
  | _ => .error (.templateForm .expression)

/-- The one statement of a template. -/
def statement (template : Template) : Except Fault Target.Stmt :=
  match template.body with
  | [stmt] => stmt.instantiate vocabulary bindings loc
  | _ => .error (.templateForm .statement)

/-- All statements of a template. -/
def program (template : Template) : Except Fault (List Target.Stmt) :=
  template.body.mapM (Stmt.instantiate vocabulary bindings loc)

/-- Compiled templates, found by their text. -/
structure Cache where
  compiled : List Template := []

namespace Cache

def find? (cache : Cache) (source : String) : Option Template :=
  cache.compiled.find? fun template => template.source == source

def size (cache : Cache) : Nat := cache.compiled.length

def isEmpty (cache : Cache) : Bool := cache.compiled.isEmpty

/-- The template of a text, compiled if it was not yet. A text that does not compile leaves no
trace. -/
def get (cache : Cache) (source : String) : Except Fault Template × Cache :=
  match cache.find? source with
  | some template => (.ok template, cache)
  | none =>
    match compile source with
    | .ok template => (.ok template, ⟨cache.compiled ++ [template]⟩)
    | .error fault => (.error fault, cache)

end Cache

end Offside.Template
