import Offside.Proofs.Outcomes

/-! Instances of templates are substitutions. An instance is the tree of its template with bound
expressions in place of the placeholders and one location on all other nodes. It takes a binding for
every placeholder and a vocabulary that has the kinds of those other nodes, and nothing else: neither
the bindings of other names nor later ones of the same name matter. -/

namespace Offside.Template

open Target (NodeKind)

/-! ### What a template asks for -/

mutual

/-- The kinds of the nodes of a template, each after those of its parts. Placeholders have none. -/
def Expr.kinds : Expr → List NodeKind
  | .placeholder _ => []
  | .identifier _ => [.identifier]
  | .number _ | .string _ => [.literal]
  | .thisObject => [.thisExpression]
  | .array elements => kindsOf elements ++ [.arrayExpression]
  | .unary _ argument => argument.kinds ++ [.unaryExpression]
  | .binary _ left right => left.kinds ++ (right.kinds ++ [.binaryExpression])
  | .logical _ left right => left.kinds ++ (right.kinds ++ [.logicalExpression])
  | .member object property _ => object.kinds ++ (property.kinds ++ [.memberExpression])
  | .call callee arguments => callee.kinds ++ (kindsOf arguments ++ [.callExpression])

def kindsOf : List Expr → List NodeKind
  | [] => []
  | expr :: exprs => expr.kinds ++ kindsOf exprs

end

def Stmt.kinds : Stmt → List NodeKind
  | .expression value => value.kinds ++ [.expressionStatement]
  | .returning none => [.returnStatement]
  | .returning (some argument) => argument.kinds ++ [.returnStatement]

def Stmt.holes : Stmt → List String
  | .expression value => value.holes
  | .returning none => []
  | .returning (some argument) => argument.holes

/-- The names of all placeholders in a template. -/
def holes (template : Template) : List String := template.body.flatMap Stmt.holes

/-- The kinds of all nodes in a template, its statements included. -/
def kinds (template : Template) : List NodeKind := template.body.flatMap Stmt.kinds

/-- Every name is bound and every kind is in the vocabulary. -/
structure Supplied (vocabulary : Target.Vocabulary) (bindings : Bindings) (names : List String)
    (kinds : List NodeKind) : Prop where
  bound : ∀ name ∈ names, name ∈ bindings.map Prod.fst
  known : ∀ kind ∈ kinds, vocabulary.contains kind.name = true

/-! ### What it becomes -/

/-- The expression that a name stands for, that of its first binding. A name without any stands for
itself. -/
def Bindings.value : Bindings → String → Target.Expr
  | [], name => .identifier none name
  | (bound, expr) :: more, name => if bound = name then expr else Bindings.value more name

section

variable (bindings : Bindings) (loc : Option Location)

mutual

/-- The tree of a template, with every placeholder replaced by what its name stands for and every other
node at one location. -/
def Expr.substitute : Expr → Target.Expr
  | .placeholder name => bindings.value name
  | .identifier name => .identifier loc name
  | .number value => .literal loc (.number value)
  | .string value => .literal loc (.string value)
  | .thisObject => .thisObject loc
  | .array elements => .array loc (substituteAll elements)
  | .unary op argument => .unary loc op argument.substitute
  | .binary op left right => .binary loc op left.substitute right.substitute
  | .logical op left right => .logical loc op left.substitute right.substitute
  | .member object property computed => .member loc object.substitute property.substitute computed
  | .call callee arguments => .call loc callee.substitute (substituteAll arguments)

def substituteAll : List Expr → List Target.Expr
  | [] => []
  | expr :: exprs => expr.substitute :: substituteAll exprs

end

def Stmt.substitute : Stmt → Target.Stmt
  | .expression value => .expression loc (value.substitute bindings loc)
  | .returning argument => .returning loc (argument.map (Expr.substitute bindings loc))

end

/-! ### How an instance comes out -/

theorem Bindings.find?_cons_of_ne {name other : String} (differs : other ≠ name) (expr : Target.Expr)
    (bindings : Bindings) : find? ((other, expr) :: bindings) name = find? bindings name := by
  rw [find?, List.find?_cons_of_neg (by simpa using differs)]
  rfl

theorem Bindings.find?_of_mem {bindings : Bindings} {name : String}
    (bound : name ∈ bindings.map Prod.fst) : bindings.find? name = some (bindings.value name) := by
  induction bindings with
  | nil => cases bound
  | cons binding bindings ih =>
    obtain ⟨other, expr⟩ := binding
    by_cases same : other = name
    · simp [find?, value, same]
    · have later : name ∈ bindings.map Prod.fst :=
        (List.mem_cons.mp bound).resolve_left (Ne.symm same)
      rw [find?_cons_of_ne same, ih later, value, if_neg same]

private theorem Bindings.find?_of_not_mem {bindings : Bindings} {name : String}
    (free : name ∉ bindings.map Prod.fst) : bindings.find? name = none := by
  rw [find?, Option.map_eq_none_iff, List.find?_eq_none]
  intro binding member same
  exact free (List.mem_map.mpr ⟨binding, member, by simpa using same⟩)

/-- All that can come of building something from names and kinds: it is built if they are supplied, and
else one that is not is the fault. -/
inductive Outcome (vocabulary : Target.Vocabulary) (bindings : Bindings) (names : List String)
    (kinds : List NodeKind) (built : α) : Except Fault α → Prop where
  | ok (supplied : Supplied vocabulary bindings names kinds) :
      Outcome vocabulary bindings names kinds built (.ok built)
  | unbound {name : String} (member : name ∈ names) (free : name ∉ bindings.map Prod.fst) :
      Outcome vocabulary bindings names kinds built (.error (.unboundPlaceholder name))
  | unknown {kind : NodeKind} (member : kind ∈ kinds)
      (lacking : vocabulary.contains kind.name = false) :
      Outcome vocabulary bindings names kinds built (.error (.unsupportedNode kind.name))

namespace Outcome

variable {vocabulary : Target.Vocabulary} {bindings : Bindings} {names others : List String}
  {kinds more : List NodeKind} {kind : NodeKind} {built : α} {last : β} {result : Except Fault α}

theorem eq_ok_iff (outcome : Outcome vocabulary bindings names kinds built result) {a : α} :
    result = .ok a ↔ Supplied vocabulary bindings names kinds ∧ a = built := by
  constructor
  · rintro rfl
    cases outcome with
    | ok supplied => exact ⟨supplied, rfl⟩
  · rintro ⟨supplied, rfl⟩
    cases outcome with
    | ok => rfl
    | unbound member free => exact absurd (supplied.bound _ member) free
    | unknown member lacking =>
      rw [supplied.known _ member] at lacking
      cases lacking

private theorem ne_templateForm (outcome : Outcome vocabulary bindings names kinds built result)
    (form : Form) : result ≠ .error (.templateForm form) := by
  rintro rfl
  cases outcome

theorem bind {next : α → Except Fault β} (first : Outcome vocabulary bindings names kinds built result)
    (second : Outcome vocabulary bindings others more last (next built)) :
    Outcome vocabulary bindings (names ++ others) (kinds ++ more) last (result >>= next) := by
  cases first with
  | unbound member free => exact .unbound (List.mem_append_left others member) free
  | unknown member lacking => exact .unknown (List.mem_append_left more member) lacking
  | ok supplied =>
    change Outcome vocabulary bindings _ _ last (next built)
    generalize next built = rest at second ⊢
    cases second with
    | unbound member free => exact .unbound (List.mem_append_right names member) free
    | unknown member lacking => exact .unknown (List.mem_append_right kinds member) lacking
    | ok also =>
      exact .ok ⟨List.forall_mem_append.mpr ⟨supplied.bound, also.bound⟩,
        List.forall_mem_append.mpr ⟨supplied.known, also.known⟩⟩

theorem pure (a : α) : Outcome vocabulary bindings [] [] a (.ok a) :=
  .ok ⟨List.forall_mem_nil _, List.forall_mem_nil _⟩

theorem map (first : Outcome vocabulary bindings names kinds built result) (f : α → β) :
    Outcome vocabulary bindings names kinds (f built) (result >>= fun a => .ok (f a)) := by
  have mapped : Outcome vocabulary bindings (names ++ []) (kinds ++ []) (f built)
      (result >>= fun a => .ok (f a)) := first.bind (pure (f built))
  rwa [List.append_nil, List.append_nil] at mapped

/-- A node is made after its parts. -/
theorem node {next : α → Except Fault β} (parts : Outcome vocabulary bindings names kinds built result)
    (made : Outcome vocabulary bindings [] [kind] last (next built)) :
    Outcome vocabulary bindings names (kinds ++ [kind]) last (result >>= next) := by
  have joined := parts.bind made
  rwa [List.append_nil] at joined

theorem require (kind : NodeKind) (a : α) :
    Outcome vocabulary bindings [] [kind] a (vocabulary.require kind.name >>= fun _ => .ok a) := by
  unfold Target.Vocabulary.require
  cases known : vocabulary.contains kind.name with
  | true => exact .ok ⟨List.forall_mem_nil _, List.forall_mem_singleton.mpr known⟩
  | false => exact .unknown (List.mem_singleton_self kind) known

theorem expr {node : Target.Expr} (own : node.kind = kind) :
    Outcome vocabulary bindings [] [kind] node (vocabulary.expr node) :=
  own ▸ require node.kind node

theorem stmt {node : Target.Stmt} (own : node.kind = kind) :
    Outcome vocabulary bindings [] [kind] node (vocabulary.stmt node) :=
  own ▸ require node.kind node

end Outcome

section

variable (vocabulary : Target.Vocabulary) (bindings : Bindings) (loc : Option Location)

mutual

theorem Expr.outcome : ∀ expr : Expr, Outcome vocabulary bindings expr.holes expr.kinds
    (expr.substitute bindings loc) (expr.instantiate vocabulary bindings loc)
  | .placeholder name => by
    -- The only node that is not built but looked up, and so the only one that asks for no kind.
    rw [Expr.instantiate]
    by_cases bound : name ∈ bindings.map Prod.fst
    · rw [Bindings.find?_of_mem bound]
      exact .ok ⟨List.forall_mem_singleton.mpr bound, List.forall_mem_nil _⟩
    · rw [Bindings.find?_of_not_mem bound]
      exact .unbound (List.mem_singleton_self name) bound
  | .identifier _ | .number _ | .string _ | .thisObject => by
    rw [Expr.instantiate]
    exact .expr rfl
  | .array elements => by
    rw [Expr.instantiate]
    exact (outcomeAll elements).node (.expr rfl)
  | .unary _ argument => by
    rw [Expr.instantiate]
    exact (Expr.outcome argument).node (.expr rfl)
  | .binary _ first second | .logical _ first second | .member first second _ => by
    rw [Expr.instantiate]
    exact (Expr.outcome first).bind ((Expr.outcome second).node (.expr rfl))
  | .call callee arguments => by
    rw [Expr.instantiate]
    exact (Expr.outcome callee).bind ((outcomeAll arguments).node (.expr rfl))

theorem outcomeAll : ∀ exprs : List Expr, Outcome vocabulary bindings (holesOf exprs) (kindsOf exprs)
    (substituteAll bindings loc exprs) (instantiateAll vocabulary bindings loc exprs)
  | [] => by
    rw [instantiateAll]
    exact .pure []
  | expr :: exprs => by
    rw [instantiateAll]
    exact (Expr.outcome expr).bind ((outcomeAll exprs).map _)

end

theorem Stmt.outcome (stmt : Stmt) : Outcome vocabulary bindings stmt.holes stmt.kinds
    (stmt.substitute bindings loc) (stmt.instantiate vocabulary bindings loc) := by
  cases stmt with
  | expression value => exact (value.outcome vocabulary bindings loc).node (.stmt rfl)
  | returning argument =>
    cases argument with
    | none => exact .stmt rfl
    | some argument => exact (argument.outcome vocabulary bindings loc).node (.stmt rfl)

/-- Statements are instantiated one after the other. -/
private theorem outcome_mapM (stmts : List Stmt) :
    Outcome vocabulary bindings (stmts.flatMap Stmt.holes) (stmts.flatMap Stmt.kinds)
      (stmts.map (Stmt.substitute bindings loc))
      (stmts.mapM (Stmt.instantiate vocabulary bindings loc)) := by
  induction stmts with
  | nil => exact .pure []
  | cons stmt stmts ih =>
    rw [List.mapM_cons]
    exact (stmt.outcome vocabulary bindings loc).bind (ih.map _)

end

/-! ### Bindings that do not matter -/

/-- The second bindings are the first ones with more of them put in: for names that are not used, or
after others of the same name. -/
inductive Padded (used : List String) (bindings : Bindings) : Bindings → Prop where
  | none : Padded used bindings bindings
  | add {front back : Bindings} {name : String} {expr : Target.Expr}
      (padded : Padded used bindings (front ++ back))
      (idle : name ∉ used ∨ name ∈ front.map Prod.fst) :
      Padded used bindings (front ++ (name, expr) :: back)

theorem Bindings.find?_append (front back : Bindings) (name : String) :
    find? (front ++ back) name = (find? front name).or (find? back name) := by
  rw [find?, find?, find?, List.find?_append, Option.map_or]

/-- A binding for another name is not found, and neither is one after another of its name. -/
private theorem Bindings.find?_insert {front back : Bindings} {name other : String}
    {expr : Target.Expr}
    (idle : other ≠ name ∨ other ∈ front.map Prod.fst) :
    find? (front ++ (other, expr) :: back) name = find? (front ++ back) name := by
  rw [find?_append, find?_append]
  by_cases same : other = name
  · -- The binding in front hides the one that is put in.
    have earlier := idle.resolve_left fun differs => differs same
    rw [find?_of_mem (same ▸ earlier), Option.some_or, Option.some_or]
  · rw [find?_cons_of_ne same]

theorem Padded.find? {used : List String} {bindings padded : Bindings} {name : String}
    (more : Padded used bindings padded) (member : name ∈ used) :
    padded.find? name = bindings.find? name := by
  induction more with
  | none => rfl
  | add padded idle ih =>
    rw [← ih]
    apply Bindings.find?_insert
    rcases idle with unused | earlier
    · exact .inl fun same => unused (same ▸ member)
    · exact .inr earlier

section

variable {vocabulary : Target.Vocabulary} {first second : Bindings} {loc : Option Location}

mutual

/-- An instance depends on what the placeholders are bound to, and on no other binding. -/
theorem Expr.instantiate_congr : ∀ expr : Expr,
    (∀ name ∈ expr.holes, first.find? name = second.find? name) →
    expr.instantiate vocabulary first loc = expr.instantiate vocabulary second loc
  | .placeholder name, same => by
    rw [Expr.instantiate, Expr.instantiate, same name (List.mem_singleton_self name)]
  | .identifier _, _ | .number _, _ | .string _, _ | .thisObject, _ => by
    rw [Expr.instantiate, Expr.instantiate]
  | .array elements, same => by
    rw [Expr.instantiate, Expr.instantiate, instantiateAll_congr elements same]
  | .unary _ argument, same => by
    rw [Expr.instantiate, Expr.instantiate, Expr.instantiate_congr argument same]
  | .binary _ left right, same | .logical _ left right, same | .member left right _, same => by
    obtain ⟨sameLeft, sameRight⟩ := List.forall_mem_append.mp same
    rw [Expr.instantiate, Expr.instantiate, Expr.instantiate_congr left sameLeft,
      Expr.instantiate_congr right sameRight]
  | .call callee arguments, same => by
    obtain ⟨sameCallee, sameArguments⟩ := List.forall_mem_append.mp same
    rw [Expr.instantiate, Expr.instantiate, Expr.instantiate_congr callee sameCallee,
      instantiateAll_congr arguments sameArguments]

theorem instantiateAll_congr : ∀ exprs : List Expr,
    (∀ name ∈ holesOf exprs, first.find? name = second.find? name) →
    instantiateAll vocabulary first loc exprs = instantiateAll vocabulary second loc exprs
  | [], _ => by rw [instantiateAll, instantiateAll]
  | expr :: exprs, same => by
    obtain ⟨sameFirst, sameRest⟩ := List.forall_mem_append.mp same
    rw [instantiateAll, instantiateAll, Expr.instantiate_congr expr sameFirst,
      instantiateAll_congr exprs sameRest]

end

theorem Stmt.instantiate_congr (stmt : Stmt)
    (same : ∀ name ∈ stmt.holes, first.find? name = second.find? name) :
    stmt.instantiate vocabulary first loc = stmt.instantiate vocabulary second loc := by
  cases stmt with
  | expression value => rw [instantiate, instantiate, value.instantiate_congr same]
  | returning argument =>
    cases argument with
    | none => rw [instantiate, instantiate]
    | some argument => rw [instantiate, instantiate, argument.instantiate_congr same]

private theorem mapM_instantiate_congr (stmts : List Stmt)
    (same : ∀ name ∈ stmts.flatMap Stmt.holes, first.find? name = second.find? name) :
    stmts.mapM (Stmt.instantiate vocabulary first loc) =
      stmts.mapM (Stmt.instantiate vocabulary second loc) := by
  induction stmts with
  | nil => rfl
  | cons stmt stmts ih =>
    rw [List.flatMap_cons, List.forall_mem_append] at same
    rw [List.mapM_cons, List.mapM_cons, stmt.instantiate_congr same.1, ih same.2]

end

/-! ### Templates of one expression or one statement -/

section

variable {template : Template} {vocabulary : Target.Vocabulary} {bindings : Bindings}
  {loc : Option Location}

theorem holes_of_single {stmt : Stmt} (single : template.body = [stmt]) :
    template.holes = stmt.holes := by
  rw [holes, single, List.flatMap_singleton]

theorem expression_of_single {expr : Expr} (single : template.body = [.expression expr]) :
    template.expression vocabulary bindings loc = expr.instantiate vocabulary bindings loc := by
  rw [expression, single]

theorem expression_of_other (other : ¬ ∃ expr, template.body = [.expression expr]) :
    template.expression vocabulary bindings loc = .error (.templateForm .expression) := by
  unfold expression
  split
  · rename_i expr single
    exact absurd ⟨expr, single⟩ other
  · rfl

theorem statement_of_single {stmt : Stmt} (single : template.body = [stmt]) :
    template.statement vocabulary bindings loc = stmt.instantiate vocabulary bindings loc := by
  rw [statement, single]

theorem statement_of_other (other : ¬ ∃ stmt, template.body = [stmt]) :
    template.statement vocabulary bindings loc = .error (.templateForm .statement) := by
  unfold statement
  split
  · rename_i stmt single
    exact absurd ⟨stmt, single⟩ other
  · rfl

/-- What is made of templates of one form only has the outcome of what fills the form. For all other
templates the form is the fault. -/
theorem form_outcome {pick : α → Stmt} {form : Form} {names : α → List String}
    {kinds : α → List NodeKind} {filled : α → β} {made : α → Except Fault β} {result : Except Fault β}
    (fits : ∀ a, template.body = [pick a] → result = made a)
    (other : (¬ ∃ a, template.body = [pick a]) → result = .error (.templateForm form))
    (outcome : ∀ a, Outcome vocabulary bindings (names a) (kinds a) (filled a) (made a)) :
    (∀ built, result = .ok built ↔ ∃ a, template.body = [pick a] ∧
      Supplied vocabulary bindings (names a) (kinds a) ∧ built = filled a) ∧
    (result = .error (.templateForm form) ↔ ¬ ∃ a, template.body = [pick a]) := by
  refine ⟨fun built => ⟨fun succeeded => ?_, ?_⟩, ⟨?_, other⟩⟩
  · by_cases single : ∃ a, template.body = [pick a]
    · obtain ⟨a, single⟩ := single
      rw [fits a single] at succeeded
      exact ⟨a, single, (outcome a).eq_ok_iff.mp succeeded⟩
    · rw [other single] at succeeded
      cases succeeded
  · rintro ⟨a, single, supplied⟩
    rw [fits a single]
    exact (outcome a).eq_ok_iff.mpr supplied
  · rintro failed ⟨a, single⟩
    rw [fits a single] at failed
    exact (outcome a).ne_templateForm form failed

/-- Bindings that do not matter change nothing, not even the fault. -/
theorem Padded.same {padded : Bindings} (more : Padded template.holes bindings padded) :
    template.program vocabulary padded loc = template.program vocabulary bindings loc ∧
    template.expression vocabulary padded loc = template.expression vocabulary bindings loc ∧
    template.statement vocabulary padded loc = template.statement vocabulary bindings loc := by
  have same : ∀ name ∈ template.holes, padded.find? name = bindings.find? name :=
    fun name member => more.find? member
  refine ⟨mapM_instantiate_congr template.body same, ?_, ?_⟩
  · by_cases single : ∃ expr, template.body = [.expression expr]
    · obtain ⟨expr, single⟩ := single
      rw [holes_of_single single] at same
      rw [expression_of_single single, expression_of_single single, expr.instantiate_congr same]
    · rw [expression_of_other single, expression_of_other single]
  · by_cases single : ∃ stmt, template.body = [stmt]
    · obtain ⟨stmt, single⟩ := single
      rw [holes_of_single single] at same
      rw [statement_of_single single, statement_of_single single, stmt.instantiate_congr same]
    · rw [statement_of_other single, statement_of_other single]

end

/-- An instance is there exactly if every placeholder is bound and the vocabulary has the kind of every
other node, and then it is the template with expressions in place of the placeholders. As a program a
template is instantiated whole. As an expression it is one expression without the statement around it,
and as a statement it is one statement; templates of any other form have no such instance. Bindings of
other names, and later ones of the same name, change nothing. -/
theorem instance_is_substitution (template : Template) (vocabulary : Target.Vocabulary)
    (bindings : Bindings) (loc : Option Location) :
    (∀ stmts, template.program vocabulary bindings loc = .ok stmts ↔
      Supplied vocabulary bindings template.holes template.kinds ∧
        stmts = template.body.map (Stmt.substitute bindings loc)) ∧
    ((∀ built, template.expression vocabulary bindings loc = .ok built ↔
      ∃ expr, template.body = [.expression expr] ∧
        Supplied vocabulary bindings expr.holes expr.kinds ∧ built = expr.substitute bindings loc) ∧
      (template.expression vocabulary bindings loc = .error (.templateForm .expression) ↔
        ¬ ∃ expr, template.body = [.expression expr])) ∧
    ((∀ built, template.statement vocabulary bindings loc = .ok built ↔
      ∃ stmt, template.body = [stmt] ∧
        Supplied vocabulary bindings stmt.holes stmt.kinds ∧ built = stmt.substitute bindings loc) ∧
      (template.statement vocabulary bindings loc = .error (.templateForm .statement) ↔
        ¬ ∃ stmt, template.body = [stmt])) ∧
    ∀ padded, Padded template.holes bindings padded →
      template.program vocabulary padded loc = template.program vocabulary bindings loc ∧
      template.expression vocabulary padded loc = template.expression vocabulary bindings loc ∧
      template.statement vocabulary padded loc = template.statement vocabulary bindings loc := by
  refine ⟨fun stmts => (outcome_mapM vocabulary bindings loc template.body).eq_ok_iff, ?_, ?_,
    fun padded more => more.same⟩
  · exact form_outcome (fun expr single => expression_of_single single) expression_of_other
      fun expr => expr.outcome vocabulary bindings loc
  · exact form_outcome (fun stmt single => statement_of_single single) statement_of_other
      fun stmt => stmt.outcome vocabulary bindings loc

/-- The operands of a division, by their names. -/
def operands : Bindings := [("left", .identifier none "a"), ("right", .identifier none "b")]

/-- Floor division needs no expression statement, and neither a third name nor a second left operand
changes it. -/
theorem instance_is_substitution_floor :
    ∃ template, compile Lowering.floorDivision = .ok template ∧
      Padded template.holes operands
        (("top", .thisObject none) :: (operands ++ [("left", .thisObject none)])) ∧
      template.expression (Target.Vocabulary.full.without "ExpressionStatement")
          (("top", .thisObject none) :: (operands ++ [("left", .thisObject none)])) none =
        .ok (Lowering.floorCall none (.identifier none "a") (.identifier none "b")) := by
  refine ⟨_, Lowering.compile_floorDivision, ?_⟩
  generalize compiled : Template.mk Lowering.floorDivision _ = template
  have names : template.holes = ["left", "right"] := by rw [← compiled]; rfl
  have doubled : Padded template.holes operands (operands ++ [("left", .thisObject none)]) :=
    @Padded.add _ _ operands [] _ _ (by rw [List.append_nil]; exact .none) (.inr (by decide))
  have padded : Padded template.holes operands
      (("top", .thisObject none) :: (operands ++ [("left", .thisObject none)])) :=
    @Padded.add _ _ [] _ _ _ doubled (.inl (by rw [names]; decide))
  obtain ⟨-, ⟨built, -⟩, -, same⟩ := instance_is_substitution template
    (Target.Vocabulary.full.without "ExpressionStatement") operands none
  rw [(same _ padded).2.1, built]
  refine ⟨padded, _, by rw [← compiled], ⟨by decide, by decide +kernel⟩, rfl⟩

end Offside.Template
