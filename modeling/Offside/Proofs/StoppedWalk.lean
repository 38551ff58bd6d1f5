import Mathlib.Data.List.TakeWhile
import Offside.Script.Names
import Offside.Script.Walk

/-! Walks that stop. What a walk comes upon does not depend on the name it is to stop at: it is one list
of events, and the walk goes through it up to that name. So a stopped walk has recorded the front of the
full one. A walk that does not enter functions is a full walk over the script with its functions
emptied. -/

namespace Offside.Script

def Event.name? : Event → Option String
  | .node _ => none
  | .name word => some word

/-! ### Emptied functions -/

/-- The function without its parameters and with an empty body. -/
def Function.emptied : Function → Function
  | .mk loc _ (.mk own _) bound generator async => .mk loc [] (.mk own []) bound generator async

mutual

/-- The node with every function in it emptied. -/
def Expr.hollow : Expr → Expr
  | .identifier loc name => .identifier loc name
  | .literal loc value => .literal loc value
  | .thisObject loc => .thisObject loc
  | .virtualObject loc => .virtualObject loc
  | .array loc elements => .array loc (hollowExprs elements)
  | .object loc properties => .object loc (hollowProperties properties)
  | .function loc definition => .function loc definition.emptied
  | .unary loc op argument => .unary loc op argument.hollow
  | .binary loc op left right => .binary loc op left.hollow right.hollow
  | .logical loc op left right => .logical loc op left.hollow right.hollow
  | .conditional loc test consequent alternate =>
    .conditional loc test.hollow consequent.hollow alternate.hollow
  | .assignment loc op left right => .assignment loc op left.hollow right.hollow
  | .call loc callee arguments => .call loc callee.hollow (hollowExprs arguments)
  | .construct loc callee arguments => .construct loc callee.hollow (hollowExprs arguments)
  | .member loc object property computed => .member loc object.hollow property.hollow computed
  | .sequence loc items => .sequence loc (hollowExprs items)
  | .yielding loc argument delegate => .yielding loc (hollowOption argument) delegate
  | .awaiting loc argument => .awaiting loc argument.hollow
  | .compareChain loc operands operators => .compareChain loc (hollowExprs operands) operators

def hollowExprs : List Expr → List Expr
  | [] => []
  | expr :: exprs => expr.hollow :: hollowExprs exprs

def hollowOption : Option Expr → Option Expr
  | none => none
  | some expr => some expr.hollow

def Property.hollow : Property → Property
  | .keyValue loc key value => .keyValue loc key.hollow value.hollow
  | .method loc key definition => .method loc key.hollow definition.emptied

def hollowProperties : List Property → List Property
  | [] => []
  | property :: properties => property.hollow :: hollowProperties properties

def Block.hollow : Block → Block
  | .mk loc body => .mk loc (hollowStmts body)

def Catch.hollow : Catch → Catch
  | .mk loc param body => .mk loc (hollowOption param) body.hollow

def Declarator.hollow : Declarator → Declarator
  | .mk loc id init constant => .mk loc id.hollow (hollowOption init) constant

def hollowDeclarators : List Declarator → List Declarator
  | [] => []
  | declarator :: declarators => declarator.hollow :: hollowDeclarators declarators

def Stmt.hollow : Stmt → Stmt
  | .expression loc value => .expression loc value.hollow
  | .block loc body => .block loc body.hollow
  | .empty loc => .empty loc
  | .ifElse loc test consequent none => .ifElse loc test.hollow consequent.hollow none
  | .ifElse loc test consequent (some alternate) =>
    .ifElse loc test.hollow consequent.hollow (some alternate.hollow)
  | .whileLoop loc test body => .whileLoop loc test.hollow body.hollow
  | .doWhile loc body test => .doWhile loc body.hollow test.hollow
  | .forIn loc left right body => .forIn loc left.hollow right.hollow body.hollow
  | .forOf loc left right body => .forOf loc left.hollow right.hollow body.hollow
  | .returning loc argument => .returning loc (hollowOption argument)
  | .breaking loc => .breaking loc
  | .continuing loc => .continuing loc
  | .throwing loc argument => .throwing loc argument.hollow
  | .trying loc block none none => .trying loc block.hollow none none
  | .trying loc block (some handler) none => .trying loc block.hollow (some handler.hollow) none
  | .trying loc block none (some finalizer) => .trying loc block.hollow none (some finalizer.hollow)
  | .trying loc block (some handler) (some finalizer) =>
    .trying loc block.hollow (some handler.hollow) (some finalizer.hollow)
  | .declaring loc declarators => .declaring loc (hollowDeclarators declarators)
  | .function loc id definition => .function loc id.hollow definition.emptied
  | .assignment loc op left right => .assignment loc op left.hollow right.hollow
  | .cascade loc root steps degrees => .cascade loc root.hollow (hollowStmts steps) degrees
  | .yielding loc argument => .yielding loc (hollowOption argument)

def hollowStmts : List Stmt → List Stmt
  | [] => []
  | stmt :: stmts => stmt.hollow :: hollowStmts stmts

end

def Program.hollow (program : Program) : Program := { program with body := hollowStmts program.body }

namespace Walk

section

variable (nodes : Bool) (stopAt : Option String)

/-- A function that is not entered is as good as one with nothing in it. -/
theorem function_emptied : ∀ definition : Function,
    function ⟨nodes, false, stopAt⟩ definition = function ⟨nodes, true, stopAt⟩ definition.emptied
  | .mk _ _ (.mk _ _) _ _ _ => rfl

variable {nodes stopAt}

theorem enter_congr {part same : List Event → Except Halt (List Event)} (kind : String)
    (equal : part = same) :
    (fun record => part (enter ⟨nodes, false, stopAt⟩ kind record)) =
      fun record => same (enter ⟨nodes, true, stopAt⟩ kind record) := by
  rw [equal]
  rfl

theorem andThen_congr {part same rest sameRest : List Event → Except Halt (List Event)}
    (equal : part = same) (equalRest : rest = sameRest) :
    (fun record => part record >>= rest) = fun record => same record >>= sameRest := by
  rw [equal, equalRest]

variable (nodes stopAt)

mutual

/-- A walk that does not enter functions comes upon what is left when they are emptied. -/
theorem expr_hollow : ∀ node : Expr,
    expr ⟨nodes, false, stopAt⟩ node = expr ⟨nodes, true, stopAt⟩ node.hollow
  | .identifier .. | .literal .. | .thisObject _ | .virtualObject _ => rfl
  | .array _ items | .sequence _ items | .compareChain _ items _ => enter_congr _ (exprs_hollow items)
  | .object _ items => enter_congr _ (properties_hollow items)
  | .function _ definition => enter_congr _ (function_emptied nodes stopAt definition)
  | .unary _ _ argument | .awaiting _ argument => enter_congr _ (expr_hollow argument)
  | .binary _ _ left right | .logical _ _ left right | .assignment _ _ left right
  | .member _ left right _ => enter_congr _ (andThen_congr (expr_hollow left) (expr_hollow right))
  | .conditional _ test consequent alternate =>
    enter_congr _ (andThen_congr (expr_hollow test)
      (andThen_congr (expr_hollow consequent) (expr_hollow alternate)))
  | .call _ callee arguments | .construct _ callee arguments =>
    enter_congr _ (andThen_congr (expr_hollow callee) (exprs_hollow arguments))
  | .yielding _ argument _ => enter_congr _ (option_hollow argument)

theorem exprs_hollow : ∀ items : List Expr,
    exprs ⟨nodes, false, stopAt⟩ items = exprs ⟨nodes, true, stopAt⟩ (hollowExprs items)
  | [] => rfl
  | item :: items => andThen_congr (expr_hollow item) (exprs_hollow items)

theorem option_hollow : ∀ item : Option Expr,
    option ⟨nodes, false, stopAt⟩ item = option ⟨nodes, true, stopAt⟩ (hollowOption item)
  | none => rfl
  | some item => expr_hollow item

theorem property_hollow : ∀ node : Property,
    property ⟨nodes, false, stopAt⟩ node = property ⟨nodes, true, stopAt⟩ node.hollow
  | .keyValue _ key value => enter_congr _ (andThen_congr (expr_hollow key) (expr_hollow value))
  | .method _ key definition =>
    enter_congr _ (andThen_congr (expr_hollow key) (function_emptied nodes stopAt definition))

theorem properties_hollow : ∀ items : List Property,
    properties ⟨nodes, false, stopAt⟩ items = properties ⟨nodes, true, stopAt⟩ (hollowProperties items)
  | [] => rfl
  | item :: items => andThen_congr (property_hollow item) (properties_hollow items)

theorem block_hollow : ∀ node : Block,
    block ⟨nodes, false, stopAt⟩ node = block ⟨nodes, true, stopAt⟩ node.hollow
  | .mk _ body => stmts_hollow body

theorem handler_hollow : ∀ node : Catch,
    handler ⟨nodes, false, stopAt⟩ node = handler ⟨nodes, true, stopAt⟩ node.hollow
  | .mk _ param body => andThen_congr (option_hollow param) (block_hollow body)

theorem declarator_hollow : ∀ node : Declarator,
    declarator ⟨nodes, false, stopAt⟩ node = declarator ⟨nodes, true, stopAt⟩ node.hollow
  | .mk _ id init _ => andThen_congr (expr_hollow id) (option_hollow init)

theorem declarators_hollow : ∀ items : List Declarator,
    declarators ⟨nodes, false, stopAt⟩ items = declarators ⟨nodes, true, stopAt⟩ (hollowDeclarators items)
  | [] => rfl
  | item :: items => andThen_congr (declarator_hollow item) (declarators_hollow items)

theorem stmt_hollow : ∀ node : Stmt,
    stmt ⟨nodes, false, stopAt⟩ node = stmt ⟨nodes, true, stopAt⟩ node.hollow
  | .expression _ value | .throwing _ value => enter_congr _ (expr_hollow value)
  | .block _ body => enter_congr _ (block_hollow body)
  | .empty _ | .breaking _ | .continuing _ => rfl
  | .ifElse _ test consequent none =>
    enter_congr _ (andThen_congr (expr_hollow test) (stmt_hollow consequent))
  | .ifElse _ test consequent (some alternate) =>
    enter_congr _ (andThen_congr (expr_hollow test)
      (andThen_congr (stmt_hollow consequent) (stmt_hollow alternate)))
  | .whileLoop _ test body | .doWhile _ body test =>
    enter_congr _ (andThen_congr (expr_hollow test) (stmt_hollow body))
  | .forIn _ left right body | .forOf _ left right body =>
    enter_congr _ (andThen_congr (expr_hollow left) (andThen_congr (expr_hollow right) (stmt_hollow body)))
  | .returning _ argument | .yielding _ argument => enter_congr _ (option_hollow argument)
  | .trying _ body none none => enter_congr _ (block_hollow body)
  | .trying _ body (some clause) none =>
    enter_congr _ (andThen_congr (block_hollow body) (handler_hollow clause))
  | .trying _ body none (some finalizer) =>
    enter_congr _ (andThen_congr (block_hollow body) (block_hollow finalizer))
  | .trying _ body (some clause) (some finalizer) =>
    enter_congr _ (andThen_congr (block_hollow body)
      (andThen_congr (handler_hollow clause) (block_hollow finalizer)))
  | .declaring _ items => enter_congr _ (declarators_hollow items)
  | .function _ id definition =>
    enter_congr _ (andThen_congr (expr_hollow id) (function_emptied nodes stopAt definition))
  | .assignment _ _ left right => enter_congr _ (andThen_congr (expr_hollow left) (expr_hollow right))
  | .cascade _ root steps _ => enter_congr _ (andThen_congr (expr_hollow root) (stmts_hollow steps))

theorem stmts_hollow : ∀ items : List Stmt,
    stmts ⟨nodes, false, stopAt⟩ items = stmts ⟨nodes, true, stopAt⟩ (hollowStmts items)
  | [] => rfl
  | item :: items => andThen_congr (stmt_hollow item) (stmts_hollow items)

end

end

/-! ### The events of a walk -/

/-- Goes through events as a walk does that comes upon them. -/
def replay (stopAt : Option String) : List Event → List Event → Except Halt (List Event)
  | [], record => .ok record
  | .node kind :: events, record => replay stopAt events (.node kind :: record)
  | .name name :: events, record =>
    if stopAt = some name then .error ⟨name, record⟩ else replay stopAt events (.name name :: record)

private theorem replay_append (stopAt : Option String) (front back record : List Event) :
    replay stopAt (front ++ back) record = replay stopAt front record >>= replay stopAt back := by
  induction front generalizing record with
  | nil => rfl
  | cons event front ih =>
    cases event with
    | node kind => exact ih _
    | name name =>
      rw [List.cons_append, replay, replay]
      split
      · rfl
      · exact ih _

/-- A name that does not come up does not stop the walk. -/
theorem replay_of_absent {stopAt : Option String} {events : List Event}
    (absent : ∀ name ∈ stopAt, .name name ∉ events) (record : List Event) :
    replay stopAt events record = .ok (events.reverse ++ record) := by
  induction events generalizing record with
  | nil => rfl
  | cons event events ih =>
    have later : ∀ name ∈ stopAt, .name name ∉ events :=
      fun name stops member => absent name stops (List.mem_cons_of_mem event member)
    rw [List.reverse_cons, List.append_assoc, List.singleton_append]
    cases event with
    | node kind => exact ih later _
    | name name =>
      have other : stopAt ≠ some name := fun stops => absent name stops List.mem_cons_self
      rw [replay, if_neg other]
      exact ih later _

/-- The first time the name comes up, the walk stops with what it has recorded before. -/
private theorem replay_of_mem {name : String} {events : List Event} (present : .name name ∈ events)
    (record : List Event) : replay (some name) events record =
      .error ⟨name, (events.takeWhile (· ≠ .name name)).reverse ++ record⟩ := by
  induction events generalizing record with
  | nil => cases present
  | cons event events ih =>
    by_cases same : event = .name name
    · subst same
      simp [replay]
    · have later := (List.mem_cons.mp present).resolve_left (Ne.symm same)
      cases event with
      | node kind => simp [replay, ih later]
      | name found =>
        have different : name ≠ found := fun equal => same (congrArg Event.name equal.symm)
        simp [replay, ih later, different, different.symm]

/-- A part of a walk goes through events that do not depend on where the walk is to stop. Their names
are the given ones. -/
def Traces (names : List String) (part : Option String → List Event → Except Halt (List Event)) :
    Prop :=
  ∃ events, events.filterMap Event.name? = names ∧
    ∀ stopAt record, part stopAt record = replay stopAt events record

namespace Traces

variable {names more : List String}
  {part rest : Option String → List Event → Except Halt (List Event)}

theorem nothing : Traces [] fun _ record => .ok record := ⟨[], rfl, fun _ _ => rfl⟩

theorem name (nodes : Bool) (name : String) :
    Traces [name] fun stopAt => visit ⟨nodes, true, stopAt⟩ name :=
  ⟨[.name name], rfl, fun _ _ => rfl⟩

theorem enter (traces : Traces names part) (nodes : Bool) (kind : String) :
    Traces names fun stopAt record => part stopAt (Walk.enter ⟨nodes, true, stopAt⟩ kind record) := by
  obtain ⟨events, named, same⟩ := traces
  cases nodes with
  | false => exact ⟨events, named, fun stopAt record => same stopAt record⟩
  | true => exact ⟨.node kind :: events, named, fun stopAt record => same stopAt (.node kind :: record)⟩

theorem andThen (traces : Traces names part) (after : Traces more rest) :
    Traces (names ++ more) fun stopAt record => part stopAt record >>= rest stopAt := by
  obtain ⟨events, named, same⟩ := traces
  obtain ⟨others, namedOthers, sameOthers⟩ := after
  refine ⟨events ++ others, by rw [List.filterMap_append, named, namedOthers], fun stopAt record => ?_⟩
  dsimp only
  rw [same, replay_append, funext (sameOthers stopAt)]

end Traces

section

variable (nodes : Bool)

mutual

theorem traces_expr : ∀ node : Expr,
    Traces node.names fun stopAt => expr ⟨nodes, true, stopAt⟩ node
  | .identifier _ name => by
    rw [Expr.names]
    exact (Traces.name nodes name).enter nodes _
  | .literal .. | .thisObject _ | .virtualObject _ => by
    rw [Expr.names]
    exact Traces.nothing.enter nodes _
  | .array _ items | .sequence _ items | .compareChain _ items _ => by
    rw [Expr.names]
    exact (traces_exprs items).enter nodes _
  | .object _ items => by
    rw [Expr.names]
    exact (traces_properties items).enter nodes _
  | .function _ definition => by
    rw [Expr.names]
    exact (traces_function definition).enter nodes _
  | .unary _ _ argument | .awaiting _ argument => by
    rw [Expr.names]
    exact (traces_expr argument).enter nodes _
  | .binary _ _ left right | .logical _ _ left right | .assignment _ _ left right
  | .member _ left right _ => by
    rw [Expr.names]
    exact ((traces_expr left).andThen (traces_expr right)).enter nodes _
  | .conditional _ test consequent alternate => by
    rw [Expr.names, List.append_assoc]
    exact ((traces_expr test).andThen ((traces_expr consequent).andThen
      (traces_expr alternate))).enter nodes _
  | .call _ callee arguments | .construct _ callee arguments => by
    rw [Expr.names]
    exact ((traces_expr callee).andThen (traces_exprs arguments)).enter nodes _
  | .yielding _ argument _ => by
    rw [Expr.names]
    exact (traces_option argument).enter nodes _

theorem traces_exprs : ∀ items : List Expr,
    Traces (exprNames items) fun stopAt => exprs ⟨nodes, true, stopAt⟩ items
  | [] => by
    rw [exprNames]
    exact Traces.nothing
  | item :: items => by
    rw [exprNames]
    exact (traces_expr item).andThen (traces_exprs items)

theorem traces_option : ∀ item : Option Expr,
    Traces (optionNames item) fun stopAt => option ⟨nodes, true, stopAt⟩ item
  | none => by
    rw [optionNames]
    exact Traces.nothing
  | some item => by
    rw [optionNames]
    exact traces_expr item

theorem traces_property : ∀ node : Property,
    Traces node.names fun stopAt => property ⟨nodes, true, stopAt⟩ node
  | .keyValue _ key value => by
    rw [Property.names]
    exact ((traces_expr key).andThen (traces_expr value)).enter nodes _
  | .method _ key definition => by
    rw [Property.names]
    exact ((traces_expr key).andThen (traces_function definition)).enter nodes _

theorem traces_properties : ∀ items : List Property,
    Traces (propertyNames items) fun stopAt => properties ⟨nodes, true, stopAt⟩ items
  | [] => by
    rw [propertyNames]
    exact Traces.nothing
  | item :: items => by
    rw [propertyNames]
    exact (traces_property item).andThen (traces_properties items)

theorem traces_function : ∀ node : Function,
    Traces node.names fun stopAt => function ⟨nodes, true, stopAt⟩ node
  | .mk _ params body _ _ _ => by
    rw [Function.names]
    exact (traces_exprs params).andThen (traces_block body)

theorem traces_block : ∀ node : Block,
    Traces node.names fun stopAt => block ⟨nodes, true, stopAt⟩ node
  | .mk _ body => by
    rw [Block.names]
    exact traces_stmts body

theorem traces_handler : ∀ node : Catch,
    Traces node.names fun stopAt => handler ⟨nodes, true, stopAt⟩ node
  | .mk _ param body => by
    rw [Catch.names]
    exact (traces_option param).andThen (traces_block body)

theorem traces_declarator : ∀ node : Declarator,
    Traces node.names fun stopAt => declarator ⟨nodes, true, stopAt⟩ node
  | .mk _ id init _ => by
    rw [Declarator.names]
    exact (traces_expr id).andThen (traces_option init)

theorem traces_declarators : ∀ items : List Declarator,
    Traces (declaratorNames items) fun stopAt => declarators ⟨nodes, true, stopAt⟩ items
  | [] => by
    rw [declaratorNames]
    exact Traces.nothing
  | item :: items => by
    rw [declaratorNames]
    exact (traces_declarator item).andThen (traces_declarators items)

theorem traces_stmt : ∀ node : Stmt,
    Traces node.names fun stopAt => stmt ⟨nodes, true, stopAt⟩ node
  | .expression _ value | .throwing _ value => by
    rw [Stmt.names]
    exact (traces_expr value).enter nodes _
  | .block _ body => by
    rw [Stmt.names]
    exact (traces_block body).enter nodes _
  | .empty _ | .breaking _ | .continuing _ => by
    rw [Stmt.names]
    exact Traces.nothing.enter nodes _
  | .ifElse _ test consequent none => by
    rw [Stmt.names]
    exact ((traces_expr test).andThen (traces_stmt consequent)).enter nodes _
  | .ifElse _ test consequent (some alternate) => by
    rw [Stmt.names, List.append_assoc]
    exact ((traces_expr test).andThen ((traces_stmt consequent).andThen
      (traces_stmt alternate))).enter nodes _
  | .whileLoop _ test body | .doWhile _ body test => by
    rw [Stmt.names]
    exact ((traces_expr test).andThen (traces_stmt body)).enter nodes _
  | .forIn _ left right body | .forOf _ left right body => by
    rw [Stmt.names, List.append_assoc]
    exact ((traces_expr left).andThen ((traces_expr right).andThen
      (traces_stmt body))).enter nodes _
  | .returning _ argument | .yielding _ argument => by
    rw [Stmt.names]
    exact (traces_option argument).enter nodes _
  | .trying _ body none none => by
    rw [Stmt.names]
    exact (traces_block body).enter nodes _
  | .trying _ body (some clause) none => by
    rw [Stmt.names]
    exact ((traces_block body).andThen (traces_handler clause)).enter nodes _
  | .trying _ body none (some finalizer) => by
    rw [Stmt.names]
    exact ((traces_block body).andThen (traces_block finalizer)).enter nodes _
  | .trying _ body (some clause) (some finalizer) => by
    rw [Stmt.names, List.append_assoc]
    exact ((traces_block body).andThen ((traces_handler clause).andThen
      (traces_block finalizer))).enter nodes _
  | .declaring _ items => by
    rw [Stmt.names]
    exact (traces_declarators items).enter nodes _
  | .function _ id definition => by
    rw [Stmt.names]
    exact ((traces_expr id).andThen (traces_function definition)).enter nodes _
  | .assignment _ _ left right => by
    rw [Stmt.names]
    exact ((traces_expr left).andThen (traces_expr right)).enter nodes _
  | .cascade _ root steps _ => by
    rw [Stmt.names]
    exact ((traces_expr root).andThen (traces_stmts steps)).enter nodes _

theorem traces_stmts : ∀ items : List Stmt,
    Traces (stmtNames items) fun stopAt => stmts ⟨nodes, true, stopAt⟩ items
  | [] => by
    rw [stmtNames]
    exact Traces.nothing
  | item :: items => by
    rw [stmtNames]
    exact (traces_stmt item).andThen (traces_stmts items)

end

end

/-- A full walk over a program records events that have the names of the program, in order. A walk that
is to stop at a name records the same events up to the first time the name comes up, and stops there if
the name stands in the program at all. Without entering functions, a walk does what it would do if they
were emptied. -/
theorem stopped_walk_front (program : Program) (nodes : Bool) (name : String) :
    (∃ events, Walk.program ⟨nodes, true, none⟩ program = (events, none) ∧
      events.filterMap Event.name? = program.names ∧
      Walk.program ⟨nodes, true, some name⟩ program = (events.takeWhile (· ≠ .name name),
        if name ∈ program.names then some name else none)) ∧
    ∀ stopAt, Walk.program ⟨nodes, false, stopAt⟩ program =
      Walk.program ⟨nodes, true, stopAt⟩ program.hollow := by
  constructor
  · obtain ⟨events, named, plays⟩ := traces_stmts nodes program.body
    have same : ∀ stopAt, stmts ⟨nodes, true, stopAt⟩ program.body [] = replay stopAt events [] :=
      fun stopAt => plays stopAt []
    have listed : .name name ∈ events ↔ name ∈ program.names := by
      rw [Program.names, ← named, List.mem_filterMap]
      constructor
      · exact fun member => ⟨_, member, rfl⟩
      · rintro ⟨event, member, found⟩
        cases event with
        | node kind => cases found
        | name word =>
          cases found
          exact member
    refine ⟨events, ?_, named, ?_⟩
    · rw [Walk.program, same, replay_of_absent (by simp)]
      simp
    · rw [Walk.program, same]
      by_cases present : name ∈ program.names
      · rw [replay_of_mem (listed.mpr present), if_pos present]
        simp
      · have absent := fun member => present (listed.mp member)
        rw [replay_of_absent (by simpa using absent), if_neg present]
        rw [List.takeWhile_eq_self_iff.mpr]
        · simp
        · intro event member
          simpa using fun equal : event = .name name => absent (equal ▸ member)
  · intro stopAt
    rw [Walk.program, Walk.program, stmts_hollow]
    rfl

end Walk

end Offside.Script
