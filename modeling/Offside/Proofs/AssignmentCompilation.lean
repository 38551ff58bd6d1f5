import Offside.Compiler
import Offside.Grammar.Assignments
import Offside.Proofs.AssignmentLines
import Offside.Proofs.FaithfulCopy
import Offside.Proofs.StreamObservation

/-! Names and assignments are compiled line by line. The grammar of lines reads each statement back,
lowering makes one expression statement of it, and the emitter writes that as it stood in the source.
The window is no part of it, as long as memory has room for it. -/

namespace Offside

open Layout (Statement Symbol Word seen symbol symbolsOf)

namespace Layout.Statement

def text (statement : Statement) : String := String.ofList statement.chars

/-- The statement as it stands in a script, wherever it stood in the source. -/
inductive Reads : Statement → Script.Stmt → Prop where
  | name (word : Word) (loc own : Option Location) :
      Reads (.name word) (.expression loc (.identifier own (String.ofList word.chars)))
  | assign (left right : Word) (loc own other : Option Location) :
      Reads (.assign left right) (.assignment loc .assign
        (.identifier own (String.ofList left.chars)) (.identifier other (String.ofList right.chars)))

end Layout.Statement

open Layout.Statement (Reads)

/-! ### Reading lines -/

namespace Grammar

theorem seen_eq_cons {items : List Item} {rest : List (Except LexError Symbol)} {first : Symbol}
    (sees : seen items = .ok first :: rest) :
    ∃ token later, items = .ok token :: later ∧ symbol token = first ∧ seen later = rest := by
  obtain ⟨item, later, rfl, same, others⟩ := List.map_eq_cons_iff.mp sees
  cases item with
  | error fault => cases same
  | ok token => exact ⟨token, later, rfl, Except.ok.inj same, others⟩

theorem kind_of_symbol {token : Token} (same : symbol token = (kind, lexeme)) : token.kind = kind :=
  congrArg Prod.fst same

private theorem lexeme_of_symbol {token : Token} (same : symbol token = (kind, lexeme))
    (other : kind ≠ .newline) : token.lexeme = lexeme := by
  have kinds := kind_of_symbol same
  have texts := congrArg Prod.snd same
  rw [symbol, kinds, if_neg other] at texts
  exact texts

variable (source : Source) (last : Span) (state : Assignments)

/-- A token that ends no line joins it. -/
theorem feed_token {token : Token} (items : List Item) (inside : token.kind ≠ .newline) :
    assignments.feed source (.ok token :: items) last state =
      assignments.feed source items (token.span source)
        { state with line := state.line ++ [token.locate source] } := by
  have pushed : assignments.push state (token.locate source) =
      .ok { state with line := state.line ++ [token.locate source] } := if_neg inside
  rw [feed, pushed]

/-- A newline ends the line. -/
private theorem feed_newline {token : Token} (items : List Item) (newline : token.kind = .newline)
    {stmt : Script.Stmt} (read : Assignments.statement? state.line = .ok (some stmt)) :
    assignments.feed source (.ok token :: items) last state =
      assignments.feed source items (token.span source) ⟨[], state.body ++ [stmt]⟩ := by
  have pushed : assignments.push state (token.locate source) = .ok ⟨[], state.body ++ [stmt]⟩ := by
    change (if token.kind = .newline then state.endLine else _) = _
    rw [if_pos newline, Assignments.endLine, read]
    rfl
  rw [feed, pushed]

/-- The end of the source ends the line. -/
theorem feed_end {line : List Located} {stmt : Option Script.Stmt}
    (read : Assignments.statement? line = .ok stmt) (body : List Script.Stmt) :
    (assignments.feed source [] last ⟨line, body⟩).1 = .ok ⟨none, body ++ stmt.toList⟩ := by
  have finished : assignments.finish ⟨line, body⟩ = .ok ⟨none, body ++ stmt.toList⟩ := by
    change (do return Script.Program.mk none (← Assignments.endLine ⟨line, body⟩).body) = _
    rw [Assignments.endLine, read]
    rfl
  rw [feed, finished]

/-- A word stands in a script as the name it spells. -/
theorem name_locate {token : Token} {word : Word} (same : symbol token = word.symbol) :
    Assignments.name (token.locate source) =
      .identifier (some (token.location source)) (String.ofList word.chars) := by
  rw [← lexeme_of_symbol same (by decide)]
  rfl

/-- The tokens of a statement make a line that reads as the statement. -/
theorem feed_statement (statement : Statement) {items : List Item}
    {rest : List (Except LexError Symbol)}
    (sees : seen items = statement.symbols.map .ok ++ rest) (body : List Script.Stmt) :
    ∃ later line span stmt, seen later = rest ∧ Reads statement stmt ∧
      Assignments.statement? line = .ok (some stmt) ∧
      assignments.feed source items last ⟨[], body⟩ =
        assignments.feed source later span ⟨line, body⟩ := by
  cases statement with
  | name word =>
    obtain ⟨token, later, rfl, same, others⟩ := seen_eq_cons sees
    have kind := kind_of_symbol same
    have read : Assignments.statement? [token.locate source] =
        .ok (some (.expression (some (token.location source))
          (Assignments.name (token.locate source)))) := if_pos kind
    rw [name_locate source same] at read
    refine ⟨later, _, token.span source, _, others, .name word _ _, read, ?_⟩
    rw [feed_token source last _ later (by rw [kind]; decide)]
    rfl
  | assign left right =>
    obtain ⟨first, afterFirst, rfl, sameFirst, sees⟩ := seen_eq_cons sees
    obtain ⟨mark, afterMark, rfl, sameMark, sees⟩ := seen_eq_cons sees
    obtain ⟨second, later, rfl, sameSecond, others⟩ := seen_eq_cons sees
    have kindFirst := kind_of_symbol sameFirst
    have kindMark := kind_of_symbol sameMark
    have kindSecond := kind_of_symbol sameSecond
    have read : Assignments.statement?
        [first.locate source, mark.locate source, second.locate source] =
        .ok (some (.assignment (some ((first.location source).join (second.location source))) .assign
          (Assignments.name (first.locate source)) (Assignments.name (second.locate source)))) :=
      if_pos ⟨kindFirst, kindMark, kindSecond⟩
    rw [name_locate source sameFirst, name_locate source sameSecond] at read
    refine ⟨later, _, second.span source, _, others, .assign left right _ _ _, read, ?_⟩
    rw [feed_token source last _ _ (by rw [kindFirst]; decide),
      feed_token source _ _ _ (by rw [kindMark]; decide),
      feed_token source _ _ _ (by rw [kindSecond]; decide)]
    rfl

/-- The grammar reads the statements, in order. -/
private theorem feed_statements (statements : List Statement) {items : List Item}
    (sees : seen items = (symbolsOf statements).map .ok) (body : List Script.Stmt) :
    ∃ stmts, List.Forall₂ Reads statements stmts ∧
      (assignments.feed source items last ⟨[], body⟩).1 = .ok ⟨none, body ++ stmts⟩ := by
  induction statements generalizing items last body with
  | nil =>
    obtain rfl : items = [] := List.map_eq_nil_iff.mp sees
    have empty : Assignments.statement? [] = .ok none := rfl
    exact ⟨[], .nil, feed_end source last empty body⟩
  | cons statement statements ih =>
    cases statements with
    | nil =>
      rw [symbolsOf, ← List.append_nil (List.map _ _)] at sees
      obtain ⟨later, line, span, stmt, none, reads, read, fed⟩ :=
        feed_statement source last statement sees body
      obtain rfl : later = [] := List.map_eq_nil_iff.mp none
      refine ⟨[stmt], .cons reads .nil, ?_⟩
      rw [fed]
      exact feed_end source span read body
    | cons next more =>
      rw [symbolsOf, List.map_append] at sees
      obtain ⟨later, line, span, stmt, sees, reads, read, fed⟩ :=
        feed_statement source last statement sees body
      obtain ⟨token, rest, rfl, same, sees⟩ := seen_eq_cons sees
      obtain ⟨stmts, readsRest, fedRest⟩ := ih (token.span source) sees (body ++ [stmt])
      refine ⟨stmt :: stmts, .cons reads readsRest, ?_⟩
      rw [fed, feed_newline source span _ rest (kind_of_symbol same) read, fedRest, List.append_assoc]
      rfl

end Grammar

/-! ### Lowering and writing them -/

theorem Layout.Statement.text_assign (left right : Word) :
    (Statement.assign left right).text =
      String.ofList left.chars ++ " " ++ "=" ++ " " ++ String.ofList right.chars := by
  apply String.toList_inj.mp
  simp [text, chars]

/-- A statement is lowered to one that is written as it was. -/
private theorem lowers_statement {statement : Statement} {stmt : Script.Stmt}
    (reads : Reads statement stmt) :
    ∃ lowered, Lowering.lowerStmt .full stmt = pure (.single lowered) ∧
      Emitter.statement lowered = .ok (statement.text ++ ";\n") := by
  cases reads with
  | name word loc own => exact ⟨_, rfl, rfl⟩
  | assign left right loc own other =>
    refine ⟨_, rfl, ?_⟩
    rw [Statement.text_assign]
    rfl

/-- What a list of statements becomes is written one a line, in order. -/
private theorem lowers_statements {statements : List Statement} {stmts : List Script.Stmt}
    (reads : List.Forall₂ Reads statements stmts) :
    Lowering.Produces (fun lists => lists.length = stmts.length ∧
        lists.flatten.mapM Emitter.statement =
          .ok (statements.map fun statement => statement.text ++ ";\n"))
      (Lowering.lowerStmts .full stmts) := by
  induction reads with
  | nil =>
    rw [Lowering.lowerStmts]
    exact .pure ⟨rfl, rfl⟩
  | cons first _ ih =>
    obtain ⟨lowered, lowers, written⟩ := lowers_statement first
    obtain ⟨lists, lowersRest, same, writtenRest⟩ := ih
    refine ⟨[lowered] :: lists, ?_, by simp [same], ?_⟩
    · rw [Lowering.lowerStmts, lowers, lowersRest]
      rfl
    · rw [List.flatten_cons, List.singleton_append, List.mapM_cons, written, writtenRest]
      rfl

private theorem unhoisted_of_reads {statements : List Statement} {stmts : List Script.Stmt}
    (reads : List.Forall₂ Reads statements stmts) : ∀ stmt ∈ stmts, stmt.isHoisted = false := by
  induction reads with
  | nil => exact List.forall_mem_nil _
  | cons first _ ih =>
    refine List.forall_mem_cons.mpr ⟨?_, ih⟩
    cases first <;> rfl

/-- A script of statements is lowered, whatever templates were compiled before, and written. -/
private theorem lowers_script {statements : List Statement} {stmts : List Script.Stmt}
    (reads : List.Forall₂ Reads statements stmts) (templates : Template.Cache) :
    ∃ lowered, ((⟨.full, templates⟩ : Lowering.Engine).lower ⟨none, stmts⟩).1 = .ok lowered ∧
      Emitter.lines.emit lowered =
        .ok (String.join (statements.map fun statement => statement.text ++ ";\n")) := by
  have produces : Lowering.Produces (fun body => body.mapM Emitter.statement =
        .ok (statements.map fun statement => statement.text ++ ";\n"))
      (Lowering.listBody .full none stmts (Lowering.lowerStmts .full stmts)) :=
    .listBody none (unhoisted_of_reads reads) (lowers_statements reads)
  obtain ⟨body, lowers, written⟩ := produces
  refine ⟨⟨none, body, .script⟩, ?_, ?_⟩
  · rw [Lowering.Engine.lower_fst_eq_ok, Lowering.lowerProgram_eq, lowers]
    exact ⟨_, rfl, rfl⟩
  · change (do return String.join (← body.mapM Emitter.statement)) = _
    rw [written]
    rfl

/-! ### The whole way -/

namespace Compiler

variable {statements : List Statement} {text : List Char}

/-- What the parts of a compiler give, one after the other. -/
private theorem compile_eq_ok {compiler : Compiler} {grammar : Grammar ε σ} {emitter : Emitter δ}
    {source : Source} (parsed : (compiler.parse grammar source).result = .ok program)
    (lowers : (compiler.engine.lower program).1 = .ok lowered)
    (emitted : emitter.emit lowered = .ok output) :
    (compiler.compile grammar emitter source).result = .ok output := by
  simp only [compile, compileTree, parsed, lowers]
  change (emitter.emit lowered).mapError _ = _
  rw [emitted]
  rfl

theorem compile_eq_error {compiler : Compiler} {grammar : Grammar ε σ} {emitter : Emitter δ}
    {source : Source} (failed : (compiler.parse grammar source).result = .error error) :
    (compiler.compile grammar emitter source).result = .error error := by
  simp only [compile, compileTree, failed]
  rfl

/-- The items of a source do not depend on the window, if memory has room for it. -/
theorem items_eq (window : Nat) (engine : Lowering.Engine) (source : Source) :
    items ⟨{ window }, engine⟩ source 0 =
      if max window View.leastWindow * Recent.itemSize ≤ Memory.largest then
        .ok (Layout.arrange none [] 0 source.chars)
      else .error (.window ⟨max window View.leastWindow, Recent.itemSize⟩) := by
  unfold items
  rw [Layout.Stream.create_eq]
  by_cases room : max window View.leastWindow * Recent.itemSize ≤ Memory.largest
  · rw [if_pos room, if_pos room, ← Layout.items_eq_arrange]
    exact congrArg Except.ok (Layout.items_window window 10 _ source 0)
  · rw [if_neg room, if_neg room]

/-- Names and assignments, one statement a line, are compiled to the same statements, each with a
semicolon and a line feed after it, in order. Any window will do for which memory has room; for any
other there is no result. -/
theorem compile_assignments {statements : List Statement} {text : List Char}
    (written : Layout.Written statements text) {window : Nat} (positive : 0 < window)
    (templates : Template.Cache) (name : String) (id : Nat) :
    create { window } .full = .ok ⟨{ window }, ⟨.full, {}⟩⟩ ∧
    (compile ⟨{ window }, ⟨.full, templates⟩⟩ Grammar.assignments Emitter.lines
        ⟨name, String.ofList text, id⟩).result =
      if max window View.leastWindow * Recent.itemSize ≤ Memory.largest then
        .ok (String.join (statements.map fun statement => statement.text ++ ";\n"))
      else .error (.window ⟨max window View.leastWindow, Recent.itemSize⟩) := by
  have items := items_eq window ⟨.full, templates⟩ ⟨name, String.ofList text, id⟩
  have chars : Source.chars ⟨name, String.ofList text, id⟩ = text := String.toList_ofList
  constructor
  · have some : ({ window } : Layout.Options).window ≠ 0 := Nat.ne_of_gt positive
    rw [create, if_neg some]
    rfl
  · split
    · rename_i room
      rw [if_pos room, chars] at items
      obtain ⟨stmts, reads, read⟩ := Grammar.feed_statements ⟨name, String.ofList text, id⟩
        _ statements (written.seen none 0) []
      obtain ⟨lowered, lowers, emitted⟩ := lowers_script reads templates
      refine compile_eq_ok ?_ lowers emitted
      simp only [parse, items, Grammar.parse]
      exact congrArg (Except.mapError Error.parsing) read
    · rename_i short
      rw [if_neg short] at items
      apply compile_eq_error
      simp only [parse, items]

/-- A name and an assignment of names that begin with keywords. -/
def keywordLike : List Statement :=
  [.name ⟨'x', ['1'], by decide, List.all_eq_true.mp rfl, by decide⟩,
    .assign ⟨'d', ['o', '_'], by decide, List.all_eq_true.mp rfl, by decide⟩
      ⟨'i', ['n', 'f'], by decide, List.all_eq_true.mp rfl, by decide⟩]

theorem compile_assignments_keywordLike :
    Layout.Written keywordLike "x1\n\ndo_ = inf\n".toList ∧
      (compile ⟨{ window := 1 }, ⟨.full, {}⟩⟩ Grammar.assignments Emitter.lines
        ⟨"<anonymous>", String.ofList "x1\n\ndo_ = inf\n".toList, 0⟩).result =
        .ok "x1;\ndo_ = inf;\n" := by
  have written : Layout.Written keywordLike "x1\n\ndo_ = inf\n".toList :=
    .next _ 1 (.next _ 0 (.none 0))
  refine ⟨written, ?_⟩
  rw [(compile_assignments written Nat.one_pos {} "<anonymous>" 0).2]
  decide

/-- A window of `2 ^ 63` tokens has no room in memory, and then not even one name is compiled. -/
theorem huge_window_uncompiled :
    Layout.Written [.name ⟨'a', [], by decide, List.all_eq_true.mp rfl, by decide⟩] "a".toList ∧
      create { window := 9223372036854775808 } .full =
        .ok ⟨{ window := 9223372036854775808 }, {}⟩ ∧
      (compile ⟨{ window := 9223372036854775808 }, {}⟩ Grammar.assignments Emitter.lines
        (.anonymous "a")).result = .error (.window ⟨9223372036854775808, 32⟩) := by
  refine ⟨.last _, rfl, ?_⟩
  apply compile_eq_error
  simp only [parse, items_eq]
  rfl

end Compiler

end Offside
