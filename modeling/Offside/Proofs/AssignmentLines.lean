import Offside.Proofs.LayoutRoundTrip

/-! Texts of names and assignments, one statement a line, and what layout makes of them. -/

namespace Offside.Layout

open Lexer (shown)

/-- A name, or an assignment of one name to another. -/
inductive Statement where
  | name (word : Word)
  | assign (left right : Word)

namespace Statement

def chars : Statement → List Char
  | name word => word.chars
  | assign left right => left.chars ++ (' ' :: '=' :: ' ' :: right.chars)

def symbols : Statement → List Symbol
  | name word => [word.symbol]
  | assign left right => [left.symbol, (.assign, ['=']), right.symbol]

end Statement

/-- How statements are written: each on its own line, with one line feed or more between two of them
and any number at the end. -/
inductive Written : List Statement → List Char → Prop where
  | none (trailing : Nat) : Written [] (List.replicate trailing '\n')
  | last (statement : Statement) : Written [statement] statement.chars
  | next (statement : Statement) (further : Nat) (rest : Written statements text) :
      Written (statement :: statements)
        (statement.chars ++ (List.replicate (further + 1) '\n' ++ text))

/-- Between two statements a grammar sees one newline. -/
def symbolsOf : List Statement → List Symbol
  | [] => []
  | [statement] => statement.symbols
  | statement :: next :: more => statement.symbols ++ (.newline, []) :: symbolsOf (next :: more)

/-! ### Statements -/

private theorem firstToken_assign (rest : List Char) (offset : Nat) :
    Lexer.firstToken offset ('=' :: ' ' :: rest) Rule.table = .ok ⟨.assign, offset, ['=']⟩ := by
  have words : Stops Text.isWord ('=' :: ' ' :: rest) := by simp [Stops]; decide
  have blanks : Scan.blanks ('=' :: ' ' :: rest) = 0 := Scan.run_eq_zero (by simp [Stops])
  have newline : Scan.newline ('=' :: ' ' :: rest) = 0 := by
    have run : Scan.run Text.isBlank ('=' :: ' ' :: rest) = 0 :=
      Scan.run_eq_zero (by simp only [Stops, List.head?_cons, Option.mem_some]; rintro _ rfl; decide)
    simp only [Scan.newline, run, List.take_zero, ite_self]
  rw [Lexer.firstToken_unspelled (by decide) (by decide) (by decide), Rule.table]
  simp only [List.drop_succ_cons, List.drop_zero]
  rw [Lexer.firstToken_skip blanks, Lexer.firstToken_skip newline, Lexer.firstToken_skip rfl,
    Lexer.firstToken_skip rfl, Lexer.firstToken_skip (Scan.number_eq_zero (by decide) _),
    Lexer.firstToken_skip (Scan.wholeWord_eq_zero Scan.constants_ascii words),
    Lexer.firstToken_skip rfl, Lexer.firstToken_skip rfl, Lexer.firstToken_skip rfl,
    Lexer.firstToken_skip rfl]
  have taken : Scan.firstLength [Scan.pair [':'] ['='] (['='] ++ ' ' :: rest),
      Scan.oneOf ['='] (['='] ++ ' ' :: rest)] = ['='].length := rfl
  have named : Option.or none (Kind.ofName? (String.ofList ['='])) = some .assign := by decide
  exact Lexer.firstToken_take taken (List.cons_ne_nil _ _) named "assign" offset _

/-- The mark of an assignment shows one token, and the blanks around it nothing. -/
private theorem shown_assign {next : List Char} (begins : Begins next) (offset : Nat) :
    ∃ token later, token.kind = .assign ∧ symbol token = (.assign, ['=']) ∧
      shown offset (' ' :: '=' :: ' ' :: next) = .ok token :: shown later next := by
  have blank : ∀ c ∈ [' '], (c == ' ' || c == '\t') = true := by simp
  have mark : Stops (fun c => c == ' ' || c == '\t') ('=' :: ' ' :: next) := by simp [Stops]
  obtain ⟨first, before⟩ := shown_blanks blank mark offset
  have token := Lexer.shown_token (List.cons_ne_nil '=' []) (firstToken_assign next first) rfl
  obtain ⟨later, after⟩ := shown_blanks blank begins.ungapped (first + Text.byteLength ['='])
  refine ⟨⟨.assign, first, ['=']⟩, later, rfl, rfl, ?_⟩
  rw [← after]
  exact before.trans token

private theorem arrange_assign {token : Token} (assign : token.kind = .assign)
    (shows : shown offset cs = .ok token :: shown later rest) (before : Option Token)
    (levels : List Level) :
    arrange before levels offset cs = .ok token :: arrange (some token) levels later rest := by
  obtain ⟨kind, start, lexeme⟩ := token
  cases assign
  rw [arrange, shows, arrange]
  rfl

theorem Statement.begins (statement : Statement) (ends : AtLineEnd rest) :
    Begins (statement.chars ++ rest) := by
  cases statement with
  | name word => exact begins_word word (ends.stops (by decide))
  | assign left right =>
    rw [chars, List.append_assoc]
    exact begins_word left (by intro c head; cases head; decide)

/-- A statement is read back, and ends in a name. -/
theorem seen_statement (statement : Statement) (ends : AtLineEnd rest) (before : Option Token)
    (levels : List Level) (offset : Nat) :
    ∃ last later, last.kind = .identifier ∧
      seen (arrange before levels offset (statement.chars ++ rest)) =
        statement.symbols.map .ok ++ seen (arrange (some last) levels later rest) := by
  have stops : Stops Text.isWord rest := ends.stops (by decide)
  cases statement with
  | name word => exact seen_word word stops before levels offset
  | assign left right =>
    have gap : Stops Text.isWord (' ' :: '=' :: ' ' :: (right.chars ++ rest)) := by
      intro c head
      cases head
      decide
    obtain ⟨first, afterLeft, -, leftSeen⟩ := seen_word left gap before levels offset
    obtain ⟨mark, afterMark, kind, same, shows⟩ := shown_assign (begins_word right stops) afterLeft
    obtain ⟨last, later, identifier, rightSeen⟩ := seen_word right stops (some mark) levels afterMark
    refine ⟨last, later, identifier, ?_⟩
    rw [Statement.chars, List.append_assoc, List.cons_append, List.cons_append, List.cons_append,
      leftSeen, arrange_assign kind shows, seen_ok, same, rightSeen]
    rfl

/-! ### Texts -/

private theorem isBlank_of_mem_nil :
    ∀ c ∈ ([] : List Char), Text.isBlank c = true := List.forall_mem_nil _

/-- An empty line. -/
def emptyLine : Filler := ⟨[], isBlank_of_mem_nil, none⟩

theorem printFillers_emptyLines (count : Nat) :
    printFillers (List.replicate count emptyLine) = List.replicate count '\n' := by
  induction count with
  | zero => rfl
  | succ count ih =>
    rw [List.replicate_succ, List.replicate_succ, ← ih]
    rfl

private theorem printBreak_emptyLines (further : Nat) :
    printBreak (List.replicate further emptyLine) 0 = List.replicate (further + 1) '\n' := by
  rw [printBreak, printFillers_emptyLines, List.replicate_zero, List.replicate_succ']

theorem Written.atLineEnd_break (further : Nat) (text : List Char) :
    AtLineEnd (List.replicate (further + 1) '\n' ++ text) := by
  intro c head
  cases head
  rfl

theorem Written.begins (written : Written (statement :: statements) text) : Begins text := by
  cases written with
  | last =>
    have alone : Begins (statement.chars ++ []) := statement.begins (by simp [AtLineEnd])
    rwa [List.append_nil] at alone
  | next _ further rest => exact statement.begins (atLineEnd_break further _)

/-- Statements are read back from their text, with one newline between two of them. -/
theorem Written.seen (written : Written statements text) (before : Option Token) (offset : Nat) :
    seen (arrange before [] offset text) = (symbolsOf statements).map .ok := by
  induction written generalizing before offset with
  | none trailing =>
    rw [← printFillers_emptyLines, arrange_trailing]
    rfl
  | last statement =>
    obtain ⟨last, later, -, statementSeen⟩ :=
      seen_statement statement (by simp [AtLineEnd] : AtLineEnd []) before [] offset
    rw [List.append_nil] at statementSeen
    rw [statementSeen, symbolsOf]
    have nothing := arrange_trailing [] later (some last) []
    change arrange _ _ _ [] = _ at nothing
    rw [nothing]
    exact List.append_nil _
  | @next statements text statement further rest ih =>
    obtain ⟨last, later, identifier, statementSeen⟩ :=
      seen_statement statement (atLineEnd_break further text) before [] offset
    rw [statementSeen]
    cases statements with
    | nil =>
      obtain ⟨trailing, rfl⟩ : ∃ trailing, text = List.replicate trailing '\n' := by
        cases rest with
        | none trailing => exact ⟨trailing, rfl⟩
      rw [List.replicate_append_replicate, ← printFillers_emptyLines, arrange_trailing]
      exact List.append_nil _
    | cons next more =>
      obtain ⟨newline, after, sibling⟩ :=
        seen_sibling (List.replicate further emptyLine) 0 rest.begins later
      have outermost : closeWider 0 [] = (0, []) := rfl
      rw [← printBreak_emptyLines, sibling last [] identifier, outermost, ih, symbolsOf,
        List.map_append]
      rfl

end Offside.Layout
