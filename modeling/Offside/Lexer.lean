import Offside.Lexer.Rule
import Offside.Token.Supply

/-! The lexer: a position in a source from which tokens are taken one by one. Every token takes at
least one character, so a lexer runs dry; the first error ends it. -/

namespace Offside

structure Lexer where
  rules : List Rule
  /-- Where the next token starts. -/
  offset : Nat
  /-- The text from there on, unless the offset points into a character. -/
  rest : Option (List Char)
  finished : Bool

namespace Lexer

/-- A lexer at a byte offset. Past the end there is nothing to lex. -/
def ofText (rules : List Rule) (cs : List Char) (offset : Nat) : Lexer where
  rules := rules
  offset := offset
  rest :=
    if Text.byteLength cs ≤ offset then some [] else (Text.splitBytes? offset cs).map Prod.snd
  finished := false

def ofSource (source : Source) (offset : Nat) : Lexer := ofText Rule.table source.chars offset

/-- The token at the start of a text, by the first rule that applies. -/
def firstToken (offset : Nat) (cs : List Char) : List Rule → Item
  | [] => .error (.noRule offset)
  | rule :: rules =>
    match rule.apply cs with
    | .noMatch => firstToken offset cs rules
    | .unterminated => .error (.unclosedString offset)
    | .matched n =>
      match rule.kindOf (cs.take n) with
      | some kind => .ok ⟨kind, offset, cs.take n⟩
      | none => .error (.untyped (cs.take n) offset)

theorem lexeme_of_firstToken {offset : Nat} {cs : List Char} {rules : List Rule} {token : Token}
    (found : firstToken offset cs rules = .ok token) :
    ∃ n, 0 < n ∧ token.lexeme = cs.take n ∧ token.start = offset := by
  induction rules with
  | nil => simp [firstToken] at found
  | cons rule rules ih =>
    simp only [firstToken] at found
    split at found
    · exact ih found
    · contradiction
    · rename_i n taken
      split at found
      · simp only [Except.ok.injEq] at found
        subst found
        exact ⟨n, Rule.length_pos_of_apply taken, rfl, rfl⟩
      · contradiction

/-- The next item, and the lexer after it. -/
def next (lexer : Lexer) : Option Item × Lexer :=
  if lexer.finished then (none, lexer)
  else
    match lexer.rest with
    | none => (some (.error (.noRule lexer.offset)), { lexer with finished := true })
    | some [] => (none, { lexer with finished := true })
    | some (c :: cs) =>
      match firstToken lexer.offset (c :: cs) lexer.rules with
      | .ok token =>
        (some (.ok token),
          { lexer with
            offset := token.stop
            rest := some ((c :: cs).drop token.lexeme.length) })
      | .error fault => (some (.error fault), { lexer with finished := true })

/-- A bound on the items a lexer can still yield. -/
def remaining (lexer : Lexer) : Nat :=
  if lexer.finished then 0
  else
    match lexer.rest with
    | none => 1
    | some cs => cs.length + 1

theorem remaining_next_lt {lexer later : Lexer} {item : Item}
    (step : lexer.next = (some item, later)) : later.remaining < lexer.remaining := by
  unfold next at step
  split at step
  · simp at step
  · rename_i running
    split at step
    · rename_i inside
      simp only [Prod.mk.injEq] at step
      simp [← step.2, remaining, running, inside]
    · simp at step
    · rename_i c cs text
      split at step
      · rename_i token found
        obtain ⟨n, positive, lexeme, _⟩ := lexeme_of_firstToken found
        simp only [Prod.mk.injEq] at step
        simp only [← step.2, remaining, running, text, lexeme, Bool.false_eq_true, ↓reduceIte,
          List.length_drop, List.length_take, List.length_cons]
        omega
      · simp only [Prod.mk.injEq] at step
        simp [← step.2, remaining, running, text]

theorem next_dry {lexer last : Lexer} (step : lexer.next = (none, last)) :
    last.next = (none, last) := by
  unfold next at step
  split at step
  · rename_i stopped
    cases step
    rw [next, if_pos stopped]
  · split at step
    · cases step
    · cases step
      rfl
    · split at step <;> cases step

instance : Supply Lexer where
  next := next
  remaining := remaining
  remaining_next_lt := remaining_next_lt
  next_dry := next_dry

/-- All items, and the lexer after the last of them. -/
def drain (lexer : Lexer) : List Item × Lexer := Supply.drain lexer

def items (lexer : Lexer) : List Item := Supply.items lexer

end Lexer

end Offside
