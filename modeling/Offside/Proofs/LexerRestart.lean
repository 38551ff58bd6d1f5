import Offside.Proofs.LexerTiling

/-! A lexer can be restarted. What it yields depends on the text in front of it only: the same text
further on gives the same items, moved by as many bytes, and a lexer that starts where a token ended
goes on as the one that took the token. -/

namespace Offside

/-- The same token, so many bytes further on. -/
def Token.shift (n : Nat) (token : Token) : Token := { token with start := token.start + n }

/-- The same error, so many bytes further on. -/
def LexError.shift (n : Nat) : LexError → LexError
  | noRule offset => noRule (offset + n)
  | unclosedString offset => unclosedString (offset + n)
  | untyped lexeme offset => untyped lexeme (offset + n)

def shiftItem (n : Nat) : Item → Item
  | .ok token => .ok (token.shift n)
  | .error fault => .error (fault.shift n)

private theorem Token.stop_shift (n : Nat) (token : Token) :
    (token.shift n).stop = token.stop + n := by
  simp only [stop, shift]
  omega

namespace Lexer

def shift (n : Nat) (lexer : Lexer) : Lexer := { lexer with offset := lexer.offset + n }

/-- No rule sees where it is tried. -/
theorem firstToken_shift (n offset : Nat) (cs : List Char) (rules : List Rule) :
    firstToken (offset + n) cs rules = shiftItem n (firstToken offset cs rules) := by
  induction rules with
  | nil => rfl
  | cons rule rules ih =>
    simp only [firstToken]
    split
    · exact ih
    · rfl
    · split <;> rfl

theorem Pulls.shift {lexer later : Lexer} {item : Option Item} (pull : Pulls lexer item later)
    (n : Nat) : Pulls (lexer.shift n) (item.map (shiftItem n)) (later.shift n) := by
  cases pull with
  | finished stopped => exact .finished stopped
  | ending => exact .ending
  | insideCharacter => exact .insideCharacter
  | failing nonempty failed =>
    refine .failing nonempty ?_
    rw [firstToken_shift, failed]
    rfl
  | @taking rules offset cs token nonempty found =>
    have moved : firstToken (offset + n) cs rules = .ok (token.shift n) := by
      rw [firstToken_shift, found]
      rfl
    have taken := Pulls.taking nonempty moved
    rw [Token.stop_shift] at taken
    exact taken

/-- A run further on in a text is the same run, moved. -/
theorem Run.shift {lexer last : Lexer} {items : List Item} (run : Run lexer items last) (n : Nat) :
    Run (lexer.shift n) (items.map (shiftItem n)) (last.shift n) := by
  induction run with
  | dry pull => exact .dry (pull.shift n)
  | item pull _ ih => exact .item (pull.shift n) ih

private theorem ofText_append_shift (rules : List Rule) (front back : List Char) :
    ofText rules (front ++ back) (Text.byteLength front) =
      (ofText rules back 0).shift (Text.byteLength front) := by
  have start := ofText_append rules [] back
  rw [List.nil_append, Text.byteLength_nil] at start
  rw [ofText_append, start, shift, Nat.zero_add]

/-- After each token that a run yields, the run goes on like one that starts where the token ends. -/
theorem Run.drop {cs : List Char} {lexer last : Lexer} {items : List Item}
    (run : Run lexer items last) (running : lexer.finished = false) (placed : Placed cs lexer)
    {k : Nat} {token : Token} (yielded : items[k]? = some (.ok token)) :
    Run (ofText lexer.rules cs token.stop) (items.drop (k + 1)) last := by
  induction run generalizing k with
  | dry => simp at yielded
  | item pull rest ih =>
    cases pull with
    | insideCharacter =>
      obtain ⟨rfl, -⟩ := rest.of_finished rfl
      cases k <;> simp at yielded
    | failing =>
      obtain ⟨rfl, -⟩ := rest.of_finished rfl
      cases k <;> simp at yielded
    | @taking rules offset left first nonempty found =>
      obtain ⟨-, -, -, placedLater⟩ := placed_taking placed nonempty found
      cases k with
      | zero =>
        -- The run goes on from the place between the parts of the text around it.
        obtain ⟨front, whole, size⟩ := placedLater _ rfl
        have same : first = token := by simpa using yielded
        subst same
        have here := ofText_append rules front (left.drop first.lexeme.length)
        rw [← whole, size] at here
        rw [here]
        exact rest
      | succ k => exact ih rfl placedLater yielded

/-- Lexing from a place between characters gives what lexing the rest of the text gives, moved to that
place. Started where a token of some run ends, a lexer yields what that run yields after the token,
and ends where it ends. -/
theorem drain_restarts (rules : List Rule) :
    (∀ front back : List Char,
      (ofText rules (front ++ back) (Text.byteLength front)).items =
        (ofText rules back 0).items.map (shiftItem (Text.byteLength front))) ∧
    ∀ (cs : List Char) (offset k : Nat) (token : Token),
      (ofText rules cs offset).items[k]? = some (.ok token) →
      (ofText rules cs token.stop).drain =
        ((ofText rules cs offset).items.drop (k + 1), (ofText rules cs offset).drain.2) := by
  constructor
  · intro front back
    have run := (drain_run (ofText rules back 0)).shift (Text.byteLength front)
    rw [← ofText_append_shift] at run
    rw [run.items_eq]
    rfl
  · intro cs offset k token yielded
    have run := drain_run (ofText rules cs offset)
    have within : ¬ Text.byteLength cs ≤ offset := by
      intro past
      have empty : (ofText rules cs offset).items = [] := by
        rw [ofText, if_pos past, (Run.dry .ending).items_eq]
      rw [empty] at yielded
      cases yielded
    exact (run.drop rfl (placed_ofText within) yielded).drain_eq

end Lexer

end Offside
