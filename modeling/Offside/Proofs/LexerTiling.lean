import Offside.Lexer
import Offside.Proofs.SupplyRuns

/-! A lexer cuts its text into tokens that lie side by side. All that a pull can do is said once, as a
relation; a run is pulls until one yields nothing, and what holds of every run follows from the pulls
by induction. Nothing is asked of the rules: a rule that takes no text is passed over, and one that
takes more than there is takes all of it. -/

namespace Offside

/-- Tokens, and the error after them if there is one. -/
def streamOf (tokens : List Token) (fault : Option LexError) : List Item :=
  tokens.map .ok ++ fault.toList.map .error

theorem streamOf_cons (token : Token) (tokens : List Token) (fault : Option LexError) :
    streamOf (token :: tokens) fault = .ok token :: streamOf tokens fault := rfl

theorem ok_mem_streamOf {token : Token} {tokens : List Token} {fault : Option LexError} :
    .ok token ∈ streamOf tokens fault ↔ token ∈ tokens := by
  cases fault <;> simp [streamOf]

namespace Text

theorem slice_append (front middle back : List Char) :
    slice (byteLength front) (byteLength middle) (front ++ (middle ++ back)) = .ok middle := by
  simp only [slice, splitBytes?_append]

end Text

namespace Lexer

theorem firstToken_eq_ok {offset : Nat} {cs : List Char} {rules : List Rule} {token : Token}
    (nonempty : cs ≠ []) (found : firstToken offset cs rules = .ok token) :
    token.start = offset ∧ token.lexeme ≠ [] ∧
      cs = token.lexeme ++ cs.drop token.lexeme.length := by
  obtain ⟨n, positive, lexeme, start⟩ := lexeme_of_firstToken found
  refine ⟨start, ?_, ?_⟩
  · rw [lexeme, ne_eq, List.take_eq_nil_iff]
    exact not_or.mpr ⟨Nat.ne_of_gt positive, nonempty⟩
  · rw [lexeme, List.length_take]
    rcases Nat.le_total n cs.length with short | long
    · rw [Nat.min_eq_left short, List.take_append_drop]
    · rw [Nat.min_eq_right long, List.drop_length, List.append_nil, List.take_of_length_le long]

theorem offset_of_firstToken {offset : Nat} {cs : List Char} {rules : List Rule} {fault : LexError}
    (failed : firstToken offset cs rules = .error fault) : fault.offset = offset := by
  induction rules with
  | nil =>
    cases failed
    rfl
  | cons rule rules ih =>
    simp only [firstToken] at failed
    split at failed
    · exact ih failed
    · cases failed
      rfl
    · split at failed
      · cases failed
      · cases failed
        rfl

/-- All that a pull can do. -/
inductive Pulls : Lexer → Option Item → Lexer → Prop where
  | finished {lexer : Lexer} (stopped : lexer.finished = true) : Pulls lexer none lexer
  | ending {rules : List Rule} {offset : Nat} :
      Pulls ⟨rules, offset, some [], false⟩ none ⟨rules, offset, some [], true⟩
  | insideCharacter {rules : List Rule} {offset : Nat} :
      Pulls ⟨rules, offset, none, false⟩ (some (.error (.noRule offset))) ⟨rules, offset, none, true⟩
  | failing {rules : List Rule} {offset : Nat} {cs : List Char} {fault : LexError}
      (nonempty : cs ≠ []) (failed : firstToken offset cs rules = .error fault) :
      Pulls ⟨rules, offset, some cs, false⟩ (some (.error fault)) ⟨rules, offset, some cs, true⟩
  | taking {rules : List Rule} {offset : Nat} {cs : List Char} {token : Token}
      (nonempty : cs ≠ []) (found : firstToken offset cs rules = .ok token) :
      Pulls ⟨rules, offset, some cs, false⟩ (some (.ok token))
        ⟨rules, token.stop, some (cs.drop token.lexeme.length), false⟩

theorem pulls_iff {lexer later : Lexer} {item : Option Item} :
    Pulls lexer item later ↔ lexer.next = (item, later) := by
  constructor
  · intro pull
    cases pull with
    | finished stopped => rw [next, if_pos stopped]
    | ending => rfl
    | insideCharacter => rfl
    | failing nonempty failed =>
      obtain ⟨c, rest, rfl⟩ := List.exists_cons_of_ne_nil nonempty
      simp [next, failed]
    | taking nonempty found =>
      obtain ⟨c, rest, rfl⟩ := List.exists_cons_of_ne_nil nonempty
      simp [next, found]
  · intro step
    obtain ⟨rules, offset, text, stopped⟩ := lexer
    cases stopped with
    | true =>
      cases step
      exact .finished rfl
    | false =>
      cases text with
      | none =>
        cases step
        exact .insideCharacter
      | some text =>
        cases text with
        | nil =>
          cases step
          exact .ending
        | cons c cs =>
          cases found : firstToken offset (c :: cs) rules with
          | error fault =>
            simp only [next, found] at step
            cases step
            exact .failing (List.cons_ne_nil c cs) found
          | ok token =>
            simp only [next, found] at step
            cases step
            exact .taking (List.cons_ne_nil c cs) found

/-- Pulls until one yields nothing. -/
inductive Run : Lexer → List Item → Lexer → Prop where
  | dry {lexer last : Lexer} (pull : Pulls lexer none last) : Run lexer [] last
  | item {lexer later last : Lexer} {item : Item} {items : List Item}
      (pull : Pulls lexer (some item) later) (rest : Run later items last) :
      Run lexer (item :: items) last

theorem drain_run (lexer : Lexer) : Run lexer lexer.drain.1 lexer.drain.2 := by
  induction lexer using Supply.drain.induct with
  | case1 lexer last step =>
    rw [drain, Supply.drain_of_next_none step]
    exact .dry (pulls_iff.mpr step)
  | case2 lexer item later step _ _ _ ih =>
    rw [drain, Supply.drain_of_next_some step]
    exact .item (pulls_iff.mpr step) ih

namespace Run

variable {lexer last : Lexer} {items : List Item}

theorem drain_eq (run : Run lexer items last) : lexer.drain = (items, last) := by
  induction run with
  | dry pull => exact Supply.drain_of_next_none (pulls_iff.mp pull)
  | item pull _ ih =>
    rw [drain] at ih ⊢
    rw [Supply.drain_of_next_some (pulls_iff.mp pull), ih]

theorem items_eq (run : Run lexer items last) : lexer.items = items :=
  congrArg Prod.fst run.drain_eq

theorem of_finished (run : Run lexer items last) (stopped : lexer.finished = true) :
    items = [] ∧ last = lexer := by
  cases run with
  | dry pull =>
    cases pull with
    | finished => exact ⟨rfl, rfl⟩
    | ending => cases stopped
  | item pull => cases pull <;> cases stopped

private theorem last_finished (run : Run lexer items last) : last.finished = true := by
  induction run with
  | dry pull =>
    cases pull with
    | finished stopped => exact stopped
    | ending => rfl
  | item _ _ ih => exact ih

end Run

/-- The lexer that stands between two parts of a text. -/
theorem ofText_append (rules : List Rule) (front back : List Char) :
    ofText rules (front ++ back) (Text.byteLength front) =
      ⟨rules, Text.byteLength front, some back, false⟩ := by
  unfold ofText
  rw [Text.splitBytes?_append]
  split
  · rename_i past
    have empty : back = [] := by
      cases back with
      | nil => rfl
      | cons c cs =>
        have positive := Text.byteLength_pos_of_ne_nil (List.cons_ne_nil c cs)
        rw [Text.byteLength_append] at past
        omega
    rw [empty]
  · rfl

/-- Tokens that lie side by side in a text, from one offset to another. Each has some text, and that
text stands in its range, which begins and ends between characters. -/
def Tiles (cs : List Char) : Nat → List Token → Nat → Prop
  | start, [], stop => start = stop
  | start, token :: tokens, stop =>
    token.start = start ∧ token.start < token.stop ∧
      Text.slice token.start (Text.byteLength token.lexeme) cs = .ok token.lexeme ∧
      Tiles cs token.stop tokens stop

/-- What is left of a text stands after a part of it that ends where the lexer is. -/
def Placed (cs : List Char) (lexer : Lexer) : Prop :=
  ∀ rest, lexer.rest = some rest → ∃ front, cs = front ++ rest ∧ Text.byteLength front = lexer.offset

/-- A token that is taken covers the text from the lexer to the place where it stands next. -/
theorem placed_taking {rules : List Rule} {offset : Nat} {cs rest : List Char} {token : Token}
    (placed : Placed cs ⟨rules, offset, some rest, false⟩) (nonempty : rest ≠ [])
    (found : firstToken offset rest rules = .ok token) :
    token.start = offset ∧ token.start < token.stop ∧
      Text.slice token.start (Text.byteLength token.lexeme) cs = .ok token.lexeme ∧
      Placed cs ⟨rules, token.stop, some (rest.drop token.lexeme.length), false⟩ := by
  obtain ⟨front, whole, size⟩ : ∃ front, cs = front ++ rest ∧ Text.byteLength front = offset :=
    placed rest rfl
  obtain ⟨start, some, split⟩ := firstToken_eq_ok nonempty found
  have stop : token.stop = offset + Text.byteLength token.lexeme := by rw [Token.stop, start]
  refine ⟨start, ?_, ?_, ?_⟩
  · have positive := Text.byteLength_pos_of_ne_nil some
    omega
  · rw [whole, split, start, ← size]
    exact Text.slice_append front token.lexeme _
  · rintro left same
    cases same
    refine ⟨front ++ token.lexeme, ?_, ?_⟩
    · rw [List.append_assoc, ← split]
      exact whole
    · rw [Text.byteLength_append, size, stop]

theorem placed_ofText {rules : List Rule} {cs : List Char} {offset : Nat}
    (within : ¬ Text.byteLength cs ≤ offset) : Placed cs (ofText rules cs offset) := by
  intro rest left
  rw [ofText, if_neg within] at left
  obtain ⟨parts, split, rfl⟩ := Option.map_eq_some_iff.mp left
  exact ⟨parts.1, Text.eq_append_of_splitBytes? split⟩

theorem Run.tiles {cs : List Char} {lexer last : Lexer} {items : List Item}
    (run : Run lexer items last) (running : lexer.finished = false) (placed : Placed cs lexer) :
    ∃ (tokens : List Token) (fault : Option LexError),
      items = streamOf tokens fault ∧ Tiles cs lexer.offset tokens last.offset ∧
      (∀ error ∈ fault, error.offset = last.offset) ∧
      (fault = none → last.offset = Text.byteLength cs) := by
  induction run with
  | dry pull =>
    cases pull with
    | finished stopped =>
      rw [running] at stopped
      cases stopped
    | ending =>
      obtain ⟨front, whole, size⟩ := placed [] rfl
      refine ⟨[], none, rfl, rfl, by simp, fun _ => ?_⟩
      rw [whole, List.append_nil]
      exact size.symm
  | item pull rest ih =>
    cases pull with
    | insideCharacter =>
      obtain ⟨rfl, rfl⟩ := rest.of_finished rfl
      exact ⟨[], some _, rfl, rfl, by simp [LexError.offset], by simp⟩
    | failing nonempty failed =>
      obtain ⟨rfl, rfl⟩ := rest.of_finished rfl
      exact ⟨[], some _, rfl, rfl, by simpa using offset_of_firstToken failed, by simp⟩
    | @taking _ _ _ token nonempty found =>
      obtain ⟨start, positive, sliced, placedLater⟩ := placed_taking placed nonempty found
      obtain ⟨tokens, fault, split, tiles, located, covers⟩ := ih rfl placedLater
      refine ⟨token :: tokens, fault, ?_, ⟨start, positive, sliced, tiles⟩, located, covers⟩
      rw [split, streamOf_cons]

theorem items_past (rules : List Rule) {cs : List Char} {offset : Nat}
    (past : Text.byteLength cs ≤ offset) : (ofText rules cs offset).items = [] := by
  rw [ofText, if_pos past, (Run.dry .ending).items_eq]

/-- Where no token can be taken, there is an error and nothing more. -/
theorem items_of_fault {rules : List Rule} {offset : Nat} {cs : List Char} {fault : LexError}
    (nonempty : cs ≠ []) (failed : firstToken offset cs rules = .error fault) :
    items ⟨rules, offset, some cs, false⟩ = [.error fault] := by
  have stopped := Run.item (.failing nonempty failed) (.dry (.finished rfl))
  exact stopped.items_eq

/-- The items of a text are tokens that lie side by side, and perhaps an error where they end. -/
theorem items_tile (rules : List Rule) (cs : List Char) (offset : Nat) :
    ∃ (tokens : List Token) (fault : Option LexError) (stop : Nat),
      (ofText rules cs offset).items = streamOf tokens fault ∧ Tiles cs offset tokens stop ∧
      ∀ error ∈ fault, error.offset = stop := by
  by_cases past : Text.byteLength cs ≤ offset
  · exact ⟨[], none, offset, items_past rules past, rfl, by simp⟩
  · obtain ⟨tokens, fault, split, tiles, located, -⟩ :=
      (drain_run (ofText rules cs offset)).tiles rfl (placed_ofText past)
    exact ⟨tokens, fault, _, split, tiles, located⟩

/-- The tokens of a text lie side by side from where the lexer starts, and reach the end of the text
unless an error stops them. The error is the last item, and stands where the last token ends, which is
also where the lexer stays. Past the end of the text there is nothing. Pulled one at a time the lexer
yields the same items, and nothing ever after. -/
theorem drain_tiles (rules : List Rule) (cs : List Char) (offset : Nat) :
    ∃ (tokens : List Token) (fault : Option LexError),
      (ofText rules cs offset).drain.1 = streamOf tokens fault ∧
      Tiles cs offset tokens (ofText rules cs offset).drain.2.offset ∧
      (∀ error ∈ fault, error.offset = (ofText rules cs offset).drain.2.offset) ∧
      (fault = none → offset ≤ Text.byteLength cs →
        (ofText rules cs offset).drain.2.offset = Text.byteLength cs) ∧
      (Text.byteLength cs ≤ offset → (ofText rules cs offset).drain.1 = []) ∧
      (∀ n, pulled next n (ofText rules cs offset) = (ofText rules cs offset).drain.1[n]?) ∧
      ∀ n, pulled next n (ofText rules cs offset).drain.2 = none := by
  have run := drain_run (ofText rules cs offset)
  have pulls (n : Nat) : pulled next n (ofText rules cs offset) =
      (ofText rules cs offset).drain.1[n]? := Supply.pulled_eq n (ofText rules cs offset)
  have after (n : Nat) : pulled next n (ofText rules cs offset).drain.2 = none := by
    have nothing := (Run.dry (.finished run.last_finished)).items_eq
    have same := Supply.pulled_eq n (ofText rules cs offset).drain.2
    rwa [show Supply.items (ofText rules cs offset).drain.2 = [] from nothing] at same
  by_cases past : Text.byteLength cs ≤ offset
  · have start : ofText rules cs offset = ⟨rules, offset, some [], false⟩ := by
      rw [ofText, if_pos past]
    have empty : (ofText rules cs offset).drain = ([], ⟨rules, offset, some [], true⟩) := by
      rw [start]
      exact (Run.dry .ending).drain_eq
    refine ⟨[], none, ?_, ?_, by simp, fun _ within => ?_, fun _ => ?_, pulls, after⟩
    · rw [empty]
      rfl
    · rw [empty]
      rfl
    · rw [empty]
      exact Nat.le_antisymm within past
    · rw [empty]
  · obtain ⟨tokens, fault, split, tiles, located, covers⟩ := run.tiles rfl (placed_ofText past)
    exact ⟨tokens, fault, split, tiles, located, fun whole _ => covers whole,
      fun beyond => absurd beyond past, pulls, after⟩

end Lexer

end Offside
