import Offside.Proofs.LexerTiling
import Offside.Proofs.WordLexing

/-! The rule table of the language. Every text that a rule of it takes gives the token a kind, so that
lexing fails in two ways only: a string is never closed, or no rule takes anything. What starts like a
word is taken as far as letters, digits and underscores go, and is a keyword or a constant only if no
character of a word follows. -/

namespace Offside

/-- Kinds that are named by the way their tokens are written. -/
def Kind.isVerbatim : Kind → Bool
  | keyword _ | opening _ | closing _ | constant _ | thinArrow | fatArrow | define | assign | comma
  | dot | colon => true
  | _ => false

private theorem Kind.isPseudo_of_isVerbatim {kind : Kind} (verbatim : kind.isVerbatim = true) :
    kind.isPseudo = false := by
  cases kind with
  | indent => cases verbatim
  | dedent => cases verbatim
  | _ => rfl

namespace Scan

/-- Wherever a measure takes something, it takes one of some texts. -/
def TakesOnly (length : List Char → Nat) (texts : List (List Char)) : Prop :=
  ∀ cs, length cs ≠ 0 → cs.take (length cs) ∈ texts

theorem takesOnly_oneOf (chars : List Char) : TakesOnly (oneOf chars) (chars.map fun c => [c]) := by
  intro cs taken
  cases cs with
  | nil => exact absurd rfl taken
  | cons c cs =>
    by_cases member : c ∈ chars
    · simp [oneOf, member]
    · simp [oneOf, member] at taken

theorem takesOnly_pair (first second : List Char) :
    TakesOnly (pair first second) (first.flatMap fun a => second.map fun b => [a, b]) := by
  intro cs taken
  match cs with
  | [] => exact absurd rfl taken
  | [_] => exact absurd rfl taken
  | a :: b :: cs =>
    by_cases member : a ∈ first ∧ b ∈ second
    · simp [pair, member]
    · simp [pair, member] at taken

theorem takesOnly_wholeWord (words : List String) :
    TakesOnly (wholeWord words) (words.map String.toList) := by
  intro cs taken
  unfold wholeWord at taken ⊢
  split
  · rename_i word found
    have starts := List.find?_some found
    rw [Bool.and_eq_true, List.isPrefixOf_iff_prefix] at starts
    rw [← List.prefix_iff_eq_take.mp starts.1]
    exact List.mem_map_of_mem (List.mem_of_find?_eq_some found)
  · rename_i none
    rw [none] at taken
    exact absurd rfl taken

private theorem TakesOnly.either {first second : List Char → Nat} {texts others : List (List Char)}
    (one : TakesOnly first texts) (two : TakesOnly second others) :
    TakesOnly (fun cs => firstLength [first cs, second cs]) (texts ++ others) := by
  intro cs taken
  dsimp only at taken ⊢
  by_cases early : first cs = 0
  · have later : firstLength [first cs, second cs] = second cs := by
      by_cases none : second cs = 0
      · simp [firstLength, early, none]
      · simp [firstLength, early, Nat.pos_of_ne_zero none]
    rw [later] at taken ⊢
    exact List.mem_append_right texts (two cs taken)
  · have now : firstLength [first cs, second cs] = first cs := by
      simp [firstLength, Nat.pos_of_ne_zero early]
    rw [now]
    exact List.mem_append_left others (one cs early)

private theorem exists_of_quoted {cs : List Char} (unclosed : quoted cs = .unterminated) :
    ∃ rest, cs = '\'' :: rest := by
  unfold quoted at unclosed
  split at unclosed
  · exact ⟨_, rfl⟩
  · cases unclosed

end Scan

/-! ### Kinds of tokens -/

namespace Rule

/-- Every text that a rule takes has a kind, that of the rule or one that is named by the text, and
nothing but a string can be left open. -/
structure Regular (rule : Rule) : Prop where
  typed : ∀ cs n, rule.apply cs = .matched n →
    ∃ kind, rule.kindOf (cs.take n) = some kind ∧ (rule.kind = some kind ∨ kind.isVerbatim = true)
  closes : ∀ cs, rule.apply cs = .unterminated → Scan.quoted cs = .unterminated

theorem apply_measured (name : String) (kind : Option Kind) (length : List Char → Nat)
    (cs : List Char) : (measured name kind length).apply cs = .ofLength (length cs) := by
  unfold apply measured
  dsimp only
  cases length cs <;> rfl

theorem length_of_apply_measured {name : String} {kind : Option Kind} {length : List Char → Nat}
    {cs : List Char} {n : Nat} (taken : (measured name kind length).apply cs = .matched n) :
    length cs = n := by
  rw [apply_measured] at taken
  cases size : length cs with
  | zero =>
    rw [size] at taken
    cases taken
  | succ m =>
    rw [size] at taken
    cases taken
    rfl

theorem closes_measured {name : String} {kind : Option Kind} {length : List Char → Nat} (cs : List Char)
    (unclosed : (measured name kind length).apply cs = .unterminated) :
    Scan.quoted cs = .unterminated := by
  rw [apply_measured] at unclosed
  cases size : length cs <;> rw [size] at unclosed <;> cases unclosed

theorem typed_of_kind {rule : Rule} {kind : Kind} (given : rule.kind = some kind) (cs : List Char) :
    ∃ other, rule.kindOf cs = some other ∧ (rule.kind = some other ∨ other.isVerbatim = true) :=
  ⟨kind, by rw [kindOf, given, Option.some_or], .inl given⟩

theorem regular_measured (name : String) (kind : Kind) (length : List Char → Nat) :
    (measured name (some kind) length).Regular :=
  ⟨fun cs n _ => typed_of_kind rfl (cs.take n), closes_measured⟩

private theorem regular_quoted (kind : Kind) : (quoted kind).Regular where
  typed cs n _ := typed_of_kind rfl (cs.take n)
  closes cs unclosed := by
    unfold apply quoted at unclosed
    dsimp only at unclosed
    split at unclosed
    · cases unclosed
    · exact unclosed

/-- A rule without a kind of its own is regular if all the texts it can take name kinds. -/
theorem regular_of_texts {name : String} {length : List Char → Nat} {texts : List (List Char)}
    (only : Scan.TakesOnly length texts)
    (named : texts.all (fun text => (Kind.ofName? (String.ofList text)).any Kind.isVerbatim) = true) :
    (measured name none length).Regular := by
  refine ⟨fun cs n taken => ?_, closes_measured⟩
  have size := length_of_apply_measured taken
  have positive := length_pos_of_apply taken
  have member : cs.take n ∈ texts := size ▸ only cs (by omega)
  obtain ⟨kind, found, verbatim⟩ :=
    (Option.any_eq_true _ _).mp (List.all_eq_true.mp named (cs.take n) member)
  exact ⟨kind, found, .inr verbatim⟩

theorem regular_table : ∀ rule ∈ table, rule.Regular := by
  -- Rule by rule: those that leave the kind to the text take given words, or one or two given
  -- characters.
  simp only [table, List.forall_mem_cons]
  exact ⟨regular_quoted _, regular_measured _ _ _,
    regular_of_texts (Scan.takesOnly_wholeWord _) (by decide +kernel), regular_measured _ _ _,
    regular_measured _ _ _, regular_measured _ _ _,
    regular_of_texts (Scan.takesOnly_oneOf _) (by decide +kernel), regular_measured _ _ _,
    regular_of_texts (Scan.takesOnly_wholeWord _) (by decide +kernel), regular_measured _ _ _,
    regular_of_texts (Scan.takesOnly_pair _ _) (by decide +kernel), regular_measured _ _ _,
    regular_measured _ _ _,
    regular_of_texts ((Scan.takesOnly_pair _ _).either (Scan.takesOnly_oneOf _)) (by decide +kernel),
    regular_of_texts (Scan.takesOnly_oneOf _) (by decide +kernel), regular_measured _ _ _,
    regular_measured _ _ _, regular_measured _ _ _, regular_measured _ _ _, List.forall_mem_nil _⟩

/-- No token that a rule makes is a pseudo token. -/
def Plain (rule : Rule) : Prop :=
  ∀ cs n kind, rule.apply cs = .matched n → rule.kindOf (cs.take n) = some kind →
    kind.isPseudo = false

theorem plain_table : ∀ rule ∈ table, rule.Plain := by
  have own : table.all (fun rule => rule.kind.all fun kind => !kind.isPseudo) = true := rfl
  intro rule member cs n kind taken named
  obtain ⟨other, found, origin⟩ := (regular_table rule member).typed cs n taken
  obtain rfl : other = kind := Option.some.inj (found.symm.trans named)
  rcases origin with given | verbatim
  · have plain := List.all_eq_true.mp own rule member
    rw [given] at plain
    simpa using plain
  · exact Kind.isPseudo_of_isVerbatim verbatim

end Rule

namespace Lexer

theorem rule_of_firstToken {offset : Nat} {cs : List Char} {rules : List Rule} {token : Token}
    (found : firstToken offset cs rules = .ok token) :
    ∃ rule ∈ rules, ∃ n, rule.apply cs = .matched n ∧ rule.kindOf (cs.take n) = some token.kind ∧
      token.lexeme = cs.take n := by
  induction rules with
  | nil => cases found
  | cons rule rules ih =>
    simp only [firstToken] at found
    split at found
    · obtain ⟨other, member, applied⟩ := ih found
      exact ⟨other, List.mem_cons_of_mem rule member, applied⟩
    · cases found
    · rename_i n taken
      split at found
      · rename_i kind named
        cases found
        exact ⟨rule, List.mem_cons_self, n, taken, named, rfl⟩
      · cases found

/-- A run yields tokens, and at its end perhaps an error. With plain rules no token is a pseudo
token. -/
theorem Run.stream {lexer last : Lexer} {items : List Item} (run : Run lexer items last)
    (plain : ∀ rule ∈ lexer.rules, rule.Plain) :
    ∃ (tokens : List Token) (fault : Option LexError), items = streamOf tokens fault ∧
      ∀ token ∈ tokens, token.kind.isPseudo = false := by
  induction run with
  | dry => exact ⟨[], none, rfl, List.forall_mem_nil _⟩
  | item pull rest ih =>
    cases pull with
    | insideCharacter =>
      obtain ⟨rfl, -⟩ := rest.of_finished rfl
      exact ⟨[], some _, rfl, List.forall_mem_nil _⟩
    | failing =>
      obtain ⟨rfl, -⟩ := rest.of_finished rfl
      exact ⟨[], some _, rfl, List.forall_mem_nil _⟩
    | @taking _ _ _ token nonempty found =>
      obtain ⟨tokens, fault, split, written⟩ := ih plain
      obtain ⟨rule, member, n, taken, named, -⟩ := rule_of_firstToken found
      refine ⟨token :: tokens, fault, ?_, List.forall_mem_cons.mpr ⟨?_, written⟩⟩
      · rw [split, streamOf_cons]
      · exact plain rule member _ n token.kind taken named

theorem plain_items {source : Source} {offset : Nat} {token : Token}
    (member : .ok token ∈ (ofSource source offset).items) : token.kind.isPseudo = false := by
  obtain ⟨tokens, fault, split, plain⟩ :=
    (drain_run (ofSource source offset)).stream Rule.plain_table
  change _ ∈ (ofSource source offset).drain.1 at member
  rw [split, ok_mem_streamOf] at member
  exact plain token member

/-! ### Errors -/

/-- With regular rules, the start of a text has no token only if it opens a string that is never
closed, or if no rule takes any of it. -/
private theorem fault_of_firstToken {offset : Nat} {cs : List Char} {rules : List Rule}
    {fault : LexError}
    (regular : ∀ rule ∈ rules, rule.Regular) (failed : firstToken offset cs rules = .error fault) :
    (fault = .unclosedString offset ∧ Scan.quoted cs = .unterminated) ∨
      (fault = .noRule offset ∧ ∀ rule ∈ rules, rule.apply cs = .noMatch) := by
  induction rules with
  | nil =>
    cases failed
    exact .inr ⟨rfl, List.forall_mem_nil _⟩
  | cons rule rules ih =>
    obtain ⟨own, others⟩ := List.forall_mem_cons.mp regular
    simp only [firstToken] at failed
    split at failed
    · rename_i none
      rcases ih others failed with unclosed | ⟨same, all⟩
      · exact .inl unclosed
      · exact .inr ⟨same, List.forall_mem_cons.mpr ⟨none, all⟩⟩
    · rename_i unclosed
      cases failed
      exact .inl ⟨rfl, own.closes cs unclosed⟩
    · rename_i n taken
      obtain ⟨kind, named, -⟩ := own.typed cs n taken
      rw [named] at failed
      cases failed

private theorem fault_of_table {offset : Nat} {cs : List Char} {fault : LexError}
    (failed : firstToken offset cs Rule.table = .error fault) :
    (fault = .unclosedString offset ∧ Scan.quoted cs = .unterminated) ∨
      (fault = .noRule offset ∧ Scan.quoted cs ≠ .unterminated) := by
  rcases fault_of_firstToken Rule.regular_table failed with unclosed | ⟨same, none⟩
  · exact .inl unclosed
  · refine .inr ⟨same, fun unclosed => ?_⟩
    have first := none (.quoted .string) List.mem_cons_self
    simp [Rule.apply, Rule.quoted, unclosed] at first

/-- A quote that is never closed stands at an offset of a text. -/
def UnclosedAt (cs : List Char) (offset : Nat) : Prop :=
  ∃ front rest, cs = front ++ '\'' :: rest ∧ Text.byteLength front = offset ∧
    Scan.quoted ('\'' :: rest) = .unterminated

/-- The text at an offset decides whether a quote is there that is never closed. -/
private theorem unclosedAt_iff {front rest : List Char} :
    UnclosedAt (front ++ rest) (Text.byteLength front) ↔ Scan.quoted rest = .unterminated := by
  constructor
  · rintro ⟨before, after, whole, size, unclosed⟩
    have here := Text.splitBytes?_append front rest
    rw [whole, ← size, Text.splitBytes?_append] at here
    obtain ⟨-, rfl⟩ := Prod.mk.inj (Option.some.inj here)
    exact unclosed
  · intro unclosed
    obtain ⟨after, rfl⟩ := Scan.exists_of_quoted unclosed
    exact ⟨front, after, rfl, rfl, unclosed⟩

/-- An error says what is wrong at its place: a quote that is never closed, or anything else. -/
def Explained (cs : List Char) (fault : LexError) : Prop :=
  (fault = .unclosedString fault.offset ∧ UnclosedAt cs fault.offset) ∨
    (fault = .noRule fault.offset ∧ ¬ UnclosedAt cs fault.offset)

private theorem Run.explained {cs : List Char} {lexer last : Lexer} {items : List Item}
    (run : Run lexer items last) (table : lexer.rules = Rule.table) (placed : Placed cs lexer)
    (inside : lexer.rest = none → ¬ UnclosedAt cs lexer.offset) :
    ∀ fault, .error fault ∈ items → Explained cs fault := by
  induction run with
  | dry => exact fun fault member => absurd member List.not_mem_nil
  | item pull rest ih =>
    cases pull with
    | insideCharacter =>
      obtain ⟨rfl, -⟩ := rest.of_finished rfl
      rintro fault member
      cases List.mem_singleton.mp member
      exact .inr ⟨rfl, inside rfl⟩
    | @failing rules offset left found nonempty failed =>
      obtain ⟨rfl, -⟩ := rest.of_finished rfl
      obtain ⟨front, rfl, rfl⟩ : ∃ front, cs = front ++ left ∧ Text.byteLength front = offset :=
        placed left rfl
      obtain rfl : rules = Rule.table := table
      rintro fault member
      cases List.mem_singleton.mp member
      rw [Explained, offset_of_firstToken failed, unclosedAt_iff]
      exact fault_of_table failed
    | @taking rules offset left token nonempty found =>
      obtain ⟨-, -, -, placedLater⟩ := placed_taking placed nonempty found
      intro fault member
      rcases List.mem_cons.mp member with same | later
      · cases same
      · exact ih table placedLater (fun none => by cases none) fault later

/-- Lexing yields no pseudo token. An error is about a string exactly if a quote that is never closed
stands where it is, and says otherwise that no rule fits; and wherever such a quote stands, lexing from
there yields that error alone. -/
theorem drain_typed (source : Source) (offset : Nat) :
    (∀ token, .ok token ∈ (ofSource source offset).items →
      token.kind ≠ .indent ∧ token.kind ≠ .dedent) ∧
    (∀ fault, .error fault ∈ (ofSource source offset).items →
      (fault = .unclosedString fault.offset ∧ UnclosedAt source.chars fault.offset) ∨
      (fault = .noRule fault.offset ∧ ¬ UnclosedAt source.chars fault.offset)) ∧
    (UnclosedAt source.chars offset →
      (ofSource source offset).items = [.error (.unclosedString offset)]) := by
  refine ⟨?_, ?_, ?_⟩
  · intro token member
    have written := plain_items member
    constructor
    · intro same
      rw [same] at written
      cases written
    · intro same
      rw [same] at written
      cases written
  · by_cases past : source.length ≤ offset
    · intro fault member
      rw [ofSource, items_past Rule.table past] at member
      cases member
    · refine (drain_run (ofSource source offset)).explained rfl (placed_ofText past) ?_
      rintro inside ⟨front, rest, whole, rfl, -⟩
      rw [ofSource, whole, ofText_append] at inside
      cases inside
  · rintro ⟨front, rest, whole, rfl, unclosed⟩
    have failed : firstToken (Text.byteLength front) ('\'' :: rest) Rule.table =
        .error (.unclosedString (Text.byteLength front)) := by
      simp [Rule.table, firstToken, Rule.quoted, Rule.apply, unclosed]
    rw [ofSource, whole, ofText_append, items_of_fault (List.cons_ne_nil _ _) failed]

/-! ### Words -/

/-- The kind of a word, by its letters and what follows it. A keyword or a constant ends where no
character of a word follows; where one of another script does, the same letters are an identifier. -/
inductive WordKind (word rest : List Char) : Kind → Prop where
  | keyword (known : Keyword) (spelled : known.name.toList = word) (ends : Stops Text.isWord rest) :
      WordKind word rest (.keyword known)
  | constant (known : Constant) (spelled : known.name.toList = word) (ends : Stops Text.isWord rest) :
      WordKind word rest (.constant known)
  | identifier
      (ordinary : Stops Text.isWord rest → (∀ known : Keyword, known.name.toList ≠ word) ∧
        ∀ known : Constant, known.name.toList ≠ word) :
      WordKind word rest .identifier

private theorem ordinary_of_names {word : List Char}
    (keyword : ∀ known : Keyword, known.name.toList ≠ word)
    (constant : ∀ known : Constant, known.name.toList ≠ word) :
    String.ofList word ∉ Keyword.all.map Keyword.name ++ Constant.all.map Constant.name := by
  intro member
  rcases List.mem_append.mp member with member | member
  · obtain ⟨known, -, same⟩ := List.mem_map.mp member
    exact keyword known (by rw [same, String.toList_ofList])
  · obtain ⟨known, -, same⟩ := List.mem_map.mp member
    exact constant known (by rw [same, String.toList_ofList])

private theorem firstToken_word {first : Char} {chars rest : List Char}
    (starts : Scan.isIdentifierStart first = true)
    (continues : ∀ c ∈ chars, Text.isAsciiWord c = true) (stops : Stops Text.isAsciiWord rest)
    (offset : Nat) :
    ∃ kind, WordKind (first :: chars) rest kind ∧
      firstToken offset (first :: chars ++ rest) Rule.table = .ok ⟨kind, offset, first :: chars⟩ := by
  by_cases keyword : Stops Text.isWord rest ∧ ∃ known : Keyword, known.name.toList = first :: chars
  · obtain ⟨ends, known, spelled⟩ := keyword
    refine ⟨_, .keyword known spelled ends, ?_⟩
    rw [← spelled]
    exact firstToken_keyword known ends offset
  by_cases constant : Stops Text.isWord rest ∧ ∃ known : Constant, known.name.toList = first :: chars
  · obtain ⟨ends, known, spelled⟩ := constant
    refine ⟨_, .constant known spelled ends, ?_⟩
    rw [← spelled]
    exact firstToken_constant known ends offset
  have ordinary (ends : Stops Text.isWord rest) :
      (∀ known : Keyword, known.name.toList ≠ first :: chars) ∧
        ∀ known : Constant, known.name.toList ≠ first :: chars :=
    ⟨fun known spelled => keyword ⟨ends, known, spelled⟩,
      fun known spelled => constant ⟨ends, known, spelled⟩⟩
  exact ⟨_, .identifier ordinary, firstToken_name starts continues stops
    (fun ends => ordinary_of_names (ordinary ends).1 (ordinary ends).2) offset⟩

/-- Where a lexer stands before a letter or an underscore, it takes all letters, digits and
underscores that follow, as one token, and stands after them. -/
theorem word_taken_whole {lexer : Lexer} {first : Char} {chars : List Char}
    (table : lexer.rules = Rule.table) (running : lexer.finished = false)
    (text : lexer.rest = some (first :: chars)) (starts : Scan.isIdentifierStart first = true) :
    ∃ (word rest : List Char) (kind : Kind),
      first :: chars = word ++ rest ∧ (∀ c ∈ word, Text.isAsciiWord c = true) ∧
      Stops Text.isAsciiWord rest ∧ WordKind word rest kind ∧
      lexer.next = (some (.ok ⟨kind, lexer.offset, word⟩),
        { lexer with offset := lexer.offset + Text.byteLength word, rest := some rest }) := by
  obtain ⟨rules, offset, left, finished⟩ := lexer
  obtain rfl : rules = Rule.table := table
  obtain rfl : finished = false := running
  obtain rfl : left = some (first :: chars) := text
  have whole : first :: chars =
      first :: chars.takeWhile Text.isAsciiWord ++ chars.dropWhile Text.isAsciiWord := by
    rw [List.cons_append, List.takeWhile_append_dropWhile]
  have continues : ∀ c ∈ chars.takeWhile Text.isAsciiWord, Text.isAsciiWord c = true :=
    List.all_eq_true.mp List.all_takeWhile
  obtain ⟨kind, named, found⟩ :=
    firstToken_word starts continues (stops_dropWhile Text.isAsciiWord chars) offset
  refine ⟨_, _, kind, whole, ?_, stops_dropWhile _ chars, named, ?_⟩
  · exact List.forall_mem_cons.mpr ⟨Scan.isAsciiWord_of_start starts, continues⟩
  · rw [← whole] at found
    have step := pulls_iff.mp (.taking (List.cons_ne_nil first chars) found)
    rw [whole, List.drop_left, ← whole] at step
    exact step

/-- Letters that spell a keyword are an identifier where an accented letter follows. -/
theorem word_taken_whole_accented :
    (ofSource (.anonymous "doé") 0).rest = some ['d', 'o', 'é'] ∧
      (ofSource (.anonymous "doé") 0).next.1 = some (.ok ⟨.identifier, 0, ['d', 'o']⟩) := by
  have table : (ofSource (.anonymous "doé") 0).rules = Rule.table := rfl
  have text : (ofSource (.anonymous "doé") 0).rest = some ['d', 'o', 'é'] := rfl
  refine ⟨text, ?_⟩
  obtain ⟨word, rest, kind, split, chars, stops, named, step⟩ :=
    word_taken_whole table rfl text (by decide)
  have taken := Scan.takeWhile_append chars stops
  rw [← split] at taken
  obtain rfl : word = ['d', 'o'] := taken.symm
  obtain rfl : rest = ['é'] := by simpa using split.symm
  rw [step]
  have joined : ¬ Stops Text.isWord ['é'] := by decide
  cases named with
  | keyword _ _ ends => exact absurd ends joined
  | constant _ _ ends => exact absurd ends joined
  | identifier => rfl

end Lexer

end Offside
