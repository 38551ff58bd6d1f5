import Mathlib.Data.List.Basic
import Offside.Proofs.LayoutStages

/-! How the rule table takes words, keywords, blanks, comments and newlines off the front of a text.
Each is taken whole if what follows cannot belong to it. Of the items that a text gives, those that
are not trivia follow one after the other. -/

namespace Offside

namespace Text

theorem isAlpha_iff (c : Char) :
    c.isAlpha = true ↔ 65 ≤ c.toNat ∧ c.toNat ≤ 90 ∨ 97 ≤ c.toNat ∧ c.toNat ≤ 122 := by
  have upper : c.isUpper = true ↔ 65 ≤ c.toNat ∧ c.toNat ≤ 90 := decide_eq_true_iff
  have lower : c.isLower = true ↔ 97 ≤ c.toNat ∧ c.toNat ≤ 122 :=
    Bool.and_eq_true_iff.trans (and_congr decide_eq_true_iff decide_eq_true_iff)
  exact Bool.or_eq_true_iff.trans (or_congr upper lower)

theorem isDigit_iff (c : Char) : c.isDigit = true ↔ 48 ≤ c.toNat ∧ c.toNat ≤ 57 :=
  Bool.and_eq_true_iff.trans (and_congr decide_eq_true_iff decide_eq_true_iff)

private theorem isWord_of_isAsciiWord {c : Char} (ascii : isAsciiWord c = true) :
    isWord c = true := by
  have low : c.toNat < 128 := by
    simp only [isAsciiWord, Char.isAlphanum, Bool.or_eq_true, isAlpha_iff, isDigit_iff,
      beq_iff_eq] at ascii
    rcases ascii with (letter | digit) | rfl
    · omega
    · omega
    · decide
  rw [isWord, if_pos low]
  exact ascii

end Text

/-- A text that does not start with a character of a kind. -/
def Stops (p : Char → Bool) (cs : List Char) : Prop := ∀ c ∈ cs.head?, p c = false

private theorem all_head_iff_stops {p : Char → Bool} {cs : List Char} :
    cs.head?.all (fun c => !p c) = true ↔ Stops p cs := by
  cases cs <;> simp [Stops]

instance (p : Char → Bool) (cs : List Char) : Decidable (Stops p cs) :=
  decidable_of_iff (cs.head?.all fun c => !p c) all_head_iff_stops

theorem stops_dropWhile (p : Char → Bool) (cs : List Char) : Stops p (cs.dropWhile p) := by
  intro c head
  have first := List.head?_dropWhile_not p cs
  rw [Option.mem_def.mp head] at first
  exact first

theorem Stops.ascii {cs : List Char} (stops : Stops Text.isWord cs) :
    Stops Text.isAsciiWord cs := by
  intro c head
  have word := stops c head
  cases ascii : Text.isAsciiWord c with
  | false => rfl
  | true =>
    rw [Text.isWord_of_isAsciiWord ascii] at word
    cases word

namespace Scan

theorem takeWhile_append {p : Char → Bool} {taken rest : List Char}
    (all : ∀ c ∈ taken, p c = true) (stops : Stops p rest) :
    (taken ++ rest).takeWhile p = taken := by
  have none : rest.takeWhile p = [] := by
    cases rest with
    | nil => rfl
    | cons c rest => simp [stops c rfl]
  rw [List.takeWhile_append_of_pos all, none, List.append_nil]

theorem run_append {p : Char → Bool} {taken rest : List Char} (all : ∀ c ∈ taken, p c = true)
    (stops : Stops p rest) : run p (taken ++ rest) = taken.length := by
  rw [run, takeWhile_append all stops]

theorem run_eq_zero {p : Char → Bool} {cs : List Char} (stops : Stops p cs) : run p cs = 0 :=
  run_append (List.forall_mem_nil _) stops

theorem start_bounds {c : Char} (starts : isIdentifierStart c = true) :
    65 ≤ c.toNat ∧ c.toNat ≤ 122 := by
  simp only [isIdentifierStart, Bool.or_eq_true, Text.isAlpha_iff, beq_iff_eq] at starts
  rcases starts with letter | rfl
  · omega
  · decide

theorem isBlank_of_start {c : Char} (starts : isIdentifierStart c = true) :
    Text.isBlank c = false := by
  have bounds := start_bounds starts
  simp only [Text.isBlank, Text.Ranges.contains, Text.blankRanges, List.any_cons, List.any_nil,
    Bool.or_false, Bool.or_eq_false_iff, Bool.and_eq_false_imp, decide_eq_true_eq,
    decide_eq_false_iff_not, Nat.not_le]
  omega

private theorem isDigit_of_start {c : Char} (starts : isIdentifierStart c = true) :
    c.isDigit = false := by
  have bounds := start_bounds starts
  rw [Bool.eq_false_iff, ne_eq, Text.isDigit_iff]
  omega

theorem isAsciiWord_of_start {c : Char} (starts : isIdentifierStart c = true) :
    Text.isAsciiWord c = true := by
  simp only [isIdentifierStart, Bool.or_eq_true] at starts
  simp only [Text.isAsciiWord, Char.isAlphanum, Bool.or_eq_true]
  tauto

theorem ne_of_start {c other : Char} (starts : isIdentifierStart c = true)
    (differs : isIdentifierStart other = false) : c ≠ other := by
  rintro rfl
  rw [starts] at differs
  cases differs

/-- A word of a list is at the start of a text, whole, exactly if the text starts with it and no
character of a word follows. -/
theorem startsWhole_iff {word : String} {taken rest : List Char}
    (ascii : ∀ c ∈ word.toList, Text.isAsciiWord c = true)
    (chars : ∀ c ∈ taken, Text.isAsciiWord c = true) (stops : Stops Text.isAsciiWord rest) :
    (word.toList.isPrefixOf (taken ++ rest) &&
        !((taken ++ rest).drop word.toList.length).head?.any Text.isWord) = true ↔
      word.toList = taken ∧ Stops Text.isWord rest := by
  rw [Bool.and_eq_true, List.isPrefixOf_iff_prefix, Bool.not_eq_true']
  constructor
  · rintro ⟨⟨after, split⟩, ends⟩
    rw [← split, List.drop_left] at ends
    have stopsAfter : Stops Text.isWord after := by
      intro c first
      rwa [first, Option.any_some] at ends
    have same : word.toList = taken := by
      rw [← takeWhile_append ascii stopsAfter.ascii, split, takeWhile_append chars stops]
    rw [same] at split
    exact ⟨same, List.append_cancel_left split ▸ stopsAfter⟩
  · rintro ⟨rfl, ends⟩
    refine ⟨List.prefix_append _ _, ?_⟩
    rw [List.drop_left]
    cases rest with
    | nil => rfl
    | cons c rest => exact ends c rfl

theorem wholeWord_append {words : List String} {taken rest : List Char}
    (ascii : ∀ word ∈ words, ∀ c ∈ word.toList, Text.isAsciiWord c = true)
    (chars : ∀ c ∈ taken, Text.isAsciiWord c = true) (stops : Stops Text.isAsciiWord rest) :
    wholeWord words (taken ++ rest) =
      if String.ofList taken ∈ words ∧ Stops Text.isWord rest then taken.length else 0 := by
  unfold wholeWord
  cases found : words.find? fun word => word.toList.isPrefixOf (taken ++ rest) &&
      !((taken ++ rest).drop word.toList.length).head?.any Text.isWord with
  | some word =>
    have member := List.mem_of_find?_eq_some found
    have whole := List.find?_some found
    obtain ⟨rfl, ends⟩ := (startsWhole_iff (ascii word member) chars stops).mp whole
    rw [String.ofList_toList, if_pos ⟨member, ends⟩]
  | none =>
    rw [if_neg]
    rintro ⟨member, ends⟩
    refine List.find?_eq_none.mp found _ member ?_
    exact (startsWhole_iff (ascii _ member) chars stops).mpr ⟨String.toList_ofList, ends⟩

theorem ascii_of_all {words : List String}
    (all : words.all (fun word => word.toList.all Text.isAsciiWord) = true) :
    ∀ word ∈ words, ∀ c ∈ word.toList, Text.isAsciiWord c = true := by
  intro word member
  exact List.all_eq_true.mp (List.all_eq_true.mp all word member)

theorem keywords_ascii : ∀ word ∈ Rule.keywords,
    ∀ c ∈ word.toList, Text.isAsciiWord c = true :=
  ascii_of_all (by decide)

theorem keyword_starts (word : Keyword) :
    ∃ c cs, word.name.toList = c :: cs ∧ isIdentifierStart c = true := by
  cases word <;> exact ⟨_, _, rfl, by decide⟩

private theorem constant_starts (word : Constant) :
    ∃ c cs, word.name.toList = c :: cs ∧ isIdentifierStart c = true := by
  cases word <;> exact ⟨_, _, rfl, by decide⟩

theorem constants_ascii : ∀ word ∈ Rule.literals,
    ∀ c ∈ word.toList, Text.isAsciiWord c = true :=
  ascii_of_all (by decide)

/-- Where no word starts, no whole word is taken. -/
theorem wholeWord_eq_zero {words : List String} {cs : List Char}
    (ascii : ∀ word ∈ words, ∀ c ∈ word.toList, Text.isAsciiWord c = true)
    (stops : Stops Text.isWord cs) : wholeWord words cs = 0 := by
  have taken := wholeWord_append ascii (List.forall_mem_nil _) stops.ascii
  rw [List.nil_append] at taken
  rw [taken]
  split <;> rfl

private theorem quoted_cons (ne : c ≠ '\'') (cs : List Char) : quoted (c :: cs) = .noMatch := by
  unfold quoted
  split
  next same => exact absurd (List.cons.inj same).1 ne
  next => rfl

theorem comment_cons (ne : c ≠ '#') (cs : List Char) : comment (c :: cs) = 0 := by
  unfold comment
  split
  next same => exact absurd (List.cons.inj same).1 ne
  next => rfl

theorem number_eq_zero (stops : c.isDigit = false) (cs : List Char) : number (c :: cs) = 0 := by
  have ne : c ≠ '0' := by
    rintro rfl
    cases stops
  have radices (mark : Char) (isDigit : Char → Bool) : radix mark isDigit (c :: cs) = 0 := by
    unfold radix
    split
    next same => exact absurd (List.cons.inj same).1 ne
    next => rfl
  have digits : run Char.isDigit (c :: cs) = 0 := run_eq_zero (by simpa [Stops] using stops)
  simp [number, firstLength, radices, decimal, digits]

end Scan

namespace Lexer

theorem firstToken_skip {length : List Char → Nat} (zero : length cs = 0) (name : String)
    (kind : Option Kind) (offset : Nat) (rules : List Rule) :
    firstToken offset cs (.measured name kind length :: rules) = firstToken offset cs rules := by
  simp [firstToken, Rule.apply, Rule.measured, zero, Scan.ofLength]

theorem firstToken_take {length : List Char → Nat} {lexeme rest : List Char} {kind : Option Kind}
    (taken : length (lexeme ++ rest) = lexeme.length) (nonempty : lexeme ≠ [])
    (known : kind.or (Kind.ofName? (String.ofList lexeme)) = some given) (name : String)
    (offset : Nat) (rules : List Rule) :
    firstToken offset (lexeme ++ rest) (.measured name kind length :: rules) =
      .ok ⟨given, offset, lexeme⟩ := by
  have applied : (Rule.measured name kind length).apply (lexeme ++ rest) =
      .matched lexeme.length := by
    obtain ⟨n, size⟩ := Nat.exists_eq_succ_of_ne_zero (mt List.length_eq_zero_iff.mp nonempty)
    simp [Rule.apply, Rule.measured, taken, size, Scan.ofLength]
  have named : (Rule.measured name kind length).kindOf lexeme = some given := known
  rw [firstToken]
  simp only [applied, List.take_left, named]

theorem firstToken_unquoted {c : Char} (quote : c ≠ '\'') (cs : List Char) (offset : Nat) :
    firstToken offset (c :: cs) Rule.table = firstToken offset (c :: cs) (Rule.table.drop 1) := by
  simp [Rule.table, firstToken, Rule.quoted, Rule.apply, Scan.quoted_cons quote]

/-- What starts no string, comment or word is left to the rules after those for keywords. -/
theorem firstToken_unspelled {c : Char} {cs : List Char} (quote : c ≠ '\'') (hash : c ≠ '#')
    (word : Text.isWord c = false) (offset : Nat) :
    firstToken offset (c :: cs) Rule.table = firstToken offset (c :: cs) (Rule.table.drop 3) := by
  have stops : Stops Text.isWord (c :: cs) := by simpa [Stops] using word
  rw [firstToken_unquoted quote, Rule.table, List.drop_succ_cons, List.drop_zero,
    firstToken_skip (Scan.comment_cons hash cs),
    firstToken_skip (Scan.wholeWord_eq_zero Scan.keywords_ascii stops)]
  rfl

theorem firstToken_blanks {taken rest : List Char} (nonempty : taken ≠ [])
    (blank : ∀ c ∈ taken, (c == ' ' || c == '\t') = true)
    (stops : Stops (fun c => c == ' ' || c == '\t') rest) (offset : Nat) :
    firstToken offset (taken ++ rest) Rule.table = .ok ⟨.blanks, offset, taken⟩ := by
  obtain ⟨c, cs, rfl⟩ := List.exists_cons_of_ne_nil nonempty
  have first := blank c (List.mem_cons_self ..)
  rw [List.cons_append, firstToken_unspelled, ← List.cons_append]
  · exact firstToken_take (Scan.run_append blank stops) nonempty rfl "ws" offset _
  all_goals
    simp only [Bool.or_eq_true, beq_iff_eq] at first
    rcases first with rfl | rfl <;> decide

theorem firstToken_newline {blanks rest : List Char} (blank : ∀ c ∈ blanks, Text.isBlank c = true)
    (stops : Stops Text.isBlank rest) (offset : Nat) :
    firstToken offset ('\n' :: blanks ++ rest) Rule.table =
      .ok ⟨.newline, offset, '\n' :: blanks⟩ := by
  have all : ∀ c ∈ '\n' :: blanks, Text.isBlank c = true :=
    List.forall_mem_cons.mpr ⟨by decide, blank⟩
  have taken : Scan.newline ('\n' :: blanks ++ rest) = ('\n' :: blanks).length := by
    rw [Scan.newline, Scan.run_append all stops, List.take_left]
    simp
  have spaces : Scan.blanks ('\n' :: blanks ++ rest) = 0 := Scan.run_eq_zero (by simp [Stops])
  rw [List.cons_append, firstToken_unspelled (by decide) (by decide) (by decide), ← List.cons_append,
    Rule.table]
  simp only [List.drop_succ_cons, List.drop_zero]
  rw [firstToken_skip spaces]
  exact firstToken_take taken (by simp) rfl "nl" offset _

theorem firstToken_comment {chars rest : List Char} (line : '\n' ∉ chars)
    (stops : Stops (· != '\n') rest) (offset : Nat) :
    firstToken offset ('#' :: chars ++ rest) Rule.table = .ok ⟨.comment, offset, '#' :: chars⟩ := by
  have taken : Scan.comment ('#' :: chars ++ rest) = ('#' :: chars).length := by
    have inside : ∀ c ∈ chars, (c != '\n') = true := by
      intro c member
      simpa using fun same : c = '\n' => line (same ▸ member)
    change 1 + Scan.run (· != '\n') (chars ++ rest) = chars.length + 1
    rw [Scan.run_append inside stops, Nat.add_comm]
  rw [List.cons_append, firstToken_unquoted (by decide), ← List.cons_append, Rule.table,
    List.drop_succ_cons, List.drop_zero]
  exact firstToken_take taken (by simp) rfl "comment" offset _

theorem firstToken_keyword (word : Keyword) {rest : List Char} (stops : Stops Text.isWord rest)
    (offset : Nat) :
    firstToken offset (word.name.toList ++ rest) Rule.table =
      .ok ⟨.keyword word, offset, word.name.toList⟩ := by
  have member : word.name ∈ Rule.keywords := by cases word <;> decide
  have taken : Scan.wholeWord Rule.keywords (word.name.toList ++ rest) =
      word.name.toList.length := by
    rw [Scan.wholeWord_append Scan.keywords_ascii (Scan.keywords_ascii _ member) stops.ascii,
      String.ofList_toList, if_pos ⟨member, stops⟩]
  have named : Option.or none (Kind.ofName? (String.ofList word.name.toList)) =
      some (.keyword word) := by
    rw [Option.none_or, String.ofList_toList, Kind.ofName?_eq_some_iff]
    rfl
  obtain ⟨c, cs, spelled, starts⟩ := Scan.keyword_starts word
  have quote : c ≠ '\'' := Scan.ne_of_start starts (by decide)
  have hash : c ≠ '#' := Scan.ne_of_start starts (by decide)
  rw [spelled, List.cons_append, firstToken_unquoted quote, Rule.table, List.drop_succ_cons,
    List.drop_zero, firstToken_skip (Scan.comment_cons hash _), ← List.cons_append, ← spelled]
  exact firstToken_take taken (by simp [spelled]) named "keyword" offset _

/-- What starts like a name, and with no keyword, is left to the rules from that for constants on. -/
theorem firstToken_named {first : Char} {cs : List Char}
    (starts : Scan.isIdentifierStart first = true)
    (keyword : Scan.wholeWord Rule.keywords (first :: cs) = 0) (offset : Nat) :
    firstToken offset (first :: cs) Rule.table =
      firstToken offset (first :: cs) (Rule.table.drop 8) := by
  have differs {other : Char} (differs : Scan.isIdentifierStart other = false) : first ≠ other :=
    Scan.ne_of_start starts differs
  have blanks : Scan.blanks (first :: cs) = 0 := by
    refine Scan.run_eq_zero ?_
    simp [Stops, differs (by decide : Scan.isIdentifierStart ' ' = false),
      differs (by decide : Scan.isIdentifierStart '\t' = false)]
  have newline : Scan.newline (first :: cs) = 0 := by
    have run : Scan.run Text.isBlank (first :: cs) = 0 :=
      Scan.run_eq_zero (by simpa [Stops] using Scan.isBlank_of_start starts)
    simp only [Scan.newline, run, List.take_zero, ite_self]
  have oneOf (marks : List Char) (none : marks.any Scan.isIdentifierStart = false) :
      Scan.oneOf marks (first :: cs) = 0 := by
    have absent : first ∉ marks := fun member => List.any_eq_false.mp none first member starts
    simp [Scan.oneOf, absent]
  rw [firstToken_unquoted (differs (by decide)), Rule.table, List.drop_succ_cons, List.drop_zero,
    firstToken_skip (Scan.comment_cons (differs (by decide)) _), firstToken_skip keyword,
    firstToken_skip blanks, firstToken_skip newline, firstToken_skip (oneOf _ (by decide)),
    firstToken_skip (oneOf _ (by decide)),
    firstToken_skip (Scan.number_eq_zero (Scan.isDigit_of_start starts) _)]
  rfl

theorem firstToken_constant (word : Constant) {rest : List Char} (stops : Stops Text.isWord rest)
    (offset : Nat) :
    firstToken offset (word.name.toList ++ rest) Rule.table =
      .ok ⟨.constant word, offset, word.name.toList⟩ := by
  have member : word.name ∈ Rule.literals := by cases word <;> decide
  have chars := Scan.constants_ascii _ member
  have keyword : Scan.wholeWord Rule.keywords (word.name.toList ++ rest) = 0 := by
    rw [Scan.wholeWord_append Scan.keywords_ascii chars stops.ascii, String.ofList_toList, if_neg]
    rintro ⟨both, -⟩
    cases word <;> exact absurd both (by decide)
  have taken : Scan.wholeWord Rule.literals (word.name.toList ++ rest) =
      word.name.toList.length := by
    rw [Scan.wholeWord_append Scan.constants_ascii chars stops.ascii, String.ofList_toList,
      if_pos ⟨member, stops⟩]
  have named : Option.or none (Kind.ofName? (String.ofList word.name.toList)) =
      some (.constant word) := by
    rw [Option.none_or, String.ofList_toList, Kind.ofName?_eq_some_iff]
    rfl
  obtain ⟨c, cs, spelled, starts⟩ := Scan.constant_starts word
  rw [spelled, List.cons_append] at keyword
  rw [spelled, List.cons_append, firstToken_named starts keyword, ← List.cons_append, ← spelled,
    Rule.table]
  simp only [List.drop_succ_cons, List.drop_zero]
  exact firstToken_take taken (by simp [spelled]) named "literal" offset _

/-- A name is taken up to the first character that is no letter, digit or underscore. It may look like
a keyword or a constant where a character of another script follows. -/
theorem firstToken_name {first : Char} {chars rest : List Char}
    (starts : Scan.isIdentifierStart first = true)
    (continues : ∀ c ∈ chars, Text.isAsciiWord c = true) (stops : Stops Text.isAsciiWord rest)
    (ordinary : Stops Text.isWord rest → String.ofList (first :: chars) ∉
      Keyword.all.map Keyword.name ++ Constant.all.map Constant.name) (offset : Nat) :
    firstToken offset (first :: chars ++ rest) Rule.table =
      .ok ⟨.identifier, offset, first :: chars⟩ := by
  have all : ∀ c ∈ first :: chars, Text.isAsciiWord c = true :=
    List.forall_mem_cons.mpr ⟨Scan.isAsciiWord_of_start starts, continues⟩
  have keyword : Scan.wholeWord Rule.keywords (first :: chars ++ rest) = 0 := by
    rw [Scan.wholeWord_append Scan.keywords_ascii all stops, if_neg]
    rintro ⟨member, ends⟩
    rw [Rule.keywords_eq] at member
    exact ordinary ends (List.mem_append_left _ member)
  have constant : Scan.wholeWord Rule.literals (first :: chars ++ rest) = 0 := by
    rw [Scan.wholeWord_append Scan.constants_ascii all stops, if_neg]
    rintro ⟨member, ends⟩
    rw [Rule.literals_eq] at member
    exact ordinary ends (List.mem_append_right _ member)
  have taken : Scan.identifier (first :: chars ++ rest) = (first :: chars).length := by
    rw [List.cons_append, Scan.identifier, if_pos starts, Scan.run_append continues stops,
      List.length_cons, Nat.add_comm]
  rw [List.cons_append] at keyword
  rw [List.cons_append, firstToken_named starts keyword, ← List.cons_append, Rule.table]
  simp only [List.drop_succ_cons, List.drop_zero]
  rw [firstToken_skip constant]
  exact firstToken_take taken (by simp) rfl "id" offset _

theorem firstToken_identifier {first : Char} {chars rest : List Char}
    (starts : Scan.isIdentifierStart first = true)
    (continues : ∀ c ∈ chars, Text.isAsciiWord c = true)
    (ordinary : String.ofList (first :: chars) ∉
      Keyword.all.map Keyword.name ++ Constant.all.map Constant.name)
    (stops : Stops Text.isWord rest) (offset : Nat) :
    firstToken offset (first :: chars ++ rest) Rule.table =
      .ok ⟨.identifier, offset, first :: chars⟩ :=
  firstToken_name starts continues stops.ascii (fun _ => ordinary) offset

/-- A lexer before a text. -/
def before (offset : Nat) (cs : List Char) : Lexer := ⟨Rule.table, offset, some cs, false⟩

private theorem items_before_nil (offset : Nat) : (before offset []).items = [] :=
  Supply.items_of_next_none rfl

theorem items_before_append {offset : Nat} {lexeme rest : List Char} (nonempty : lexeme ≠ [])
    (found : firstToken offset (lexeme ++ rest) Rule.table = .ok ⟨kind, offset, lexeme⟩) :
    (before offset (lexeme ++ rest)).items =
      .ok ⟨kind, offset, lexeme⟩ :: (before (offset + Text.byteLength lexeme) rest).items := by
  obtain ⟨c, cs, rfl⟩ := List.exists_cons_of_ne_nil nonempty
  have step : (before offset (c :: cs ++ rest)).next =
      (some (.ok ⟨kind, offset, c :: cs⟩), before (offset + Text.byteLength (c :: cs)) rest) := by
    have found : firstToken offset (c :: (cs ++ rest)) Rule.table =
      .ok ⟨kind, offset, c :: cs⟩ := found
    simp [next, before, found, Token.stop]
  exact Supply.items_of_next_some step

theorem ofSource_zero (source : Source) : ofSource source 0 = before 0 source.chars := by
  unfold ofSource ofText before
  by_cases empty : source.chars = []
  · simp [empty]
  · have positive := Text.byteLength_pos_of_ne_nil empty
    have split := Text.splitBytes?_append [] source.chars
    rw [Text.byteLength_nil, List.nil_append] at split
    rw [if_neg (by omega), split]
    rfl

/-- What a text shows: its items without trivia. -/
def shown (offset : Nat) (cs : List Char) : List Item :=
  Layout.strip (before offset cs).items

theorem shown_nil (offset : Nat) : shown offset [] = [] := by
  rw [shown, items_before_nil]
  rfl

theorem shown_trivia {offset : Nat} {lexeme rest : List Char} (nonempty : lexeme ≠ [])
    (found : firstToken offset (lexeme ++ rest) Rule.table = .ok ⟨kind, offset, lexeme⟩)
    (trivia : kind.isTrivia = true) :
    shown offset (lexeme ++ rest) = shown (offset + Text.byteLength lexeme) rest := by
  rw [shown, items_before_append nonempty found, Layout.strip, Token.isTrivia, if_pos trivia]
  rfl

theorem shown_token {offset : Nat} {lexeme rest : List Char} (nonempty : lexeme ≠ [])
    (found : firstToken offset (lexeme ++ rest) Rule.table = .ok ⟨kind, offset, lexeme⟩)
    (visible : kind.isTrivia = false) :
    shown offset (lexeme ++ rest) =
      .ok ⟨kind, offset, lexeme⟩ :: shown (offset + Text.byteLength lexeme) rest := by
  rw [shown, items_before_append nonempty found, Layout.strip, Token.isTrivia, visible]
  rfl

end Lexer

end Offside
