import Offside.Proofs.ForestLexing
import Offside.Proofs.NewlineSeparation
import Offside.Proofs.SourceLines
import Offside.Proofs.StageConservation

/-! Indentation is measured on the line that it belongs to. A newline takes all blanks that follow it,
and a comment goes to the end of its line, where another newline starts: so the newline that is kept is
the last one before the next token, and that token stands where the newline ends. What the newline
holds after its last line feed is then what stands before the token on its line. -/

namespace Offside

private theorem Kind.eq_of_isTrivia {kind : Kind} (trivia : kind.isTrivia = true) :
    kind = .blanks ∨ kind = .comment := by
  unfold isTrivia at trivia
  split at trivia
  · exact .inl rfl
  · exact .inr rfl
  · cases trivia

/-- Text with a line feed has a last one. -/
private theorem Text.exists_last_feed {cs : List Char} (feed : '\n' ∈ cs) :
    ∃ lines tail, cs = lines ++ '\n' :: tail ∧ '\n' ∉ tail := by
  obtain ⟨tail, lines, same, none⟩ := List.eq_append_cons_of_mem (List.mem_reverse.mpr feed)
  refine ⟨lines.reverse, tail.reverse, ?_, ?_⟩
  · simpa using congrArg List.reverse same
  · rwa [List.mem_reverse]

namespace Scan

private theorem take_run (p : Char → Bool) (cs : List Char) : cs.take (run p cs) = cs.takeWhile p :=
  List.prefix_iff_eq_take.mp (List.takeWhile_prefix p) |>.symm

theorem drop_run (p : Char → Bool) (cs : List Char) : cs.drop (run p cs) = cs.dropWhile p := by
  have whole : cs.take (run p cs) ++ cs.drop (run p cs) = cs.takeWhile p ++ cs.dropWhile p := by
    rw [List.take_append_drop, List.takeWhile_append_dropWhile]
  rw [take_run] at whole
  exact List.append_cancel_left whole

/-- A newline that is taken holds a line feed, and no blank follows it. -/
private theorem newline_spec {cs : List Char} (taken : newline cs ≠ 0) :
    '\n' ∈ cs.take (newline cs) ∧ Stops Text.isBlank (cs.drop (newline cs)) := by
  unfold newline at taken ⊢
  dsimp only at taken ⊢
  split
  · rename_i feed
    rw [drop_run]
    exact ⟨List.contains_iff_mem.mp feed, stops_dropWhile _ cs⟩
  · rename_i none
    rw [if_neg none] at taken
    exact absurd rfl taken

/-- After a comment the text is at an end, or goes on with a line feed. -/
private theorem comment_spec {cs : List Char} (taken : comment cs ≠ 0) :
    Stops (· != '\n') (cs.drop (comment cs)) := by
  cases cs with
  | nil => exact absurd rfl taken
  | cons c cs =>
    by_cases hash : c = '#'
    · have size : comment (c :: cs) = run (· != '\n') cs + 1 := by
        rw [hash, Nat.add_comm]
        rfl
      rw [size, List.drop_succ_cons, drop_run]
      exact stops_dropWhile _ cs
    · exact absurd (comment_cons hash cs) taken

private theorem isBlank_of_blanks {c : Char} {cs : List Char} (taken : blanks (c :: cs) ≠ 0) :
    Text.isBlank c = true := by
  by_cases gap : (c == ' ' || c == '\t') = true
  · rw [Bool.or_eq_true, beq_iff_eq, beq_iff_eq] at gap
    rcases gap with rfl | rfl <;> decide
  · have stops : Stops (fun c => c == ' ' || c == '\t') (c :: cs) := by simpa [Stops] using gap
    exact absurd (run_eq_zero stops) taken

end Scan

namespace Lexer

/-- A token whose kind is not named by its text was made by the rule of its kind. -/
theorem lexeme_of_kind {offset : Nat} {cs : List Char} {token : Token} {name : String} {kind : Kind}
    {length : List Char → Nat} (found : firstToken offset cs Rule.table = .ok token)
    (own : token.kind = kind) (unnamed : kind.isVerbatim = false)
    (only : Rule.table.filter (fun rule => rule.kind == some kind) =
      [.measured name (some kind) length]) :
    length cs ≠ 0 ∧ token.lexeme = cs.take (length cs) := by
  obtain ⟨rule, member, n, taken, named, lexeme⟩ := rule_of_firstToken found
  obtain ⟨other, given, origin⟩ := (Rule.regular_table rule member).typed cs n taken
  obtain rfl : other = kind := own ▸ Option.some.inj (given.symm.trans named)
  rw [unnamed, or_iff_left Bool.false_ne_true] at origin
  have found : rule ∈ Rule.table.filter fun rule => rule.kind == some other :=
    List.mem_filter.mpr ⟨member, by rw [origin, beq_self_eq_true]⟩
  rw [only, List.mem_singleton] at found
  rw [found] at taken
  obtain rfl := Rule.length_of_apply_measured taken
  exact ⟨Nat.ne_of_gt (Rule.length_pos_of_apply taken), lexeme⟩

/-- What is left of a text after a token. -/
theorem drop_lexeme {cs : List Char} {n : Nat} {token : Token} (lexeme : token.lexeme = cs.take n) :
    cs.drop token.lexeme.length = cs.drop n := by
  rw [lexeme, List.length_take]
  rcases Nat.le_total n cs.length with short | long
  · rw [Nat.min_eq_left short]
  · rw [Nat.min_eq_right long, List.drop_length, List.drop_of_length_le long]

/-! ### What a text shows, step by step -/

theorem shown_fault {offset : Nat} {cs : List Char} {fault : LexError} (nonempty : cs ≠ [])
    (failed : firstToken offset cs Rule.table = .error fault) : shown offset cs = [.error fault] := by
  rw [shown, before, items_of_fault nonempty failed]
  rfl

theorem shown_step {offset : Nat} {cs : List Char} {token : Token} (nonempty : cs ≠ [])
    (found : firstToken offset cs Rule.table = .ok token) :
    shown offset cs = (if token.isTrivia then [] else [.ok token]) ++
      shown token.stop (cs.drop token.lexeme.length) := by
  have step : Supply.next (before offset cs) =
      (some (.ok token), before token.stop (cs.drop token.lexeme.length)) :=
    pulls_iff.mp (.taking nonempty found)
  rw [shown, items, Supply.items_of_next_some step, Layout.strip]
  split <;> rfl

/-- A token is taken from a text where a part of it is skipped, and leaves the rest. -/
structure TakenAfter (offset : Nat) (cs skipped : List Char) (token : Token) (left : List Char) :
    Prop where
  whole : cs = skipped ++ (token.lexeme ++ left)
  start : token.start = offset + Text.byteLength skipped
  found : firstToken token.start (token.lexeme ++ left) Rule.table = .ok token

theorem TakenAfter.first {offset : Nat} {cs : List Char} {token : Token} (nonempty : cs ≠ [])
    (found : firstToken offset cs Rule.table = .ok token) :
    TakenAfter offset cs [] token (cs.drop token.lexeme.length) := by
  obtain ⟨start, -, parts⟩ := firstToken_eq_ok nonempty found
  exact ⟨parts, start, by rw [start, ← parts, found]⟩

theorem TakenAfter.later {offset : Nat} {cs skipped rest left : List Char} {first token : Token}
    (one : TakenAfter offset cs [] first rest) (two : TakenAfter first.stop rest skipped token left) :
    TakenAfter offset cs (first.lexeme ++ skipped) token left where
  whole := by rw [one.whole, two.whole, List.nil_append, List.append_assoc]
  start := by
    have start : first.start = offset := one.start
    rw [two.start, Token.stop, start, Text.byteLength_append, Nat.add_assoc]
  found := two.found

/-- A token that a text shows is taken from some part of it, and the rest shows what comes after. -/
private theorem shown_split {offset : Nat} {cs : List Char} {front rest : List Item} {token : Token}
    (split : shown offset cs = front ++ .ok token :: rest) :
    ∃ skipped left, TakenAfter offset cs skipped token left ∧ rest = shown token.stop left := by
  induction size : cs.length using Nat.strong_induction_on generalizing offset cs front with
  | _ bound ih =>
  by_cases empty : cs = []
  · rw [empty, shown_nil] at split
    cases front <;> cases split
  cases found : firstToken offset cs Rule.table with
  | error fault =>
    rw [shown_fault empty found] at split
    cases front with
    | nil => cases split
    | cons item front => cases front <;> cases split
  | ok first =>
    have one := TakenAfter.first empty found
    -- The token is the one that is taken here, or one of those that are taken from what is left.
    have further {tail : List Item}
        (split : shown first.stop (cs.drop first.lexeme.length) = tail ++ .ok token :: rest) :
        ∃ skipped left, TakenAfter offset cs skipped token left ∧ rest = shown token.stop left := by
      have shorter : (cs.drop first.lexeme.length).length < bound := by
        have some := List.length_pos_of_ne_nil (firstToken_eq_ok empty found).2.1
        have whole := List.length_pos_of_ne_nil empty
        rw [List.length_drop, ← size]
        omega
      obtain ⟨skipped, left, two, later⟩ := ih _ shorter split rfl
      exact ⟨_, left, one.later two, later⟩
    rw [shown_step empty found] at split
    cases trivia : first.isTrivia with
    | true =>
      rw [trivia, if_pos rfl] at split
      exact further split
    | false =>
      rw [trivia, if_neg Bool.false_ne_true] at split
      cases front with
      | nil =>
        obtain ⟨same, later⟩ := List.cons.inj split
        cases same
        exact ⟨[], _, one, later.symm⟩
      | cons item front =>
        obtain ⟨-, later⟩ := List.cons.inj split
        exact further later

/-- A newline takes the blanks that follow its line feed. -/
private theorem newline_taken {offset : Nat} {token : Token} {left : List Char}
    (found : firstToken offset (token.lexeme ++ left) Rule.table = .ok token)
    (kind : token.kind = .newline) : '\n' ∈ token.lexeme ∧ Stops Text.isBlank left := by
  obtain ⟨taken, lexeme⟩ := lexeme_of_kind found kind rfl rfl
  obtain ⟨feed, stops⟩ := Scan.newline_spec taken
  rw [← drop_lexeme lexeme, List.drop_left] at stops
  exact ⟨lexeme ▸ feed, stops⟩

/-- A text that starts with a line feed shows a newline first. -/
private theorem shown_feed (offset : Nat) (cs : List Char) :
    ∃ token rest, shown offset ('\n' :: cs) = .ok token :: rest ∧ token.kind = .newline := by
  have blank : ∀ c ∈ cs.takeWhile Text.isBlank, Text.isBlank c = true :=
    List.all_eq_true.mp List.all_takeWhile
  have found := firstToken_newline blank (stops_dropWhile Text.isBlank cs) offset
  have shows := shown_token (List.cons_ne_nil _ _) found rfl
  rw [List.cons_append, List.takeWhile_append_dropWhile] at shows
  exact ⟨_, _, shows, rfl⟩

/-- Where no blank stands, the first token that is shown stands too, or it is a newline: a comment
leaves nothing else to its line. -/
private theorem shown_solid {offset : Nat} {cs : List Char} {token : Token} {rest : List Item}
    (solid : Stops Text.isBlank cs) (shows : shown offset cs = .ok token :: rest) :
    token.start = offset ∨ token.kind = .newline := by
  by_cases empty : cs = []
  · rw [empty, shown_nil] at shows
    cases shows
  cases found : firstToken offset cs Rule.table with
  | error fault =>
    rw [shown_fault empty found] at shows
    cases shows
  | ok first =>
    rw [shown_step empty found] at shows
    cases trivia : first.isTrivia with
    | false =>
      rw [trivia, if_neg Bool.false_ne_true] at shows
      obtain ⟨same, -⟩ := List.cons.inj shows
      cases same
      exact .inl (firstToken_eq_ok empty found).1
    | true =>
      rw [trivia, if_pos rfl, List.nil_append] at shows
      rcases Kind.eq_of_isTrivia trivia with blanks | comment
      · obtain ⟨taken, -⟩ := lexeme_of_kind found blanks rfl rfl
        obtain ⟨c, cs, rfl⟩ := List.exists_cons_of_ne_nil empty
        have not_blank : Text.isBlank c = false := solid c rfl
        rw [Scan.isBlank_of_blanks taken] at not_blank
        cases not_blank
      · obtain ⟨taken, lexeme⟩ := lexeme_of_kind found comment rfl rfl
        have ends := Scan.comment_spec taken
        rw [← drop_lexeme lexeme] at ends
        cases left : cs.drop first.lexeme.length with
        | nil =>
          rw [left, shown_nil] at shows
          cases shows
        | cons c cs =>
          rw [left] at ends shows
          obtain rfl : c = '\n' := by simpa using ends c rfl
          obtain ⟨newline, others, first, kind⟩ := shown_feed first.stop cs
          rw [first] at shows
          obtain ⟨same, -⟩ := List.cons.inj shows
          cases same
          exact .inr kind

/-- A token is read only from a place between two characters, and what is read is shown from there. -/
private theorem shown_of_split {source : Source} {offset : Nat} {front rest : List Item}
    {token : Token}
    (split : Layout.strip (ofSource source offset).items = front ++ .ok token :: rest) :
    ∃ ahead left, source.chars = ahead ++ left ∧ offset = Text.byteLength ahead ∧
      shown offset left = front ++ .ok token :: rest := by
  obtain ⟨tokens, fault, stop, items, tiles, -⟩ := items_tile Rule.table source.chars offset
  have between : Text.Between offset source.chars := by
    cases tokens with
    | nil =>
      rw [ofSource, items, Layout.strip_streamOf] at split
      have member : .ok token ∈ streamOf [] fault :=
        split ▸ List.mem_append_right front List.mem_cons_self
      exact absurd (ok_mem_streamOf.mp member) List.not_mem_nil
    | cons first tokens =>
      obtain ⟨rfl, -, sliced, -⟩ := tiles
      exact (Text.slice_ok_iff.mp ⟨_, sliced⟩).1
  obtain ⟨ahead, left, whole, rfl⟩ := between
  rw [ofSource, whole, ofText_append] at split
  exact ⟨ahead, left, whole, rfl, split⟩

end Lexer

namespace Layout

/-- After a newline that is kept comes a token that starts where the newline ends. The width of the
newline is the column of that token exactly if only spaces and tabs come after its last line feed. -/
theorem newline_measures_line {window offset : Nat} {source : Source} {front after : List Item}
    {newline : Token}
    (split : dropNewlines window (dropTrivia (Lexer.ofSource source offset).items) =
      front ++ .ok newline :: after) (kind : newline.kind = .newline) :
    ∃ next rest, after = .ok next :: rest ∧ next.start = newline.stop ∧
      ∃ lines tail, newline.lexeme = lines ++ '\n' :: tail ∧ '\n' ∉ tail ∧
        (indentWidth newline.lexeme = (source.position next.start).column ↔
          ∀ c ∈ tail, c = ' ' ∨ c = '\t') := by
  rw [dropNewlines_eq_sift, dropTrivia_eq_strip, throughError_strip] at split
  obtain ⟨tokens, others, items, stays, rfl⟩ := sift_newline split kind
  obtain ⟨-, ⟨other, follows, allowed⟩, -⟩ := (isElided_eq_false_iff _ _ _).mp stays
  obtain ⟨next, rest, rfl, rfl⟩ := kindAt_zero follows
  have starts := ne_newline_of_allowed allowed
  -- The rest of the text starts solid after the newline, and shows the next token first.
  obtain ⟨ahead, text, whole, rfl, shows⟩ := Lexer.shown_of_split items
  obtain ⟨skipped, left, taken, later⟩ := Lexer.shown_split shows
  obtain ⟨feed, solid⟩ := Lexer.newline_taken taken.found kind
  have place : next.start = newline.stop :=
    (Lexer.shown_solid solid later.symm).resolve_right starts
  refine ⟨next, _, sift_kept fun newline => absurd newline starts, place, ?_⟩
  obtain ⟨lines, tail, lexeme, single⟩ := Text.exists_last_feed feed
  refine ⟨lines, tail, lexeme, single, ?_⟩
  have column : (source.position next.start).column = tail.length := by
    have start : next.start = Text.byteLength (ahead ++ skipped ++ lines ++ '\n' :: tail) := by
      rw [place, Token.stop, taken.start, lexeme, ← Text.byteLength_append, ← Text.byteLength_append,
        List.append_assoc _ lines]
    have chars : source.chars = ahead ++ skipped ++ lines ++ '\n' :: (tail ++ left) := by
      simp [whole, taken.whole, lexeme]
    rw [start, Source.column_position chars single]
  rw [column, lexeme]
  exact indentWidth_eq_iff lines tail

/-- Two words, and between them a line that holds only a comment. -/
theorem shown_commentBetween : Lexer.shown 0 ['a', '\n', '#', '\n', ' ', ' ', 'b'] =
    [.ok ⟨.identifier, 0, ['a']⟩, .ok ⟨.newline, 1, ['\n']⟩, .ok ⟨.newline, 3, ['\n', ' ', ' ']⟩,
      .ok ⟨.identifier, 6, ['b']⟩] := by
  have word : Lexer.shown 0 (['a'] ++ ['\n', '#', '\n', ' ', ' ', 'b']) =
      .ok ⟨.identifier, 0, ['a']⟩ :: Lexer.shown 1 ['\n', '#', '\n', ' ', ' ', 'b'] :=
    Lexer.shown_token (List.cons_ne_nil _ _)
      (Lexer.firstToken_identifier (by decide) (List.forall_mem_nil _) (by decide) (by decide) 0) rfl
  have first : Lexer.shown 1 (['\n'] ++ ['#', '\n', ' ', ' ', 'b']) =
      .ok ⟨.newline, 1, ['\n']⟩ :: Lexer.shown 2 ['#', '\n', ' ', ' ', 'b'] :=
    Lexer.shown_token (List.cons_ne_nil _ _)
      (Lexer.firstToken_newline (List.forall_mem_nil _) (by decide) 1) rfl
  have comment : Lexer.shown 2 (['#'] ++ ['\n', ' ', ' ', 'b']) =
      Lexer.shown 3 ['\n', ' ', ' ', 'b'] :=
    Lexer.shown_trivia (List.cons_ne_nil _ _)
      (Lexer.firstToken_comment List.not_mem_nil (by decide) 2) rfl
  have second : Lexer.shown 3 (['\n', ' ', ' '] ++ ['b']) =
      .ok ⟨.newline, 3, ['\n', ' ', ' ']⟩ :: Lexer.shown 6 ['b'] := by
    have spaces : ∀ c ∈ [' ', ' '], Text.isBlank c = true := List.all_eq_true.mp (by decide)
    exact Lexer.shown_token (List.cons_ne_nil _ _) (Lexer.firstToken_newline spaces (by decide) 3) rfl
  have last : Lexer.shown 6 (['b'] ++ []) = .ok ⟨.identifier, 6, ['b']⟩ :: Lexer.shown 7 [] :=
    Lexer.shown_token (List.cons_ne_nil _ _)
      (Lexer.firstToken_identifier (by decide) (List.forall_mem_nil _) (by decide) (by decide) 6) rfl
  simp only [List.cons_append, List.nil_append] at word first comment second last
  rw [word, first, comment, second, last, Lexer.shown_nil]

/-- The newline before the comment is dropped, and the one after it is as wide as the column of the
word that follows. -/
theorem newline_measures_line_commented :
    dropNewlines 10 (dropTrivia (Lexer.ofSource (.anonymous "a\n#\n  b") 0).items) =
      [.ok ⟨.identifier, 0, ['a']⟩] ++ .ok ⟨.newline, 3, ['\n', ' ', ' ']⟩ ::
        [.ok ⟨.identifier, 6, ['b']⟩] ∧
    indentWidth ['\n', ' ', ' '] = ((Source.anonymous "a\n#\n  b").position 6).column := by
  have kept : dropNewlines 10 (dropTrivia (Lexer.ofSource (.anonymous "a\n#\n  b") 0).items) =
      [.ok ⟨.identifier, 0, ['a']⟩] ++ .ok ⟨.newline, 3, ['\n', ' ', ' ']⟩ ::
        [.ok ⟨.identifier, 6, ['b']⟩] := by
    rw [Lexer.ofSource_zero, dropNewlines_eq_sift, dropTrivia_eq_strip, throughError_strip]
    exact congrArg (sift none []) shown_commentBetween
  refine ⟨kept, ?_⟩
  obtain ⟨next, rest, same, -, lines, tail, lexeme, single, width⟩ := newline_measures_line kept rfl
  cases same
  refine width.mpr fun c member => .inl ?_
  have within : c ∈ lines ++ '\n' :: tail := List.mem_append_right lines (.tail _ member)
  rw [← lexeme] at within
  have other : c ≠ '\n' := fun feed => single (feed ▸ member)
  simpa [other] using within

end Layout

end Offside
