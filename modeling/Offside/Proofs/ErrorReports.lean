import Offside.Compiler
import Offside.Proofs.SourceLines
import Offside.Proofs.StageConservation

/-! Reports of lexing errors. A report shows the lines around the error, and the mark under its line
needs the characters before it: an error inside a character, where a lexer that is started there stops
at once, cannot be reported. Every other one can, as long as line numbers fit the widest field. -/

namespace Offside

variable {α β γ ε : Type}

private theorem Except.mapM_ok_iff {f : α → Except ε β} {list : List α} :
    (∃ results, list.mapM f = .ok results) ↔ ∀ a ∈ list, ∃ b, f a = .ok b := by
  induction list with
  | nil => exact ⟨fun _ => List.forall_mem_nil _, fun _ => ⟨[], rfl⟩⟩
  | cons a list ih =>
    rw [List.forall_mem_cons, ← ih, List.mapM_cons]
    cases f a with
    | error fault => simp [bind, Except.bind]
    | ok b => cases list.mapM f <;> simp [bind, Except.bind, pure, Except.pure]

private theorem Except.map_of_mapM {f : α → Except ε β} {given : α → γ} {got : β → γ}
    (keeps : ∀ a b, f a = .ok b → got b = given a) {list : List α} {results : List β}
    (ran : list.mapM f = .ok results) : results.map got = list.map given := by
  induction list generalizing results with
  | nil =>
    cases ran
    rfl
  | cons a list ih =>
    rw [List.mapM_cons] at ran
    cases first : f a with
    | error fault =>
      rw [first] at ran
      cases ran
    | ok b =>
      cases rest : list.mapM f with
      | error fault =>
        rw [first, rest] at ran
        cases ran
      | ok more =>
        rw [first, rest] at ran
        cases ran
        rw [List.map_cons, List.map_cons, keeps a b first, ih rest]

/-! ### Where lexing stops -/

namespace Lexer

/-- Tokens that lie side by side begin and end alike, between characters or not. -/
theorem Tiles.between_iff {cs : List Char} {start stop : Nat} {tokens : List Token}
    (tiles : Tiles cs start tokens stop) : Text.Between start cs ↔ Text.Between stop cs := by
  induction tokens generalizing start with
  | nil =>
    cases tiles
    rfl
  | cons token tokens ih =>
    obtain ⟨rfl, -, sliced, rest⟩ := tiles
    obtain ⟨starts, stops⟩ := Text.slice_ok_iff.mp ⟨_, sliced⟩
    exact ⟨fun _ => (ih rest).mp stops, fun _ => starts⟩

private theorem Tiles.stop_le {cs : List Char} {start stop : Nat} {tokens : List Token}
    (tiles : Tiles cs start tokens stop) (within : start ≤ Text.byteLength cs) :
    stop ≤ Text.byteLength cs := by
  induction tokens generalizing start with
  | nil =>
    cases tiles
    exact within
  | cons token tokens ih =>
    obtain ⟨rfl, -, sliced, rest⟩ := tiles
    obtain ⟨-, front, back, whole, size⟩ := Text.slice_ok_iff.mp ⟨_, sliced⟩
    apply ih rest
    rw [whole, Text.byteLength_append, size, Token.stop]
    exact Nat.le_add_right _ _

/-- An error stands inside the text, and between characters exactly if the lexer was started there. -/
private theorem fault_place (source : Source) (offset : Nat) :
    ∃ (tokens : List Token) (fault : Option LexError),
      (ofSource source offset).items = streamOf tokens fault ∧
      ∀ error, fault = some error → error.offset ≤ source.length ∧
        (Text.Between error.offset source.chars ↔ Text.Between offset source.chars) := by
  by_cases past : source.length ≤ offset
  · exact ⟨[], none, items_past Rule.table past, by simp⟩
  · have run := drain_run (ofSource source offset)
    obtain ⟨tokens, fault, split, tiles, located, -⟩ := run.tiles rfl (placed_ofText past)
    refine ⟨tokens, fault, split, fun error stopped => ?_⟩
    rw [located error stopped]
    exact ⟨tiles.stop_le (Nat.le_of_not_le past), tiles.between_iff.symm⟩

end Lexer

namespace Compiler

/-- Tokens are gathered, unless an error comes after them. -/
private theorem gather_streamOf (source : Source) (tokens : List Token) (fault : Option LexError) :
    gather source (streamOf tokens fault) =
      fault.elim (.ok tokens) fun error => .error (.parsing (.ofLexing source error)) := by
  induction tokens with
  | nil => cases fault <;> rfl
  | cons token tokens ih =>
    have step : gather source (streamOf (token :: tokens) fault) = (do
        let rest ← gather source (streamOf tokens fault)
        return token :: rest) := by
      rw [streamOf_cons, gather, List.mapM_cons]
      rfl
    rw [step, ih]
    cases fault <;> rfl

/-- A source that begins with an error has no tokens. -/
theorem rawTokens_of_error {source : Source} {offset : Nat} {fault : LexError}
    (first : (Lexer.ofSource source offset).next.1 = some (.error fault)) :
    rawTokens source offset = .error (.parsing (.ofLexing source fault)) := by
  rw [rawTokens, Lexer.items, Supply.items_of_next_some (Prod.ext first rfl)]
  rfl

/-- Whether or not its tokens went through layout, a source has the error of the lexer. -/
private theorem fault_of_tokens {compiler : Compiler} {source : Source} {offset : Nat}
    {error : SyntaxError}
    (failed : rawTokens source offset = .error (.parsing error) ∨
      compiler.tokens source offset = .error (.parsing error)) :
    ∃ fault, error = .ofLexing source fault ∧ fault.offset ≤ source.length ∧
      (Text.Between fault.offset source.chars ↔ Text.Between offset source.chars) := by
  obtain ⟨tokens, fault, lexed, placed⟩ := Lexer.fault_place source offset
  obtain ⟨gathered, failed⟩ :
      ∃ gathered, gather source (streamOf gathered fault) = .error (.parsing error) := by
    rcases failed with failed | failed
    · exact ⟨tokens, lexed ▸ failed⟩
    · obtain ⟨staged, same, -⟩ :=
        Layout.runStages_streamOf compiler.options [.trivia, .newlines, .blocks] tokens fault
      refine ⟨staged, ?_⟩
      rw [← same, ← lexed, ← Layout.items_eq_runStages]
      unfold Compiler.tokens Compiler.items Layout.Stream.create at failed
      cases room : compiler.options.reserve with
      | error shortage =>
        rw [room] at failed
        cases failed
      | ok _ =>
        rw [room] at failed
        exact failed
  rw [gather_streamOf] at failed
  cases fault with
  | none => cases failed
  | some fault =>
    cases failed
    exact ⟨fault, rfl, placed fault rfl⟩

end Compiler

/-! ### What a report shows -/

namespace Source

variable {source : Source} {offset : Nat}

/-- A mark can be put on the line of an offset exactly if the offset lies between characters. -/
theorem markColumn_ok_iff {line : Line} (member : line ∈ source.lines) :
    (∃ marked, source.markColumn (source.position offset).line offset line = .ok marked) ↔
      (line.number = (source.position offset).line → Text.Between offset source.chars) := by
  unfold markColumn
  by_cases own : line.number = (source.position offset).line
  · obtain ⟨starts, before⟩ := start_le_offset member own
    have sliced : (∃ middle, Text.slice line.offset (offset - line.offset) source.chars = .ok middle) ↔
        Text.Between line.offset source.chars ∧
          Text.Between (line.offset + (offset - line.offset)) source.chars := Text.slice_ok_iff
    rw [Nat.add_sub_cancel' before] at sliced
    rw [if_pos own]
    constructor
    · rintro ⟨marked, made⟩ -
      cases taken : Text.slice line.offset (offset - line.offset) source.chars with
      | error bad =>
        rw [taken] at made
        cases made
      | ok middle => exact (sliced.mp ⟨middle, taken⟩).2
    · intro between
      obtain ⟨middle, taken⟩ := sliced.mpr ⟨starts, between own⟩
      rw [taken]
      exact ⟨_, rfl⟩
  · rw [if_neg own]
    exact ⟨fun _ same => absurd same own, fun _ => ⟨line, rfl⟩⟩

private theorem number_markColumn {base : Nat} {line marked : Line}
    (made : source.markColumn base offset line = .ok marked) : marked.number = line.number := by
  unfold markColumn at made
  split at made
  · cases taken : Text.slice line.offset (offset - line.offset) source.chars with
    | error bad =>
      rw [taken] at made
      cases made
    | ok middle =>
      rw [taken] at made
      cases made
      rfl
  · cases made
    rfl

/-- There are lines around an offset inside the text exactly if it lies between characters. They have
the numbers around that of its own line. -/
theorem excerpt_eq {span : Span} (within : span.offset ≤ source.length) (before after : Nat) :
    (¬ Text.Between span.offset source.chars ∧
      ∃ bad, source.excerpt span before after = .error bad) ∨
    (Text.Between span.offset source.chars ∧
      ∃ lines, source.excerpt span before after =
          .ok (some ⟨(source.position span.offset).line, lines⟩) ∧
        lines.map Line.number = (List.range' 1 source.lines.length).filter fun number =>
          (source.position span.offset).line - before ≤ number &&
            number ≤ (source.position span.offset).line + after) := by
  unfold excerpt
  rw [if_neg (Nat.not_lt.mpr within)]
  dsimp only
  generalize near : (source.lines.filter fun line =>
    (source.position span.offset).line - before ≤ line.number &&
      line.number ≤ (source.position span.offset).line + after) = shown
  have marks : (∃ lines, shown.mapM
      (source.markColumn (source.position span.offset).line span.offset) = .ok lines) ↔
      Text.Between span.offset source.chars := by
    rw [Except.mapM_ok_iff]
    constructor
    · intro all
      obtain ⟨line, member, own⟩ := List.mem_map.mp (source.line_position_mem span.offset)
      have listed : line ∈ shown := by
        rw [← near, List.mem_filter, own]
        exact ⟨member, by simp⟩
      exact (markColumn_ok_iff member).mp (all line listed) own
    · intro between line listed
      rw [← near] at listed
      exact (markColumn_ok_iff (List.mem_filter.mp listed).1).mpr fun _ => between
  cases marked : shown.mapM (source.markColumn (source.position span.offset).line span.offset) with
  | error bad =>
    rw [marked] at marks
    exact .inl ⟨fun between => (nomatch marks.mpr between), bad, rfl⟩
  | ok lines =>
    refine .inr ⟨marks.mp ⟨lines, marked⟩, lines, rfl, ?_⟩
    rw [Except.map_of_mapM (fun _ _ made => number_markColumn made) marked, ← near,
      ← map_number_lines, List.filter_map]
    rfl

end Source

namespace Report

private theorem foldl_max_eq {numbers : List Nat} {start most : Nat} (below : start ≤ most)
    (reached : start = most ∨ most ∈ numbers) (bound : ∀ n ∈ numbers, n ≤ most) :
    numbers.foldl max start = most := by
  induction numbers generalizing start with
  | nil =>
    rcases reached with same | member
    · exact same
    · cases member
  | cons n numbers ih =>
    obtain ⟨first, rest⟩ := List.forall_mem_cons.mp bound
    rw [List.foldl_cons]
    apply ih (Nat.max_le.mpr ⟨below, first⟩) _ rest
    rcases reached with same | member
    · left
      omega
    · rcases List.mem_cons.mp member with same | later
      · left
        omega
      · exact .inr later

/-- Width of the field for the numbers of the lines that are shown around a place. -/
def fieldWidth (place : Place) : Nat :=
  min ((place.source.position place.span.offset).line + 2) place.source.lines.length / 10 + 1

theorem numberWidth_eq {place : Place} {lines : List Line}
    (numbers : lines.map Line.number =
      (List.range' 1 place.source.lines.length).filter fun number =>
        (place.source.position place.span.offset).line - 2 ≤ number &&
          number ≤ (place.source.position place.span.offset).line + 2) :
    numberWidth lines = fieldWidth place := by
  have base := place.source.line_position_mem place.span.offset
  rw [Source.map_number_lines, List.mem_range'_1] at base
  rw [numberWidth, fieldWidth, numbers]
  congr 2
  apply foldl_max_eq (Nat.zero_le _)
  · right
    simp only [List.mem_filter, List.mem_range'_1, Bool.and_eq_true, decide_eq_true_eq]
    omega
  · intro n member
    simp only [List.mem_filter, List.mem_range'_1, Bool.and_eq_true, decide_eq_true_eq] at member
    omega

private theorem checkSizes_eq {excerpt : Excerpt} {length : Nat} (short : length ≤ Memory.largest) :
    checkSizes excerpt length =
      if numberWidth excerpt.lines ≤ Text.widestField then .ok ()
      else .error (.field (numberWidth excerpt.lines)) := by
  have room : Memory.reserve length 1 = .ok () :=
    (Memory.reserve_eq_ok_iff length 1).mpr (by omega)
  unfold checkSizes
  dsimp only
  rw [room]
  split <;> rfl

section

variable {place : Place} (within : place.span.offset ≤ place.source.length)
  (short : place.span.length ≤ Memory.largest)

include within

private theorem excerptLines_of_inside
    (inside : ¬ Text.Between place.span.offset place.source.chars) :
    ∃ bad, excerptLines place = .error (.slice bad) := by
  rcases Source.excerpt_eq within 2 2 with ⟨-, bad, none⟩ | ⟨between, -⟩
  · refine ⟨bad, ?_⟩
    rw [excerptLines, none]
    rfl
  · exact absurd between inside

include short

/-- Between characters only the field for line numbers can be too small. -/
private theorem excerptLines_of_between
    (between : Text.Between place.span.offset place.source.chars) :
    ∃ lines, excerptLines place =
      if fieldWidth place ≤ Text.widestField then .ok lines else .error (.field (fieldWidth place)) := by
  rcases Source.excerpt_eq within 2 2 with ⟨inside, -⟩ | ⟨-, lines, made, numbers⟩
  · exact absurd between inside
  · refine ⟨excerptText ⟨(place.source.position place.span.offset).line, lines⟩ place.span.length, ?_⟩
    rw [← numberWidth_eq numbers, excerptLines, made]
    change (checkSizes _ _ >>= fun _ => _) = _
    rw [checkSizes_eq short]
    split <;> rfl

end

/-- A note with a place can be written if the lines around the place can. -/
private theorem render_note (message : String) (place : Place) :
    ∃ write, render [⟨message, some place⟩] = (excerptLines place).map write := by
  refine ⟨fun lines => String.ofList (message.toList ++ ['\n'] ++ ("  -> ".toList ++
    place.source.name.toList ++ [':'] ++
    (place.source.position place.span.offset).render.toList ++ ['\n'] ++ lines ++ ['\n'])), ?_⟩
  simp only [render, List.mapM_cons, List.mapM_nil, noteText, placeText]
  cases excerptLines place with
  | error failure => rfl
  | ok lines => simp [Except.map, bind, Except.bind, pure, Except.pure]

end Report

/-- The place of a lexing error is inside the text, and its mark is no longer than a character. -/
private theorem SyntaxError.place_ofLexing (source : Source) (fault : LexError) :
    (ofLexing source fault).place.span.offset = min fault.offset source.length ∧
      (ofLexing source fault).place.span.length ≤ 4 := by
  refine ⟨rfl, ?_⟩
  simp only [ofLexing]
  split
  · exact Char.utf8Size_le_four _
  · exact Nat.zero_le 4

namespace Compiler

/-- What becomes of the lines around an error becomes of its report. -/
private theorem render_parsing (error : SyntaxError) :
    ∃ write, (Error.parsing error).render = (Report.excerptLines error.place).map write := by
  obtain ⟨write, written⟩ := Report.render_note error.fault.message error.place
  refine ⟨fun lines => String.ofList (("syntax error: " ++ write lines).toList ++ ['\n']), ?_⟩
  simp only [Error.render, Error.message, SyntaxError.render, written]
  cases Report.excerptLines error.place with
  | error failure => rfl
  | ok lines => simp [Except.map, bind, Except.bind, pure, Except.pure, Report.render, Report.noteText]

/-- When an error at a fault of the lexer can be written. -/
theorem render_ofLexing {source : Source} {fault : LexError} (inside : fault.offset ≤ source.length) :
    (Text.Between fault.offset source.chars →
      ∃ text, (Error.parsing (.ofLexing source fault)).render =
        if Report.fieldWidth (SyntaxError.ofLexing source fault).place ≤ Text.widestField then .ok text
        else .error (.field (Report.fieldWidth (SyntaxError.ofLexing source fault).place))) ∧
    (¬ Text.Between fault.offset source.chars →
      ∃ bad, (Error.parsing (.ofLexing source fault)).render = .error (.slice bad)) := by
  obtain ⟨placed, short⟩ := SyntaxError.place_ofLexing source fault
  obtain ⟨write, written⟩ := render_parsing (.ofLexing source fault)
  rw [Nat.min_eq_left inside] at placed
  rw [written]
  generalize place : (SyntaxError.ofLexing source fault).place = shown at placed short ⊢
  have own : shown.source = source := place ▸ rfl
  have within : shown.span.offset ≤ shown.source.length := by
    rw [placed, own]
    exact inside
  rw [← placed, ← own]
  constructor
  · intro between
    have bounded : shown.span.length ≤ Memory.largest := short.trans (by decide)
    obtain ⟨lines, made⟩ := Report.excerptLines_of_between within bounded between
    refine ⟨write lines, ?_⟩
    rw [made]
    split <;> rfl
  · intro split
    obtain ⟨bad, none⟩ := Report.excerptLines_of_inside within split
    rw [none]
    exact ⟨bad, rfl⟩

/-- When an error of the lexer can be reported. Started between characters it can, unless the numbers
of the lines to show need too wide a field. Started inside a character it cannot: the mark under its
line would have to cut that character. -/
theorem lexing_error_reported (compiler : Compiler) {source : Source} {offset : Nat}
    {error : SyntaxError}
    (failed : rawTokens source offset = .error (.parsing error) ∨
      compiler.tokens source offset = .error (.parsing error)) :
    (Text.Between offset source.chars → Report.fieldWidth error.place ≤ Text.widestField →
      ∃ text, (Error.parsing error).render = .ok text) ∧
    (Text.Between offset source.chars → Text.widestField < Report.fieldWidth error.place →
      (Error.parsing error).render = .error (.field (Report.fieldWidth error.place))) ∧
    (¬ Text.Between offset source.chars →
      ∃ bad, (Error.parsing error).render = .error (.slice bad)) := by
  obtain ⟨fault, rfl, inside, alike⟩ := fault_of_tokens failed
  obtain ⟨apart, cut⟩ := render_ofLexing inside
  rw [← alike]
  refine ⟨fun between fits => ?_, fun between wide => ?_, cut⟩
  · obtain ⟨text, written⟩ := apart between
    rw [written, if_pos fits]
    exact ⟨text, rfl⟩
  · obtain ⟨text, written⟩ := apart between
    rw [written, if_neg (Nat.not_le.mpr wide)]

theorem lexing_error_reported_accent :
    rawTokens (.anonymous "é") 0 = .error (.parsing (.ofLexing (.anonymous "é") (.noRule 0))) ∧
      ∃ text, (Error.parsing (.ofLexing (.anonymous "é") (.noRule 0))).render = .ok text := by
  have failed : rawTokens (.anonymous "é") 0 =
      .error (.parsing (.ofLexing (.anonymous "é") (.noRule 0))) := rawTokens_of_error (by decide)
  exact ⟨failed, (lexing_error_reported ⟨{}, {}⟩ (.inl failed)).1 (by decide) (by decide)⟩

/-- A source that is read from inside a character has an error without a report. -/
theorem inside_character_unreported :
    ∃ error, 1 ≤ (Source.anonymous "é").length ∧ rawTokens (.anonymous "é") 1 = .error error ∧
      ∃ bad, error.render = .error (.slice bad) := by
  have failed : rawTokens (.anonymous "é") 1 =
      .error (.parsing (.ofLexing (.anonymous "é") (.noRule 1))) := rawTokens_of_error (by decide)
  exact ⟨_, by decide, failed, (render_ofLexing (by decide)).2 (by decide)⟩

end Compiler

end Offside
