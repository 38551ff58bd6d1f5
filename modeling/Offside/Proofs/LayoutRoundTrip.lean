import Offside.Proofs.ForestLexing
import Offside.Proofs.LayoutStages

/-! Layout reads back the forest that a text was written from. The stages are followed through the text
from left to right: `arrange` is what they make of the rest of a text, after a token and inside some
open blocks. Blocks that end with a line are closed only when the next line comes, or the end. -/

namespace Offside.Layout

open Lexer (shown)
open View (kindAt)

/-- What layout makes of the rest of a text, after a token and inside the open levels. -/
def arrange (before : Option Token) (levels : List Level) (offset : Nat) (cs : List Char) :
    List Item :=
  nest ({} : Options).indenters before levels
    (sift (before.map Token.kind) [] (shown offset cs))

theorem arrange_congr (same : shown offset cs = shown later rest) (before : Option Token)
    (levels : List Level) : arrange before levels offset cs = arrange before levels later rest := by
  rw [arrange, same, arrange]

/-- Kinds that words have. -/
def isSpelled : Kind → Bool
  | .identifier | .keyword _ => true
  | _ => false

theorem arrange_token {token : Token} (spelled : isSpelled token.kind = true)
    (shows : shown offset cs = .ok token :: shown later rest) (before : Option Token)
    (levels : List Level) :
    arrange before levels offset cs = .ok token :: arrange (some token) levels later rest := by
  obtain ⟨kind, start, lexeme⟩ := token
  rw [arrange, shows, arrange]
  cases kind with
  | identifier => rfl
  | keyword word => rfl
  | _ => cases spelled

theorem isElided_newline (before : Option Kind) (opened : List Bracket) :
    isElided before (some .newline) opened = true := by
  cases before <;> simp [isElided, noNewlineBefore]

private theorem isElided_end (before : Option Kind) (opened : List Bracket) :
    isElided before none opened = true := by
  cases before <;> rfl

/-- Newlines are dropped in front of what ends no line. -/
theorem sift_newlines {dropped : List Token} (kinds : ∀ token ∈ dropped, token.kind = .newline)
    {items : List Item} (ends : ∀ before, isElided before (kindAt items 0) [] = true)
    (before : Option Kind) :
    ∃ last, (last = before ∨ last = some .newline) ∧
      sift before [] (dropped.map .ok ++ items) = sift last [] items := by
  induction dropped generalizing before with
  | nil => exact ⟨before, .inl rfl, rfl⟩
  | cons token dropped ih =>
    obtain ⟨here, later⟩ := List.forall_mem_cons.mp kinds
    have elided : isElided before (kindAt (dropped.map .ok ++ items) 0) [] = true := by
      cases dropped with
      | nil => exact ends before
      | cons next dropped =>
        have again : kindAt ((next :: dropped).map .ok ++ items) 0 = some .newline := by
          simp [kindAt, Except.toOption, later next (List.mem_cons_self ..)]
        rw [again]
        exact isElided_newline before []
    obtain ⟨last, form, rest⟩ := ih later (some .newline)
    refine ⟨last, .inr (form.elim id id), ?_⟩
    rw [List.map_cons, List.cons_append, sift, if_pos here, elided, if_pos rfl, here]
    exact rest

/-- Of several newlines the last one is kept. -/
private theorem sift_break {dropped : List Token} (kinds : ∀ token ∈ dropped, token.kind = .newline)
    {last : Token} (newline : last.kind = .newline) {items : List Item}
    (follows : kindAt items 0 = some after) (ends : after ∉ noNewlineBefore)
    (opens : kind ∉ noNewlineAfter) :
    sift (some kind) [] (dropped.map .ok ++ .ok last :: items) =
      .ok last :: sift (some .newline) [] items := by
  have again (before : Option Kind) : isElided before (kindAt (.ok last :: items) 0) [] = true := by
    have kept : kindAt (.ok last :: items) 0 = some .newline := congrArg some newline
    rw [kept]
    exact isElided_newline before []
  obtain ⟨before, form, rest⟩ := sift_newlines kinds again (some kind)
  rw [rest]
  rcases form with rfl | rfl
  · simp [sift, newline, isElided, follows, ends, opens]
  · have opens : Kind.newline ∉ noNewlineAfter := by decide
    simp [sift, newline, isElided, follows, ends, opens]

/-- No newline is kept at the end. -/
private theorem sift_trailing {dropped : List Token}
    (kinds : ∀ token ∈ dropped, token.kind = .newline)
    (before : Option Kind) : sift before [] (dropped.map .ok) = [] := by
  have ends (before : Option Kind) : isElided before (kindAt [] 0) [] = true := isElided_end before []
  obtain ⟨last, -, rest⟩ := sift_newlines kinds ends before
  rw [List.append_nil] at rest
  exact rest

/-- A text that goes on with a word. -/
structure Begins (next : List Char) : Prop where
  solid : Stops Text.isBlank next
  shows : ∀ offset, ∃ token items, shown offset next = .ok token :: items ∧
    isSpelled token.kind = true

private theorem not_mem_noNewlineBefore (spelled : isSpelled kind = true) :
    kind ∉ noNewlineBefore := by
  cases kind with
  | identifier => decide
  | keyword word => cases word <;> decide
  | _ => cases spelled

private theorem not_mem_noNewlineAfter (spelled : isSpelled kind = true) :
    kind ∉ noNewlineAfter := by
  cases kind with
  | identifier => decide
  | keyword word => cases word <;> decide
  | _ => cases spelled

/-- After a word, a break is one newline that tells the column of the next line. -/
theorem arrange_break (gap : List Filler) (column : Nat) {next : List Char} (begins : Begins next)
    (offset : Nat) :
    ∃ (last : Token) (later : Nat), last.kind = .newline ∧ indentWidth last.lexeme = column ∧
      ∀ (token : Token) (levels : List Level), isSpelled token.kind = true →
        arrange (some token) levels offset (printBreak gap column ++ next) =
          (marksBefore ({} : Options).indenters (some token) last levels).1.map .ok ++
            .ok last :: arrange (some last)
              (marksBefore ({} : Options).indenters (some token) last levels).2 later next := by
  obtain ⟨dropped, last, later, kinds, newline, width, shows⟩ :=
    shown_break gap column begins.solid offset
  refine ⟨last, later, newline, width, fun token levels spelled => ?_⟩
  obtain ⟨after, items, first, spelledAfter⟩ := begins.shows later
  have follows : kindAt (shown later next) 0 = some after.kind := by
    rw [first]
    rfl
  rw [arrange, shows, Option.map_some,
    sift_break kinds newline follows (not_mem_noNewlineBefore spelledAfter)
      (not_mem_noNewlineAfter spelled), arrange, Option.map_some, newline]
  rfl

theorem arrange_trailing (fillers : List Filler) (offset : Nat) (before : Option Token)
    (levels : List Level) :
    arrange before levels offset (printFillers fillers) = List.replicate (openBlocks levels)
      (.ok (.pseudo .dedent ((before.map Token.stop).getD 0))) := by
  obtain ⟨dropped, kinds, shows⟩ := shown_trailing fillers offset
  rw [arrange, shows, sift_trailing kinds]
  rfl

/-! ### What a grammar sees of it -/

/-- Items as a grammar sees them. -/
def seen (items : List Item) : List (Except LexError Symbol) := items.map (Except.map symbol)

theorem seen_ok (token : Token) (items : List Item) :
    seen (.ok token :: items) = .ok (symbol token) :: seen items := rfl

theorem seen_append (front back : List Item) : seen (front ++ back) = seen front ++ seen back :=
  List.map_append

private theorem seen_dedents (count offset : Nat) :
    seen (List.replicate count (.ok (.pseudo .dedent offset))) =
      List.replicate count (.ok (.dedent, [])) := List.map_replicate

theorem symbol_newline {token : Token} (newline : token.kind = .newline) :
    symbol token = (.newline, []) := by
  rw [symbol, newline, if_pos rfl]

/-- The next line after an opener is in a new block. -/
private theorem seen_child (gap : List Filler) (column : Nat) {next : List Char}
    (begins : Begins next)
    (offset : Nat) {token : Token} (opener : Opener) (opens : token.kind = .keyword opener.word)
    (levels : List Level) :
    ∃ last later, seen (arrange (some token) levels offset (printBreak gap column ++ next)) =
      .ok (.indent, []) :: .ok (.newline, []) ::
        seen (arrange (some last) (.indented column :: levels) later next) := by
  obtain ⟨last, later, newline, width, arranged⟩ := arrange_break gap column begins offset
  have marks : marksBefore ({} : Options).indenters (some token) last levels =
      ([.pseudo .indent token.stop], .indented column :: levels) := by
    have found : ({} : Options).indenters.contains token.kind = true := by
      rw [opens]
      exact List.contains_iff_mem.mpr opener.opens
    simp only [marksBefore, newline, width, Option.map_some, Option.any_some, found, if_true,
      Option.getD_some]
  refine ⟨last, later, ?_⟩
  rw [arranged token levels (by rw [opens]; rfl), marks, seen_append, seen_ok, symbol_newline newline]
  rfl

/-- The next line after a word closes the blocks that are further to the right. -/
theorem seen_sibling (gap : List Filler) (column : Nat) {next : List Char} (begins : Begins next)
    (offset : Nat) :
    ∃ last later, ∀ (token : Token) (levels : List Level), token.kind = .identifier →
      seen (arrange (some token) levels offset (printBreak gap column ++ next)) =
        List.replicate (closeWider column levels).1 (.ok (.dedent, [])) ++ .ok (.newline, []) ::
          seen (arrange (some last) (closeWider column levels).2 later next) := by
  obtain ⟨last, later, newline, width, arranged⟩ := arrange_break gap column begins offset
  refine ⟨last, later, fun token levels word => ?_⟩
  have marks : marksBefore ({} : Options).indenters (some token) last levels =
      (List.replicate (closeWider column levels).1 (.pseudo .dedent token.stop),
        (closeWider column levels).2) := by
    simp [marksBefore, newline, width, word]
  rw [arranged token levels (by rw [word]; rfl), marks, seen_append, List.map_replicate, seen_dedents,
    seen_ok, symbol_newline newline]

/-- What may come after lines in a column: the end, or a line that is not further to the right. -/
inductive Continues (column : Nat) : List Char → Prop
  | finish (fillers : List Filler) : Continues column (printFillers fillers)
  | line (gap : List Filler) {outer : Nat} (least : outer ≤ column) {next : List Char}
      (begins : Begins next) : Continues column (printBreak gap outer ++ next)

namespace Continues

theorem mono {inner : Nat} (continues : Continues column rest) (further : column ≤ inner) :
    Continues inner rest := by
  cases continues with
  | finish fillers => exact .finish fillers
  | line gap least begins => exact .line gap (Nat.le_trans least further) begins

theorem atLineEnd (continues : Continues column rest) : AtLineEnd rest := by
  cases continues with
  | finish fillers => exact atLineEnd_printFillers fillers
  | line gap least begins => exact atLineEnd_printBreak gap _ _

/-- A block that is further to the right is closed by whatever comes. -/
theorem closes {inner : Nat} (continues : Continues column rest) (further : column < inner)
    {token : Token} (word : token.kind = .identifier) (levels : List Level) (offset : Nat) :
    seen (arrange (some token) (.indented inner :: levels) offset rest) =
      .ok (.dedent, []) :: seen (arrange (some token) levels offset rest) := by
  cases continues with
  | finish fillers =>
    have more : openBlocks (.indented inner :: levels) = openBlocks levels + 1 := rfl
    rw [arrange_trailing, arrange_trailing, more, List.replicate_succ]
    rfl
  | @line gap outer least next begins =>
    obtain ⟨last, later, sibling⟩ := seen_sibling gap outer begins offset
    have wider : closeWider outer (.indented inner :: levels) =
        ((closeWider outer levels).1 + 1, (closeWider outer levels).2) := by
      rw [closeWider, if_pos (by omega)]
    rw [sibling token _ word, sibling token _ word, wider, List.replicate_succ]
    rfl

end Continues

/-! ### Lines -/

theorem begins_word (word : Word) (stops : Stops Text.isWord rest) : Begins (word.chars ++ rest) where
  solid := by
    intro c head
    cases head
    exact Scan.isBlank_of_start word.starts
  shows offset := by
    obtain ⟨token, later, identifier, -, shows⟩ := shown_word word stops offset
    exact ⟨token, _, shows, by rw [identifier]; rfl⟩

theorem begins_opener (opener : Opener) (stops : Stops Text.isWord rest) :
    Begins (opener.chars ++ rest) where
  solid := by
    obtain ⟨first, more, spelled, starts⟩ := Scan.keyword_starts opener.word
    intro c head
    rw [Opener.chars, spelled] at head
    cases head
    exact Scan.isBlank_of_start starts
  shows offset := by
    obtain ⟨token, later, keyword, -, shows⟩ := shown_opener opener stops offset
    exact ⟨token, _, shows, by rw [keyword]; rfl⟩

/-- Where no blank stands, no space or tab does. -/
theorem Begins.ungapped (begins : Begins next) : Stops (fun c => c == ' ' || c == '\t') next := by
  intro c head
  have solid := begins.solid c head
  cases found : c == ' ' || c == '\t' with
  | false => exact found
  | true =>
    simp only [Bool.or_eq_true, beq_iff_eq] at found
    rcases found with rfl | rfl <;> cases solid

theorem begins_leading (leading : Leading) (begins : Begins next) :
    Begins (printLeading leading ++ next) := by
  cases leading with
  | nil => exact begins
  | cons first leading =>
    obtain ⟨word, spaces⟩ := first
    rw [printLeading, List.flatMap_cons, List.append_assoc, List.append_assoc]
    exact begins_word word (by intro c head; cases head; decide)

theorem Line.begins (line : Line) (column : Nat) (ends : AtLineEnd rest) :
    Begins (line.print column ++ rest) := by
  cases line with
  | plain leading last tail =>
    rw [Line.print, List.append_assoc, List.append_assoc]
    exact begins_leading leading (begins_word last (stops_tail tail ends))
  | block leading opener tail further gap body =>
    simp only [Line.print, List.append_assoc]
    exact begins_leading leading
      (begins_opener opener (stops_tail tail (atLineEnd_printBreak gap _ _)))

theorem Lines.begins (lines : Lines) (column : Nat) (ends : AtLineEnd rest) :
    Begins (lines.print column ++ rest) := by
  cases lines with
  | last line =>
    rw [Lines.print]
    exact line.begins column ends
  | more line gap lines =>
    rw [Lines.print, List.append_assoc, List.append_assoc]
    exact line.begins column (atLineEnd_printBreak gap _ _)

theorem seen_word (word : Word) (stops : Stops Text.isWord rest) (before : Option Token)
    (levels : List Level) (offset : Nat) :
    ∃ token later, token.kind = .identifier ∧
      seen (arrange before levels offset (word.chars ++ rest)) =
        .ok word.symbol :: seen (arrange (some token) levels later rest) := by
  obtain ⟨token, later, identifier, same, shows⟩ := shown_word word stops offset
  refine ⟨token, later, identifier, ?_⟩
  rw [arrange_token (by rw [identifier]; rfl) shows, seen_ok, same]

private theorem seen_opener (opener : Opener) (stops : Stops Text.isWord rest)
    (before : Option Token)
    (levels : List Level) (offset : Nat) :
    ∃ token later, token.kind = .keyword opener.word ∧
      seen (arrange before levels offset (opener.chars ++ rest)) =
        .ok opener.symbol :: seen (arrange (some token) levels later rest) := by
  obtain ⟨token, later, keyword, same, shows⟩ := shown_opener opener stops offset
  refine ⟨token, later, keyword, ?_⟩
  rw [arrange_token (by rw [keyword]; rfl) shows, seen_ok, same]

theorem seen_leading (leading : Leading) (begins : Begins next) (before : Option Token)
    (levels : List Level) (offset : Nat) :
    ∃ last later, seen (arrange before levels offset (printLeading leading ++ next)) =
      (leadingSymbols leading).map .ok ++ seen (arrange last levels later next) := by
  induction leading generalizing before offset with
  | nil => exact ⟨before, offset, rfl⟩
  | cons first leading ih =>
    obtain ⟨word, spaces⟩ := first
    have split : printLeading ((word, spaces) :: leading) ++ next =
        word.chars ++ (List.replicate (spaces + 1) ' ' ++ (printLeading leading ++ next)) := by
      simp [printLeading]
    have stops : Stops Text.isWord
        (List.replicate (spaces + 1) ' ' ++ (printLeading leading ++ next)) := by
      intro c head
      cases head
      decide
    have blank : ∀ c ∈ List.replicate (spaces + 1) ' ', (c == ' ' || c == '\t') = true := by simp
    obtain ⟨token, middle, -, wordSeen⟩ := seen_word word stops before levels offset
    obtain ⟨after, spacesShown⟩ :=
      shown_blanks blank (begins_leading leading begins).ungapped middle
    obtain ⟨last, later, restSeen⟩ := ih (some token) after
    refine ⟨last, later, ?_⟩
    rw [split, wordSeen, arrange_congr spacesShown, restSeen]
    rfl

mutual

/-- A line is read back, and leaves open the blocks it stands in. -/
theorem seen_line (line : Line) (column : Nat) (continues : Continues column rest)
    (levels : List Level) (before : Option Token) (offset : Nat) :
    ∃ last later, last.kind = .identifier ∧
      seen (arrange before levels offset (line.print column ++ rest)) =
        line.symbols.map .ok ++ seen (arrange (some last) levels later rest) := by
  cases line with
  | plain leading last tail =>
    have stops := stops_tail tail continues.atLineEnd
    obtain ⟨previous, first, leadingSeen⟩ :=
      seen_leading leading (begins_word last stops) before levels offset
    obtain ⟨token, middle, identifier, wordSeen⟩ := seen_word last stops previous levels first
    obtain ⟨later, tailShown⟩ := shown_tail tail continues.atLineEnd middle
    refine ⟨token, later, identifier, ?_⟩
    rw [Line.print, List.append_assoc, List.append_assoc, leadingSeen, wordSeen,
      arrange_congr tailShown, Line.symbols]
    simp
  | block leading opener tail further gap body =>
    have ends := atLineEnd_printBreak gap (column + further + 1)
      (body.print (column + further + 1) ++ rest)
    have stops := stops_tail tail ends
    have inner : Continues (column + further + 1) rest := continues.mono (by omega)
    obtain ⟨previous, first, leadingSeen⟩ :=
      seen_leading leading (begins_opener opener stops) before levels offset
    obtain ⟨token, second, keyword, openerSeen⟩ := seen_opener opener stops previous levels first
    obtain ⟨third, tailShown⟩ := shown_tail tail ends second
    obtain ⟨newline, fourth, childSeen⟩ := seen_child gap (column + further + 1)
      (body.begins (column + further + 1) inner.atLineEnd) third opener keyword levels
    obtain ⟨last, later, identifier, bodySeen⟩ := seen_lines body (column + further + 1) inner
      (.indented (column + further + 1) :: levels) (by rw [closeWider, if_neg (by omega)])
      (some newline) fourth
    refine ⟨last, later, identifier, ?_⟩
    simp only [Line.print, List.append_assoc]
    rw [leadingSeen, openerSeen, arrange_congr tailShown, childSeen, bodySeen,
      continues.closes (by omega) identifier, Line.symbols]
    simp

/-- Lines are read back inside blocks that are not further to the right. -/
theorem seen_lines (lines : Lines) (column : Nat) (continues : Continues column rest)
    (levels : List Level) (fits : closeWider column levels = (0, levels)) (before : Option Token)
    (offset : Nat) :
    ∃ last later, last.kind = .identifier ∧
      seen (arrange before levels offset (lines.print column ++ rest)) =
        lines.symbols.map .ok ++ seen (arrange (some last) levels later rest) := by
  cases lines with
  | last line =>
    rw [Lines.print, Lines.symbols]
    exact seen_line line column continues levels before offset
  | more line gap lines =>
    have begins := lines.begins column continues.atLineEnd
    obtain ⟨previous, first, identifier, lineSeen⟩ :=
      seen_line line column (.line gap (Nat.le_refl column) begins) levels before offset
    obtain ⟨newline, second, sibling⟩ := seen_sibling gap column begins first
    obtain ⟨last, later, identifierLast, linesSeen⟩ :=
      seen_lines lines column continues levels fits (some newline) second
    refine ⟨last, later, identifierLast, ?_⟩
    rw [Lines.print, List.append_assoc, List.append_assoc, lineSeen,
      sibling previous levels identifier, fits, linesSeen, Lines.symbols]
    simp

end

private theorem seen_forest (forest : Forest) : seen (arrange none [] 0 forest.print) =
    forest.symbols.map .ok := by
  obtain ⟨lines, trailing⟩ := forest
  cases lines with
  | none =>
    rw [Forest.print, Option.elim_none, List.nil_append, arrange_trailing]
    rfl
  | some lines =>
    obtain ⟨last, later, -, linesSeen⟩ := seen_lines lines 0 (.finish trailing) [] rfl none 0
    rw [Forest.print, Option.elim_some, linesSeen, arrange_trailing]
    exact List.append_nil _

/-! ### From texts to streams -/

/-- With options as they are by default, the items of a source are its text, arranged. -/
theorem items_eq_arrange (source : Source) : items {} source 0 = arrange none [] 0 source.chars := by
  rw [items_eq_nest, Lexer.ofSource_zero]
  rfl

/-- The stream of a text that a forest was written to yields the forest, and no error. -/
theorem create_reads_forest (forest : Forest) (name : String) (id : Nat) :
    ∃ stream, Stream.create {} ⟨name, String.ofList forest.print, id⟩ 0 = .ok stream ∧
      seen stream.unread = forest.symbols.map .ok := by
  refine ⟨_, rfl, ?_⟩
  have chars : Source.chars ⟨name, String.ofList forest.print, id⟩ = forest.print :=
    String.toList_ofList
  change seen (items {} ⟨name, String.ofList forest.print, id⟩ 0) = _
  rw [items_eq_arrange, chars]
  exact seen_forest forest

/-- Two blocks, one in the other, that end at once. -/
def stairs : Forest :=
  let word (c : Char) (starts : Scan.isIdentifierStart c = true)
      (ordinary : String.ofList [c] ∉
        Keyword.all.map Keyword.name ++ Constant.all.map Constant.name) : Word :=
    ⟨c, [], starts, by simp, ordinary⟩
  let inner : Line := .block [] ⟨.elseWord, by decide⟩ ⟨[], by simp, none⟩ 0 []
    (.last (.plain [] (word 'b' (by decide) (by decide)) ⟨[], by simp, none⟩))
  let outer : Line := .block [(word 'a' (by decide) (by decide), 0)] ⟨.doWord, by decide⟩
    ⟨[' '], by simp, some ⟨['!'], by decide⟩⟩ 1 [⟨[], by simp, none⟩] (.last inner)
  let after : Line := .plain [] (word 'c' (by decide) (by decide)) ⟨[], by simp, none⟩
  ⟨some (.more outer [] (.last after)), [⟨[], by simp, none⟩]⟩

theorem create_reads_stairs :
    ∃ stream, Stream.create {} (.anonymous "a do #!\n\n  else\n   b\nc\n") 0 = .ok stream ∧
      seen stream.unread = [.ok (.identifier, ['a']), .ok (.keyword .doWord, ['d', 'o']),
        .ok (.indent, []), .ok (.newline, []), .ok (.keyword .elseWord, ['e', 'l', 's', 'e']),
        .ok (.indent, []), .ok (.newline, []), .ok (.identifier, ['b']), .ok (.dedent, []),
        .ok (.dedent, []), .ok (.newline, []), .ok (.identifier, ['c'])] := by
  have printed : String.ofList stairs.print = "a do #!\n\n  else\n   b\nc\n" := by decide
  have read := create_reads_forest stairs "<anonymous>" 0
  rw [printed] at read
  exact read

end Offside.Layout
