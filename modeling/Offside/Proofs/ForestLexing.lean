import Offside.Proofs.LayoutForest
import Offside.Proofs.WordLexing

/-! What the parts of a forest show once they are written: words and openers are one token each, the
tail of a line shows nothing, and fillers show nothing but newlines. -/

namespace Offside.Layout

open Lexer (shown)

/-- The rest of a text after a line. -/
def AtLineEnd (rest : List Char) : Prop := ∀ c ∈ rest.head?, c = '\n'

theorem AtLineEnd.stops {p : Char → Bool} (ends : AtLineEnd rest) (no : p '\n' = false) :
    Stops p rest := by
  intro c head
  rw [ends c head, no]

theorem atLineEnd_append (front : AtLineEnd cs) (back : AtLineEnd rest) : AtLineEnd (cs ++ rest) := by
  cases cs with
  | nil => exact back
  | cons c cs => exact front

theorem atLineEnd_printFillers (fillers : List Filler) : AtLineEnd (printFillers fillers) := by
  cases fillers with
  | nil => simp [AtLineEnd, printFillers]
  | cons filler fillers => simp [AtLineEnd, printFillers, Filler.print]

theorem atLineEnd_printBreak (gap : List Filler) (column : Nat) (next : List Char) :
    AtLineEnd (printBreak gap column ++ next) := by
  rw [printBreak, List.append_assoc]
  exact atLineEnd_append (atLineEnd_printFillers gap) (by simp [AtLineEnd])

theorem shown_word (word : Word) (stops : Stops Text.isWord rest) (offset : Nat) :
    ∃ token later, token.kind = .identifier ∧ symbol token = word.symbol ∧
      shown offset (word.chars ++ rest) = .ok token :: shown later rest := by
  have found := Lexer.firstToken_identifier word.starts word.continues word.ordinary stops offset
  exact ⟨_, _, rfl, rfl, Lexer.shown_token (List.cons_ne_nil _ _) found rfl⟩

theorem shown_opener (opener : Opener) (stops : Stops Text.isWord rest) (offset : Nat) :
    ∃ token later, token.kind = .keyword opener.word ∧ symbol token = opener.symbol ∧
      shown offset (opener.chars ++ rest) = .ok token :: shown later rest := by
  have found := Lexer.firstToken_keyword opener.word stops offset
  have nonempty : opener.chars ≠ [] := by
    obtain ⟨c, cs, spelled, -⟩ := Scan.keyword_starts opener.word
    simp [Opener.chars, spelled]
  exact ⟨_, _, rfl, rfl, Lexer.shown_token nonempty found rfl⟩

theorem shown_blanks {blanks : List Char} (blank : ∀ c ∈ blanks, (c == ' ' || c == '\t') = true)
    (stops : Stops (fun c => c == ' ' || c == '\t') rest) (offset : Nat) :
    ∃ later, shown offset (blanks ++ rest) = shown later rest := by
  by_cases empty : blanks = []
  · exact ⟨offset, by rw [empty]; rfl⟩
  · have found := Lexer.firstToken_blanks empty blank stops offset
    exact ⟨_, Lexer.shown_trivia empty found rfl⟩

theorem shown_comment (comment : Option Comment) (ends : AtLineEnd rest) (offset : Nat) :
    ∃ later, shown offset (comment.elim [] Comment.print ++ rest) = shown later rest := by
  cases comment with
  | none => exact ⟨offset, rfl⟩
  | some comment =>
    have found := Lexer.firstToken_comment comment.oneLine (ends.stops (by decide)) offset
    exact ⟨_, Lexer.shown_trivia (List.cons_ne_nil _ _) found rfl⟩

theorem stops_comment {p : Char → Bool} (comment : Option Comment) (no : p '#' = false)
    (stops : Stops p rest) : Stops p (comment.elim [] Comment.print ++ rest) := by
  cases comment with
  | none => exact stops
  | some comment => simpa [Stops, Comment.print] using no

theorem shown_tail (tail : Tail) (ends : AtLineEnd rest) (offset : Nat) :
    ∃ later, shown offset (tail.print ++ rest) = shown later rest := by
  have stops : Stops (fun c => c == ' ' || c == '\t')
      (tail.comment.elim [] Comment.print ++ rest) :=
    stops_comment tail.comment (by decide) (ends.stops (by decide))
  obtain ⟨middle, blanks⟩ := shown_blanks tail.blank stops offset
  obtain ⟨later, comment⟩ := shown_comment tail.comment ends middle
  exact ⟨later, by rw [Tail.print, List.append_assoc, blanks, comment]⟩

theorem stops_tail (tail : Tail) (ends : AtLineEnd rest) : Stops Text.isWord (tail.print ++ rest) := by
  rw [Tail.print, List.append_assoc]
  cases form : tail.blanks with
  | nil => exact stops_comment tail.comment (by decide) (ends.stops (by decide))
  | cons c cs =>
    have blank := tail.blank c (by simp [form])
    intro d head
    cases head
    simp only [Bool.or_eq_true, beq_iff_eq] at blank
    rcases blank with rfl | rfl <;> decide

/-- A run of blanks that starts with a line break, or nothing. -/
structure Run (cs : List Char) : Prop where
  starts : AtLineEnd cs
  blank : ∀ c ∈ cs, Text.isBlank c = true

theorem Run.nil : Run [] := ⟨by simp [AtLineEnd], by simp⟩

theorem Run.break {run blanks : List Char} (lead : Run run)
    (blank : ∀ c ∈ blanks, Text.isBlank c = true) :
    ∃ more, run ++ '\n' :: blanks = '\n' :: more ∧ ∀ c ∈ more, Text.isBlank c = true := by
  cases run with
  | nil => exact ⟨blanks, rfl, blank⟩
  | cons c cs =>
    obtain rfl : c = '\n' := lead.starts c rfl
    refine ⟨cs ++ '\n' :: blanks, rfl, fun d member => ?_⟩
    rcases List.mem_append.mp member with old | new
    · exact lead.blank d (List.mem_cons_of_mem _ old)
    · rcases List.mem_cons.mp new with rfl | new
      · decide
      · exact blank d new

theorem shown_newline {run blanks : List Char} (lead : Run run)
    (blank : ∀ c ∈ blanks, Text.isBlank c = true) (stops : Stops Text.isBlank rest) (offset : Nat) :
    ∃ later, shown offset (run ++ '\n' :: blanks ++ rest) =
      .ok ⟨.newline, offset, run ++ '\n' :: blanks⟩ :: shown later rest := by
  obtain ⟨more, same, all⟩ := lead.break blank
  rw [same]
  exact ⟨_, Lexer.shown_token (by simp) (Lexer.firstToken_newline all stops offset) rfl⟩

/-- Fillers show nothing but newlines, and may leave a run of blanks to what comes after them. -/
theorem shown_fillers (fillers : List Filler) {run rest : List Char} (lead : Run run)
    (ends : AtLineEnd rest) (offset : Nat) :
    ∃ (dropped : List Token) (left : List Char) (later : Nat),
      (∀ token ∈ dropped, token.kind = .newline) ∧ Run left ∧
      shown offset (run ++ (printFillers fillers ++ rest)) =
        dropped.map .ok ++ shown later (left ++ rest) := by
  induction fillers generalizing run offset with
  | nil => exact ⟨[], run, offset, by simp, lead, rfl⟩
  | cons filler fillers ih =>
    have after : AtLineEnd (printFillers fillers ++ rest) :=
      atLineEnd_append (atLineEnd_printFillers fillers) ends
    have split : run ++ (printFillers (filler :: fillers) ++ rest) =
        run ++ '\n' :: filler.blanks ++ (filler.comment.elim [] Comment.print ++
          (printFillers fillers ++ rest)) := by
      simp [printFillers, Filler.print]
    rw [split]
    cases form : filler.comment with
    | none =>
      -- The line break of the filler goes on with the run before it.
      have longer : Run (run ++ '\n' :: filler.blanks) := by
        obtain ⟨more, same, all⟩ := lead.break filler.blank
        rw [same]
        exact ⟨by simp [AtLineEnd], List.forall_mem_cons.mpr ⟨by decide, all⟩⟩
      exact ih longer offset
    | some comment =>
      have hash : Stops Text.isBlank
          ((some comment).elim [] Comment.print ++ (printFillers fillers ++ rest)) := by
        intro c head
        cases head
        decide
      obtain ⟨middle, newline⟩ := shown_newline lead filler.blank hash offset
      obtain ⟨next, skipped⟩ := shown_comment (some comment) after middle
      obtain ⟨dropped, left, later, kinds, leads, shows⟩ := ih .nil next
      refine ⟨⟨.newline, offset, run ++ '\n' :: filler.blanks⟩ :: dropped, left, later,
        List.forall_mem_cons.mpr ⟨rfl, kinds⟩, leads, ?_⟩
      rw [newline, skipped]
      exact congrArg _ shows

/-- The width of a newline is the length of its last line, exactly if that has only spaces and tabs. -/
theorem indentWidth_eq_iff (run tail : List Char) :
    indentWidth (run ++ '\n' :: tail) = tail.length ↔ ∀ c ∈ tail, c = ' ' ∨ c = '\t' := by
  have reversed : (run ++ '\n' :: tail).reverse = tail.reverse ++ '\n' :: run.reverse := by simp
  rw [indentWidth, reversed]
  constructor
  · intro width
    have same : (tail.reverse.takeWhile fun c => c == ' ' || c == '\t').length =
        tail.reverse.length := by
      rw [List.takeWhile_append] at width
      split at width
      · assumption
      · rw [width, List.length_reverse]
    have all := List.all_eq_true.mp
      (List.all_takeWhile (p := fun c => c == ' ' || c == '\t') (l := tail.reverse))
    rw [(List.takeWhile_prefix _).eq_of_length same] at all
    intro c member
    simpa using all c (List.mem_reverse.mpr member)
  · intro blank
    rw [Scan.takeWhile_append (by simpa using blank) (by simp [Stops]), List.length_reverse]

private theorem indentWidth_break (run : List Char) (column : Nat) :
    indentWidth (run ++ '\n' :: List.replicate column ' ') = column := by
  have width := (indentWidth_eq_iff run (List.replicate column ' ')).mpr (by simp)
  rwa [List.length_replicate] at width

/-- A break shows newlines, of which the last tells the column of the next line. -/
theorem shown_break (gap : List Filler) (column : Nat) {next : List Char}
    (solid : Stops Text.isBlank next) (offset : Nat) :
    ∃ (dropped : List Token) (last : Token) (later : Nat),
      (∀ token ∈ dropped, token.kind = .newline) ∧ last.kind = .newline ∧
      indentWidth last.lexeme = column ∧
      shown offset (printBreak gap column ++ next) =
        dropped.map .ok ++ .ok last :: shown later next := by
  have ends : AtLineEnd ('\n' :: List.replicate column ' ' ++ next) := by simp [AtLineEnd]
  have spaces : ∀ c ∈ List.replicate column ' ', Text.isBlank c = true := by
    intro c member
    rw [List.eq_of_mem_replicate member]
    decide
  obtain ⟨dropped, left, middle, kinds, run, shows⟩ := shown_fillers gap .nil ends offset
  obtain ⟨later, newline⟩ := shown_newline run spaces solid middle
  refine ⟨dropped, ⟨.newline, middle, left ++ '\n' :: List.replicate column ' '⟩, later, kinds, rfl,
    indentWidth_break left column, ?_⟩
  rw [printBreak, List.append_assoc, ← newline, List.append_assoc]
  exact shows

/-- Fillers at the end show nothing but newlines. -/
theorem shown_trailing (fillers : List Filler) (offset : Nat) :
    ∃ dropped : List Token, (∀ token ∈ dropped, token.kind = .newline) ∧
      shown offset (printFillers fillers) = dropped.map .ok := by
  have ends : AtLineEnd [] := by simp [AtLineEnd]
  obtain ⟨dropped, left, middle, kinds, run, shows⟩ := shown_fillers fillers .nil ends offset
  rw [List.nil_append, List.append_nil, List.append_nil] at shows
  cases left with
  | nil => exact ⟨dropped, kinds, by rw [shows, Lexer.shown_nil, List.append_nil]⟩
  | cons c cs =>
    obtain rfl : c = '\n' := run.starts c rfl
    have blank : ∀ c ∈ cs, Text.isBlank c = true :=
      fun c member => run.blank c (List.mem_cons_of_mem _ member)
    obtain ⟨later, newline⟩ := shown_newline .nil blank (by simp [Stops] : Stops Text.isBlank []) middle
    rw [List.nil_append, List.append_nil, Lexer.shown_nil] at newline
    refine ⟨dropped ++ [⟨.newline, middle, '\n' :: cs⟩], ?_, ?_⟩
    · intro token member
      rcases List.mem_append.mp member with old | new
      · exact kinds token old
      · rw [List.mem_singleton.mp new]
    · rw [shows, newline, List.map_append]
      rfl

end Offside.Layout
