import Mathlib.Data.List.Intervals
import Offside.Proofs.ReadingOrder

/-! Excerpts show the lines around a span. The lines of a text are cut at its line feeds, and positions
count line feeds: so the line that an excerpt marks is the one of the position, and the characters of
the line before the mark are as many as the column says. -/

namespace Offside

/-- What follows a line feed, or the start of the text, is the last line as long as there is no other
line feed. -/
private theorem Text.lastLine_append {front tail : List Char}
    (starts : ∀ c ∈ front.getLast?, c = '\n')
    (single : '\n' ∉ tail) : lastLine (front ++ tail) = tail := by
  induction tail using List.reverseRecOn with
  | nil =>
    rw [List.append_nil]
    refine List.rtakeWhile_eq_nil_iff.mpr fun nonempty => ?_
    rw [starts _ (List.getLast?_eq_some_getLast nonempty)]
    decide
  | append_singleton tail c ih =>
    have other : c ≠ '\n' := by
      rintro rfl
      exact single (List.mem_append_right tail (List.mem_singleton_self _))
    have rest := ih fun feed => single (List.mem_append_left [c] feed)
    rw [lastLine] at rest ⊢
    rw [← List.append_assoc, List.rtakeWhile_concat_pos _ _ c (by simpa using other), rest]

/-- The line stands in a text whose first line has the given number and starts at the given offset:
after as many line feeds as its number says, from where the last of them, or the start of the text,
leaves off, and up to the next line feed or the end. -/
def Line.StandsIn (number offset : Nat) (cs : List Char) (line : Line) : Prop :=
  ∃ front back, cs = front ++ (line.text ++ back) ∧ line.offset = offset + Text.byteLength front ∧
    line.number = number + front.count '\n' ∧ (∀ c ∈ front.getLast?, c = '\n') ∧
    '\n' ∉ line.text ∧ ∀ c ∈ back.head?, c = '\n'

/-- A line of a text comes later when more lines are put in front of it. -/
theorem Line.StandsIn.after {number offset : Nat} {rest text : List Char} {line : Line}
    (stands : line.StandsIn (number + 1) (offset + Text.byteLength text + 1) rest)
    (single : '\n' ∉ text) : line.StandsIn number offset (text ++ '\n' :: rest) := by
  obtain ⟨front, back, rfl, starts, counted, last, alone, next⟩ := stands
  refine ⟨text ++ '\n' :: front, back, by simp, ?_, ?_, ?_, alone, next⟩
  · have feed : '\n'.utf8Size = 1 := rfl
    rw [starts, Text.byteLength_append, Text.byteLength_cons, feed]
    omega
  · rw [counted, List.count_append, List.count_cons_self, List.count_eq_zero.mpr single]
    omega
  · intro c final
    rw [List.getLast?_append, List.getLast?_cons] at final
    cases ends : front.getLast? with
    | none =>
      rw [ends] at final
      exact (Option.some.inj final).symm
    | some d =>
      rw [ends] at final
      exact last c (ends.trans final)

/-- The lines of a text stand in it, and have no mark. -/
theorem Text.standsIn_of_mem {line : Line} {number offset : Nat} {cs : List Char}
    (member : line ∈ numberLines number offset (lines cs)) :
    line.column = 0 ∧ line.StandsIn number offset cs := by
  induction cs using lines_induction generalizing number offset with
  | last text single =>
    rw [lines_of_not_mem single, numberLines, numberLines, List.mem_singleton] at member
    subst member
    exact ⟨rfl, [], [], by simp, rfl, rfl, by simp, single, by simp⟩
  | next text rest single ih =>
    rw [lines_append single, numberLines] at member
    rcases List.mem_cons.mp member with rfl | later
    · exact ⟨rfl, [], '\n' :: rest, rfl, rfl, rfl, by simp, single, by simp⟩
    · exact ⟨(ih later).1, (ih later).2.after single⟩

/-- The line with the mark of a position: that is the column on its line, and none on the others. -/
def Line.marked (p : Position) (line : Line) : Line :=
  { line with column := if line.number = p.line then p.column else 0 }

private theorem Except.mapM_eq_ok {α β ε : Type} {f : α → Except ε β} {g : α → β} {list : List α}
    (each : ∀ a ∈ list, f a = .ok (g a)) : list.mapM f = .ok (list.map g) := by
  induction list with
  | nil => rfl
  | cons a list ih =>
    obtain ⟨first, rest⟩ := List.forall_mem_cons.mp each
    rw [List.mapM_cons, first, ih rest]
    rfl

namespace Source

variable {source : Source} {offset : Nat}

/-- On the line of a place between characters, as many characters come before the place as its column
says. -/
private theorem slice_before {line : Line} (member : line ∈ source.lines)
    (between : Text.Between offset source.chars) (own : line.number = (source.position offset).line) :
    ∃ middle, Text.slice line.offset (offset - line.offset) source.chars = .ok middle ∧
      middle.length = (source.position offset).column := by
  have starts := (start_le_offset member own).2
  obtain ⟨-, front, back, whole, size, counted, last, -⟩ := Text.standsIn_of_mem member
  obtain ⟨before, rest, also, rfl⟩ := between
  have position := (position_of_split also).trans (Position.foldl_step before)
  rw [Nat.zero_add] at size
  rw [size] at starts ⊢
  obtain ⟨middle, rfl⟩ := Text.prefix_of_byteLength_le ⟨_, whole.symm⟩ ⟨rest, also.symm⟩ starts
  -- The line and the place have the same number of line feeds before them, and so none between them.
  have single : '\n' ∉ middle := by
    rw [position, List.count_append] at own
    dsimp only at own
    exact List.count_eq_zero.mp (by omega)
  refine ⟨middle, ?_, ?_⟩
  · rw [Text.byteLength_append, Nat.add_sub_cancel_left, also, List.append_assoc, Text.slice_append]
  · rw [position, Text.lastLine_append last single]

/-- The mark of a place between characters is put at its column. -/
private theorem markColumn_eq {line : Line} (member : line ∈ source.lines)
    (between : Text.Between offset source.chars) :
    source.markColumn (source.position offset).line offset line =
      .ok (line.marked (source.position offset)) := by
  unfold markColumn Line.marked
  split
  · rename_i own
    obtain ⟨middle, sliced, size⟩ := slice_before member between own
    rw [sliced, ← size]
    rfl
  · rw [← (Text.standsIn_of_mem member).1]

/-- The lines of a source within bounds have consecutive numbers. -/
theorem map_number_filter (source : Source) (first last : Nat) :
    (source.lines.filter fun line => first ≤ line.number && line.number ≤ last).map Line.number =
      List.Ico (max 1 first) (min (source.chars.count '\n' + 1) last + 1) := by
  have numbers : source.lines.map Line.number = List.Ico 1 (source.chars.count '\n' + 1 + 1) := by
    rw [map_number_lines, length_lines]
    rfl
  calc (source.lines.filter fun line => first ≤ line.number && line.number ≤ last).map Line.number
      = (source.lines.map Line.number).filter fun n => first ≤ n && n ≤ last := by
        rw [List.filter_map]
        rfl
    _ = ((List.Ico 1 (source.chars.count '\n' + 1 + 1)).filter fun n => n < last + 1).filter
          fun n => first ≤ n := by
        rw [numbers, List.filter_filter]
        simp only [Nat.lt_succ_iff]
    _ = List.Ico (max 1 first) (min (source.chars.count '\n' + 1) last + 1) := by
        rw [List.Ico.filter_lt, List.Ico.filter_le, Nat.add_min_add_right]

private theorem excerpt_eq_none_iff (span : Span) (before after : Nat) :
    source.excerpt span before after = .ok none ↔ source.length < span.offset := by
  constructor
  · intro none
    by_contra within
    rw [excerpt, if_neg within] at none
    dsimp only at none
    generalize (List.mapM _ _ : Except Text.BadSlice (List Line)) = shown at none
    cases shown <;> cases none
  · intro past
    rw [excerpt, if_pos past]

theorem excerpt_eq_marked {span : Span} (between : Text.Between span.offset source.chars)
    (before after : Nat) :
    source.excerpt span before after = .ok (some ⟨(source.position span.offset).line,
      (source.lines.filter fun line => (source.position span.offset).line - before ≤ line.number &&
        line.number ≤ (source.position span.offset).line + after).map
          (Line.marked (source.position span.offset))⟩) := by
  have within : ¬ source.length < span.offset := by
    obtain ⟨front, back, whole, size⟩ := between
    rw [length, whole, Text.byteLength_append, size]
    omega
  rw [excerpt, if_neg within]
  dsimp only
  rw [Except.mapM_eq_ok fun line member => markColumn_eq (List.mem_filter.mp member).1 between]
  rfl

/-- An excerpt around a span has no lines exactly if the span starts past the end. If it starts between
characters, the excerpt has the lines up to so many before and after the line of its position, as far
as the text has them; each is shown as it stands in the text, and marked at the column of the position
if it is the line of the position. -/
theorem excerpt_shows_lines (source : Source) (span : Span) (before after : Nat) :
    (source.excerpt span before after = .ok none ↔ source.length < span.offset) ∧
    (Text.Between span.offset source.chars → ∃ base column lines,
      source.position span.offset = ⟨base, column⟩ ∧
      source.excerpt span before after = .ok (some ⟨base, lines⟩) ∧
      lines.map Line.number = List.Ico (max 1 (base - before))
        (min (source.chars.count '\n' + 1) (base + after) + 1) ∧
      ∀ line ∈ lines, line.StandsIn 1 0 source.chars ∧
        line.column = if line.number = base then column else 0) := by
  refine ⟨excerpt_eq_none_iff span before after, fun between => ⟨_, _, _, rfl,
    excerpt_eq_marked between before after, ?_, ?_⟩⟩
  · rw [List.map_map]
    exact map_number_filter source _ _
  · intro line member
    obtain ⟨plain, listed, rfl⟩ := List.mem_map.mp member
    exact ⟨(Text.standsIn_of_mem (List.mem_filter.mp listed).1).2, rfl⟩

/-- At the end of a text the last line is marked after its last character, with an empty line above. -/
theorem excerpt_shows_lines_end :
    Text.Between 5 (Source.anonymous "é\n\nb").chars ∧
    ∃ lines, (Source.anonymous "é\n\nb").excerpt ⟨0, 5, 0⟩ 1 2 = .ok (some ⟨3, lines⟩) ∧
      lines.map Line.number = [2, 3] ∧
      ∀ line ∈ lines, line.StandsIn 1 0 ['é', '\n', '\n', 'b'] ∧
        line.column = if line.number = 3 then 1 else 0 := by
  have between : Text.Between 5 (Source.anonymous "é\n\nb").chars := by decide
  obtain ⟨base, column, lines, place, made, numbers, shown⟩ :=
    (excerpt_shows_lines (.anonymous "é\n\nb") ⟨0, 5, 0⟩ 1 2).2 between
  rw [position_eq_walk] at place
  cases place
  exact ⟨between, lines, made, numbers, shown⟩

end Source

end Offside
