import Mathlib.Data.List.Forall2
import Mathlib.Data.Nat.Digits.Defs
import Offside.Proofs.ErrorReports
import Offside.Proofs.LineExcerpts

/-! Columns of a report. The lines around a place are shown with their numbers in a field whose width
is not the number of digits but a tenth of the last number: it has room for every number, so all texts
start at one column and the mark stands under the place. The room is generous, and from line 655350 on
there is no field that wide. -/

namespace Offside

abbrev Place.position (place : Place) : Position := place.source.position place.span.offset

namespace Report

/-- A number has at most as many digits as a tenth of any number that is not less, and one more. -/
theorem length_digits_le {n most : Nat} (bound : n ≤ most) :
    (toString n).toList.length ≤ most / 10 + 1 := by
  rw [Nat.toString_eq_repr, Nat.toList_repr]
  apply Nat.toDigits_length 10 n _ (Nat.succ_pos _)
  calc n ≤ most := bound
    _ < 10 * (most / 10 + 1) := Nat.lt_mul_div_succ most (by decide)
    _ ≤ 10 * 10 ^ (most / 10) := Nat.mul_le_mul_left 10 (Nat.lt_pow_self (by decide))
    _ = 10 ^ (most / 10 + 1) := by rw [Nat.pow_succ, Nat.mul_comm]

private theorem feed_not_mem_digits (n : Nat) : '\n' ∉ (toString n).toList := by
  rw [Nat.toString_eq_repr, Nat.toList_repr]
  intro feed
  have digit := Nat.isDigit_of_mem_toDigits (by decide) (by decide) feed
  exact absurd digit (by decide)

/-! ### Rows -/

/-- The character that a place is marked with. -/
def markOf (length : Nat) : Char := if 0 < length then '~' else '^'

/-- The row shows the line of a number. The number comes first, with blanks before it, and the text of
the line starts at a column. -/
def ShowsLine (source : Source) (column number : Nat) (row : List Char) : Prop :=
  ∃ (line : Line) (blanks : Nat), line.StandsIn 1 0 source.chars ∧ line.number = number ∧
    blanks + (toString number).toList.length + 3 = column ∧
    row = spaces blanks ++ (toString number).toList ++ [' ', '|', ' '] ++ Text.dropBlanksRight line.text

/-- The row is the mark of a place: there is nothing in it but what leads to the mark, and the mark
itself from a column on. -/
def MarksColumn (length column : Nat) (row : List Char) : Prop :=
  (∀ c ∈ row, c = ' ' ∨ c = '-' ∨ c = markOf length) ∧ markOf length ∈ row ∧
    row.idxOf (markOf length) = column

/-- The rows around a place. They show the line of the place and up to two lines on either side of it,
all texts at one column, and the row of the mark is directly below the line of the place. -/
structure Aligned (place : Place) (column : Nat) (above : List (List Char)) (own mark : List Char)
    (below : List (List Char)) : Prop where
  before : List.Forall₂ (ShowsLine place.source column)
    (List.Ico (max 1 (place.position.line - 2)) place.position.line) above
  base : ShowsLine place.source column place.position.line own
  marked : MarksColumn place.span.length (column + place.position.column) mark
  after : List.Forall₂ (ShowsLine place.source column)
    (List.Ico (place.position.line + 1)
      (min (place.source.chars.count '\n' + 1) (place.position.line + 2) + 1)) below
  single : ∀ row ∈ above ++ own :: mark :: below, '\n' ∉ row

/-- What is written of a line: its number in a field of a width, and its text. -/
def lineRow (width : Nat) (line : Line) : List Char :=
  padded width line.number ++ [' ', '|', ' '] ++ Text.dropBlanksRight line.text

/-- Rows, each with a line feed at its end. -/
def joinRows (rows : List (List Char)) : List Char := rows.flatMap (· ++ ['\n'])

/-- A row shows its line as long as the field has room for the number. -/
theorem showsLine_lineRow {source : Source} {width : Nat} {line : Line}
    (stands : line.StandsIn 1 0 source.chars) (room : (toString line.number).toList.length ≤ width) :
    ShowsLine source (width + 3) line.number (lineRow width line) := by
  refine ⟨line, width - (toString line.number).toList.length, stands, rfl, ?_, rfl⟩
  rw [Nat.sub_add_cancel room]

private theorem feed_not_mem_spaces (n : Nat) : '\n' ∉ spaces n := by
  intro feed
  exact absurd (List.eq_of_mem_replicate feed) (by decide)

theorem feed_not_mem_lineRow {source : Source} {line : Line}
    (stands : line.StandsIn 1 0 source.chars) (width : Nat) : '\n' ∉ lineRow width line := by
  obtain ⟨-, -, -, -, -, -, alone, -⟩ := stands
  have kept : '\n' ∉ Text.dropBlanksRight line.text := by
    intro feed
    have before := (List.dropWhile_sublist _).subset (List.mem_reverse.mp feed)
    exact alone (List.mem_reverse.mp before)
  have lead : '\n' ∉ padded width line.number := by
    intro feed
    rcases List.mem_append.mp feed with blank | digit
    · exact feed_not_mem_spaces _ blank
    · exact feed_not_mem_digits _ digit
  simp [lineRow, kept, lead]

theorem marksColumn_append (length : Nat) (front back : List Char)
    (lead : ∀ c ∈ front, c = ' ' ∨ c = '-') (marks : ∀ c ∈ back, c = markOf length) :
    MarksColumn length front.length (front ++ markOf length :: back) := by
  have fresh : markOf length ∉ front := by
    intro early
    have other := lead _ early
    unfold markOf at other
    split at other <;> exact absurd other (by decide)
  refine ⟨?_, by simp, ?_⟩
  · intro c member
    rcases List.mem_append.mp member with early | late
    · exact (lead c early).imp_right .inl
    · rcases List.mem_cons.mp late with first | later
      · exact .inr (.inr first)
      · exact .inr (.inr (marks c later))
  · rw [List.idxOf_append_of_notMem fresh, List.idxOf_cons_self, Nat.add_zero]

/-- The mark is as far from the texts' column as the place is from the start of its line. -/
private theorem marksColumn_marker (width column length : Nat) :
    MarksColumn length (width + 3 + column) (marker width column length) := by
  cases length with
  | zero =>
    have marks := marksColumn_append 0 (spaces (width + 3) ++ List.replicate column '-') []
      (by simp [spaces]) (by simp)
    rwa [List.length_append, spaces, List.length_replicate, List.length_replicate] at marks
  | succ more =>
    have marks := marksColumn_append (more + 1) (spaces (width + 3) ++ spaces column)
      (List.replicate more '~') (by simp [spaces]) fun _ => List.eq_of_mem_replicate
    rwa [List.length_append, spaces, spaces, List.length_replicate, List.length_replicate] at marks

private theorem feed_not_mem_mark {length column : Nat} {row : List Char}
    (marks : MarksColumn length column row) : '\n' ∉ row := by
  intro feed
  have used := marks.1 _ feed
  unfold markOf at used
  split at used <;> exact absurd used (by decide)

/-! ### The lines of a report -/

/-- Lines that do not have the number of the base line are one row each. -/
theorem flatMap_excerptLine {base : Nat} {lines : List Line} (others : ∀ line ∈ lines, line.number ≠ base)
    (width length : Nat) :
    lines.flatMap (excerptLine width base length) = joinRows (lines.map (lineRow width)) := by
  rw [joinRows, List.flatMap_map]
  refine List.flatMap_congr fun line member => ?_
  rw [excerptLine, if_neg (others line member), List.append_nil, lineRow]

/-- The lines of an excerpt are a row each, with one more below the base line. -/
private theorem excerptText_eq {base length : Nat} {own : Line} {above below : List Line}
    (same : own.number = base) (before : ∀ line ∈ above, line.number ≠ base)
    (after : ∀ line ∈ below, line.number ≠ base) :
    excerptText ⟨base, above ++ own :: below⟩ length =
      joinRows (above.map (lineRow (numberWidth (above ++ own :: below))) ++
        lineRow (numberWidth (above ++ own :: below)) own ::
        marker (numberWidth (above ++ own :: below)) own.column length ::
        below.map (lineRow (numberWidth (above ++ own :: below)))) := by
  unfold excerptText
  dsimp only
  generalize numberWidth (above ++ own :: below) = width
  have first : excerptLine width base length own =
      lineRow width own ++ ['\n'] ++ (marker width own.column length ++ ['\n']) := by
    rw [excerptLine, if_pos same, lineRow]
  rw [List.flatMap_append, List.flatMap_cons, flatMap_excerptLine before, flatMap_excerptLine after,
    first]
  simp [joinRows]

/-- Lines with the numbers around one are the lines before it, its own and the lines after it. -/
private theorem split_at_number {lines : List Line} {first last : Nat}
    (numbers : lines.map Line.number = List.Ico first last) {base : Nat} (low : first ≤ base)
    (high : base < last) :
    ∃ above own below, lines = above ++ own :: below ∧
      above.map Line.number = List.Ico first base ∧ own.number = base ∧
      below.map Line.number = List.Ico (base + 1) last := by
  rw [← List.Ico.append_consecutive low high.le, List.Ico.eq_cons high, List.map_eq_append_iff] at numbers
  obtain ⟨above, rest, rfl, before, after⟩ := numbers
  obtain ⟨own, below, rfl, same, after⟩ := List.map_eq_cons_iff.mp after
  exact ⟨above, own, below, rfl, before, same, after⟩

/-- Rows that show lines of a source, in the order of the lines. -/
theorem forall₂_lineRow {source : Source} {width : Nat} {lines : List Line}
    (fit : ∀ line ∈ lines, line.StandsIn 1 0 source.chars ∧
      (toString line.number).toList.length ≤ width) :
    List.Forall₂ (ShowsLine source (width + 3)) (lines.map Line.number) (lines.map (lineRow width)) := by
  rw [List.forall₂_map_left_iff, List.forall₂_map_right_iff, List.forall₂_same]
  exact fun line member => showsLine_lineRow (fit line member).1 (fit line member).2

section

variable {place : Place} (between : Text.Between place.span.offset place.source.chars)

include between

/-- The lines around a place between characters. The field for their numbers has room for each. -/
theorem excerpt_lines :
    ∃ lines, place.source.excerpt place.span 2 2 = .ok (some ⟨place.position.line, lines⟩) ∧
      numberWidth lines = fieldWidth place ∧
      lines.map Line.number = List.Ico (max 1 (place.position.line - 2))
        (min (place.source.chars.count '\n' + 1) (place.position.line + 2) + 1) ∧
      (∀ line ∈ lines, line.StandsIn 1 0 place.source.chars ∧
        (toString line.number).toList.length ≤ fieldWidth place) ∧
      ∀ line ∈ lines, line.number = place.position.line → line.column = place.position.column := by
  refine ⟨_, Source.excerpt_eq_marked between 2 2, numberWidth_eq ?_, ?_, ?_, ?_⟩
  · rw [List.map_map, ← Source.map_number_lines, List.filter_map]
    rfl
  · rw [List.map_map]
    exact place.source.map_number_filter _ _
  · intro line member
    obtain ⟨plain, listed, rfl⟩ := List.mem_map.mp member
    obtain ⟨inside, near⟩ := List.mem_filter.mp listed
    refine ⟨(Text.standsIn_of_mem inside).2, length_digits_le (Nat.le_min.mpr ⟨?_, ?_⟩)⟩
    · simp only [Bool.and_eq_true, decide_eq_true_eq] at near
      exact near.2
    · have number := List.mem_map_of_mem (f := Line.number) inside
      rw [Source.map_number_lines, List.mem_range'_1] at number
      exact Nat.le_of_lt_add_one (Nat.add_comm 1 _ ▸ number.2)
  · intro line member own
    obtain ⟨plain, -, rfl⟩ := List.mem_map.mp member
    exact if_pos own

/-- The excerpt around a place between characters is written in rows that are aligned. -/
private theorem excerpt_rows :
    ∃ lines above own mark below,
      place.source.excerpt place.span 2 2 = .ok (some ⟨place.position.line, lines⟩) ∧
      numberWidth lines = fieldWidth place ∧
      excerptText ⟨place.position.line, lines⟩ place.span.length =
        joinRows (above ++ own :: mark :: below) ∧
      Aligned place (fieldWidth place + 3) above own mark below := by
  obtain ⟨lines, made, width, numbers, fit, columns⟩ := excerpt_lines between
  have base : place.position.line ∈ place.source.lines.map Line.number :=
    place.source.line_position_mem place.span.offset
  rw [Source.map_number_lines, Source.length_lines, List.mem_range'_1] at base
  have low : max 1 (place.position.line - 2) ≤ place.position.line := by omega
  have high : place.position.line <
      min (place.source.chars.count '\n' + 1) (place.position.line + 2) + 1 := by omega
  obtain ⟨above, own, below, rfl, before, same, after⟩ := split_at_number numbers low high
  have notAbove : ∀ line ∈ above, line.number ≠ place.position.line := fun line member =>
    (List.Ico.mem.mp (before ▸ List.mem_map_of_mem member)).2.ne
  have notBelow : ∀ line ∈ below, line.number ≠ place.position.line := fun line member =>
    Nat.ne_of_gt (List.Ico.mem.mp (after ▸ List.mem_map_of_mem member)).1
  obtain ⟨fitAbove, rest⟩ := List.forall_mem_append.mp fit
  obtain ⟨fitOwn, fitBelow⟩ := List.forall_mem_cons.mp rest
  have marks := marksColumn_marker (fieldWidth place) place.position.column place.span.length
  refine ⟨_, above.map (lineRow (fieldWidth place)), lineRow (fieldWidth place) own,
    marker (fieldWidth place) place.position.column place.span.length,
    below.map (lineRow (fieldWidth place)), made, width, ?_, ?_⟩
  · rw [excerptText_eq same notAbove notBelow, width, columns own (by simp) same]
  · constructor
    · exact before ▸ forall₂_lineRow fitAbove
    · exact same ▸ showsLine_lineRow fitOwn.1 fitOwn.2
    · exact marks
    · exact after ▸ forall₂_lineRow fitBelow
    · simp only [List.forall_mem_append, List.forall_mem_cons, List.forall_mem_map]
      exact ⟨fun line member => feed_not_mem_lineRow (fitAbove line member).1 _,
        feed_not_mem_lineRow fitOwn.1 _, feed_not_mem_mark marks,
        fun line member => feed_not_mem_lineRow (fitBelow line member).1 _⟩

end

/-- The lines around a place are refused if the numbers need too wide a field or the mark is too long. -/
theorem checkSizes_eq_ite (excerpt : Excerpt) (length : Nat) :
    checkSizes excerpt length =
      if numberWidth excerpt.lines ≤ Text.widestField then
        if length ≤ Memory.largest then .ok () else .error (.mark ⟨length, 1⟩)
      else .error (.field (numberWidth excerpt.lines)) := by
  unfold checkSizes Memory.reserve
  dsimp only
  rw [Nat.mul_one]
  by_cases fits : numberWidth excerpt.lines ≤ Text.widestField
  · rw [if_pos fits, if_pos fits]
    split <;> rfl
  · rw [if_neg fits, if_neg fits]
    rfl

theorem excerptLines_eq {place : Place} {excerpt : Excerpt}
    (made : place.source.excerpt place.span 2 2 = .ok (some excerpt)) :
    excerptLines place =
      (checkSizes excerpt place.span.length).map fun _ => excerptText excerpt place.span.length := by
  rw [excerptLines, made]
  rfl

/-! ### Whole reports -/

/-- The lines of a report above the excerpt: a message, and the name and the position of its place. -/
def heading (message : String) (place : Place) : List Char :=
  message.toList ++ ['\n'] ++ "  -> ".toList ++ place.source.name.toList ++ [':'] ++
    place.position.render.toList ++ ['\n']

/-- A report is written from its first note on. -/
theorem render_place (message : String) (place : Place) (causes : Report) :
    render (⟨message, some place⟩ :: causes) = (excerptLines place).bind fun lines =>
      (render causes).map fun rest =>
        String.ofList (heading message place ++ lines ++ ['\n']) ++ rest := by
  simp only [render, List.mapM_cons, noteText, placeText]
  cases excerptLines place with
  | error failure => rfl
  | ok lines =>
    cases causes.mapM noteText with
    | error failure => rfl
    | ok texts =>
      change Except.ok (String.ofList _) = Except.ok (String.ofList _ ++ String.ofList _)
      rw [← String.ofList_append]
      simp only [heading, List.flatten_cons, List.append_assoc]

section

variable {place : Place} (between : Text.Between place.span.offset place.source.chars)
  (message : String) (causes : Report)

include between

/-- Numbers for which there is no field keep a report from being written. -/
theorem render_wide (wide : Text.widestField < fieldWidth place) :
    render (⟨message, some place⟩ :: causes) = .error (.field (fieldWidth place)) := by
  obtain ⟨lines, made, width, -⟩ := excerpt_lines between
  rw [render_place, excerptLines_eq made, checkSizes_eq_ite, width, if_neg (Nat.not_le.mpr wide)]
  rfl

/-- So does a mark for which there is no memory. -/
theorem render_long (fits : fieldWidth place ≤ Text.widestField)
    (long : Memory.largest < place.span.length) :
    render (⟨message, some place⟩ :: causes) = .error (.mark ⟨place.span.length, 1⟩) := by
  obtain ⟨lines, made, width, -⟩ := excerpt_lines between
  rw [render_place, excerptLines_eq made, checkSizes_eq_ite, width, if_pos fits,
    if_neg (Nat.not_le.mpr long)]
  rfl

end

/-- What a report shows of a place between characters. Every number that is shown has room in the field,
and the rows are aligned. They are not written only if the field is wider than any field can be, or if
the mark is longer than memory. -/
theorem report_aligned (message : String) (place : Place) (causes : Report)
    (between : Text.Between place.span.offset place.source.chars) :
    (∀ n ≤ min (place.source.chars.count '\n' + 1) (place.position.line + 2),
      (toString n).toList.length ≤ fieldWidth place) ∧
    (fieldWidth place ≤ Text.widestField → place.span.length ≤ Memory.largest →
      ∃ above own mark below, Aligned place (fieldWidth place + 3) above own mark below ∧
        render (⟨message, some place⟩ :: causes) = (render causes).map fun rest =>
          String.ofList (heading message place ++ joinRows (above ++ own :: mark :: below) ++ ['\n']) ++
            rest) ∧
    (Text.widestField < fieldWidth place →
      render (⟨message, some place⟩ :: causes) = .error (.field (fieldWidth place))) ∧
    (fieldWidth place ≤ Text.widestField → Memory.largest < place.span.length →
      render (⟨message, some place⟩ :: causes) = .error (.mark ⟨place.span.length, 1⟩)) := by
  obtain ⟨lines, above, own, mark, below, made, width, rows, aligned⟩ := excerpt_rows between
  refine ⟨fun n shown => length_digits_le ?_, fun fits short => ⟨above, own, mark, below, aligned, ?_⟩,
    render_wide between message causes, render_long between message causes⟩
  · rwa [Source.length_lines, Nat.min_comm]
  · rw [render_place, excerptLines_eq made, checkSizes_eq_ite, width, rows, if_pos fits, if_pos short]
    rfl

/-- The place of a word on the last line but one of ten: the numbers around it have one digit or two. -/
def ninthLine : Place := ⟨.anonymous "\n\n\n\n\n\n\n\né = $\nend", ⟨0, 13, 1⟩⟩

theorem report_aligned_ninth :
    Text.Between 13 ninthLine.source.chars ∧ ninthLine.position = ⟨9, 4⟩ ∧
    ∃ above own mark below, Aligned ninthLine 5 above own mark below ∧
      render [⟨"no rule", some ninthLine⟩] = .ok (String.ofList
        (heading "no rule" ninthLine ++ joinRows (above ++ own :: mark :: below) ++ ['\n']) ++ "") := by
  have between : Text.Between 13 ninthLine.source.chars := by decide
  have position : ninthLine.position = ⟨9, 4⟩ := (Source.position_eq_walk ..).trans (by decide)
  have width : fieldWidth ninthLine = 2 := by
    change min (ninthLine.position.line + 2) _ / 10 + 1 = 2
    rw [position]
    decide
  obtain ⟨above, own, mark, below, aligned, written⟩ :=
    (report_aligned "no rule" ninthLine [] between).2.1 (by rw [width]; decide) (by decide)
  rw [width] at aligned
  exact ⟨between, position, above, own, mark, below, aligned, written⟩

/-- The end of a source, as the place of an error. -/
def endOf (source : Source) : Place := ⟨source, ⟨source.id, source.length, 0⟩⟩

theorem between_endOf (source : Source) :
    Text.Between (endOf source).span.offset (endOf source).source.chars :=
  ⟨source.chars, [], (List.append_nil _).symm, rfl⟩

private theorem fieldWidth_endOf (source : Source) :
    fieldWidth (endOf source) = (source.chars.count '\n' + 1) / 10 + 1 := by
  have whole : (endOf source).source.chars = source.chars ++ [] := (List.append_nil _).symm
  have position : (endOf source).position = ⟨1 + source.chars.count '\n', _⟩ :=
    (Source.position_of_split whole).trans (Position.foldl_step source.chars)
  have last : (endOf source).position.line = source.chars.count '\n' + 1 := by
    rw [position, Nat.add_comm]
  change min ((endOf source).position.line + 2) source.lines.length / 10 + 1 = _
  rw [last, Source.length_lines, Nat.min_eq_right (Nat.le_add_right _ 2)]

private theorem exists_source_of_feeds (n : Nat) :
    ∃ source : Source, source.chars.count '\n' = n := by
  refine ⟨.anonymous (String.ofList (List.replicate n '\n')), ?_⟩
  rw [Source.chars, Source.anonymous, String.toList_ofList, List.count_replicate_self]

/-- The end of a text of two lines, with a mark longer than memory. -/
def endlessMark : Place := ⟨.anonymous "ab\ncé", ⟨0, 6, 0x8000000000000000⟩⟩

/-- Neither an error at the end of a source of 655350 lines nor one with that mark has a report. -/
theorem end_unwritten :
    (∃ source : Source, source.lines.length = 655350 ∧
      Text.Between (endOf source).span.offset (endOf source).source.chars ∧
      render [⟨"m", some (endOf source)⟩] = .error (.field 65536)) ∧
    Text.Between endlessMark.span.offset endlessMark.source.chars ∧
      render [⟨"m", some endlessMark⟩] = .error (.mark ⟨0x8000000000000000, 1⟩) := by
  obtain ⟨source, feeds⟩ := exists_source_of_feeds 655349
  have width : fieldWidth (endOf source) = 65536 := by rw [fieldWidth_endOf, feeds]
  have wide : Text.widestField < fieldWidth (endOf source) := by
    rw [width]
    decide
  refine ⟨⟨source, ?_, between_endOf source, ?_⟩, ?_⟩
  · rw [Source.length_lines, feeds]
  · rw [render_wide (between_endOf source) "m" [] wide, width]
  · have between : Text.Between endlessMark.span.offset endlessMark.source.chars := by decide
    have narrow : fieldWidth endlessMark = 1 := by
      rw [fieldWidth, Source.position_eq_walk]
      decide
    refine ⟨between, render_long between "m" [] ?_ (by decide)⟩
    rw [narrow]
    decide

end Report

end Offside
