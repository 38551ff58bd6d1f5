import Offside.Proofs.LineTable
import Offside.Source.Excerpt

/-! Lines of a text and offsets in it. An offset lies between two characters or inside one; either way
it is on the line whose number counts the line feeds before it, and that line starts after the last of
them. -/

namespace Offside

namespace Text

theorem lines_of_not_mem {cs : List Char} (single : '\n' ∉ cs) : lines cs = [cs] := by
  induction cs with
  | nil => rfl
  | cons c cs ih =>
    have other : c ≠ '\n' := fun same => single (same ▸ List.mem_cons_self)
    rw [lines, if_neg other, ih fun member => single (List.mem_cons_of_mem c member)]

theorem lines_append {first : List Char} (single : '\n' ∉ first) (rest : List Char) :
    lines (first ++ '\n' :: rest) = first :: lines rest := by
  induction first with
  | nil => rfl
  | cons c first ih =>
    have other : c ≠ '\n' := fun same => single (same ▸ List.mem_cons_self)
    rw [List.cons_append, lines, if_neg other,
      ih fun member => single (List.mem_cons_of_mem c member)]

theorem length_lines (cs : List Char) : (lines cs).length = cs.count '\n' + 1 := by
  induction cs using lines_induction with
  | last line single =>
    rw [lines_of_not_mem single, List.count_eq_zero.mpr single]
    rfl
  | next line rest single ih =>
    rw [lines_append single, List.length_cons, ih, List.count_append, List.count_cons_self,
      List.count_eq_zero.mpr single, Nat.zero_add]

theorem map_number_numberLines (number offset : Nat) (texts : List (List Char)) :
    (numberLines number offset texts).map Line.number = List.range' number texts.length := by
  induction texts generalizing number offset with
  | nil => rfl
  | cons text texts ih =>
    rw [numberLines, List.map_cons, ih, List.length_cons, List.range'_succ]

theorem le_number_of_mem {line : Line} {number offset : Nat} {texts : List (List Char)}
    (member : line ∈ numberLines number offset texts) : number ≤ line.number := by
  have listed := List.mem_map_of_mem (f := Line.number) member
  rw [map_number_numberLines, List.mem_range'_1] at listed
  exact listed.1

/-- A line with as many line feeds before it as a front of the text starts within that front, and
there is no line feed in what follows of the front. -/
private theorem start_of_line {number offset : Nat} {front back : List Char} {line : Line}
    (member : line ∈ numberLines number offset (lines (front ++ back)))
    (counted : line.number = number + front.count '\n') :
    ∃ before rest, front = before ++ rest ∧ '\n' ∉ rest ∧
      line.offset = offset + byteLength before := by
  generalize whole : front ++ back = cs at member
  induction cs using lines_induction generalizing number offset front with
  | last text single =>
    rw [lines_of_not_mem single, numberLines, numberLines, List.mem_singleton] at member
    refine ⟨[], front, rfl, fun feed => single ?_, by rw [member]; rfl⟩
    rw [← whole]
    exact List.mem_append_left back feed
  | next text rest single ih =>
    rw [lines_append single, numberLines] at member
    rcases List.append_eq_append_iff.mp whole with ⟨more, rfl, -⟩ | ⟨more, rfl, split⟩
    · -- The front ends on the first line.
      have none : front.count '\n' = 0 :=
        List.count_eq_zero.mpr fun feed => single (List.mem_append_left more feed)
      rcases List.mem_cons.mp member with rfl | later
      · exact ⟨[], front, rfl, fun feed => single (List.mem_append_left more feed), rfl⟩
      · have above := le_number_of_mem later
        omega
    · cases more with
      | nil =>
        rw [List.append_nil] at counted ⊢
        have none := List.count_eq_zero.mpr single
        rcases List.mem_cons.mp member with rfl | later
        · exact ⟨[], text, rfl, single, rfl⟩
        · have above := le_number_of_mem later
          omega
      | cons c more =>
        obtain ⟨rfl, tail⟩ := List.cons.inj split
        rw [List.count_append, List.count_cons_self, List.count_eq_zero.mpr single] at counted
        rcases List.mem_cons.mp member with rfl | later
        · dsimp only at counted
          omega
        · obtain ⟨before, left, rfl, none, start⟩ := ih (by omega) tail.symm later
          refine ⟨text ++ '\n' :: before, left, by simp, none, ?_⟩
          have feed : '\n'.utf8Size = 1 := rfl
          rw [start, byteLength_append, byteLength_cons, feed]
          omega

end Text

namespace Source

/-- The column of an offset counts the characters since the last line feed. -/
theorem column_position {source : Source} {front tail back : List Char}
    (whole : source.chars = front ++ '\n' :: (tail ++ back)) (single : '\n' ∉ tail) :
    (source.position (Text.byteLength (front ++ '\n' :: tail))).column = tail.length := by
  have size : Text.byteLength (front ++ '\n' :: tail) =
      Text.byteLength front + (1 + (Text.byteLength tail + 0)) :=
    Text.byteLength_append front ('\n' :: tail)
  rw [position_eq_walk, whole, size, positionFrom_feed, positionFrom_append single, Nat.zero_add]
  cases back <;> rfl

theorem line_position (source : Source) (offset : Nat) :
    (source.position offset).line = 1 + (Text.upTo offset source.chars).count '\n' := by
  rw [position_eq_walk, line_positionFrom]

theorem length_lines (source : Source) : source.lines.length = source.chars.count '\n' + 1 := by
  have numbers := congrArg List.length
    (Text.map_number_numberLines 1 0 (Text.lines source.chars))
  rw [List.length_map, List.length_range', Text.length_lines] at numbers
  exact numbers

theorem map_number_lines (source : Source) :
    source.lines.map Line.number = List.range' 1 source.lines.length := by
  rw [length_lines, ← Text.length_lines]
  exact Text.map_number_numberLines 1 0 _

/-- Every offset is on a line. -/
theorem line_position_mem (source : Source) (offset : Nat) :
    (source.position offset).line ∈ source.lines.map Line.number := by
  obtain ⟨after, whole⟩ := Text.upTo_prefix offset source.chars
  have all : source.chars.count '\n' =
      (Text.upTo offset source.chars).count '\n' + after.count '\n' := by
    rw [← List.count_append, whole]
  rw [map_number_lines, length_lines, line_position, List.mem_range'_1]
  omega

/-- The line of an offset starts between characters, not after the offset. -/
theorem start_le_offset {source : Source} {offset : Nat} {line : Line} (member : line ∈ source.lines)
    (own : line.number = (source.position offset).line) :
    Text.Between line.offset source.chars ∧ line.offset ≤ offset := by
  obtain ⟨after, whole⟩ := Text.upTo_prefix offset source.chars
  rw [line_position] at own
  have listed : line ∈ Text.numberLines 1 0 (Text.lines (Text.upTo offset source.chars ++ after)) := by
    rw [whole]
    exact member
  obtain ⟨before, rest, front, -, start⟩ := Text.start_of_line listed own
  have size : Text.byteLength (before ++ rest) ≤ offset :=
    front ▸ Text.byteLength_upTo_le offset source.chars
  rw [Text.byteLength_append] at size
  rw [Nat.zero_add] at start
  refine ⟨⟨before, rest ++ after, ?_, start.symm⟩, by omega⟩
  rw [← List.append_assoc, ← front, whole]

end Source

end Offside
