import Mathlib.Data.List.Basic
import Offside.Source

/-! The table of line starts. Searching it for an offset and slicing the text from the start found there
gives the position that is reached by walking through the text, line feed by line feed and character by
character; so it does at the end of the text, past it, and inside a character. -/

namespace Offside

namespace Text

/-- The offset lies between two characters, or at an end of the text. -/
def Between (offset : Nat) (cs : List Char) : Prop :=
  ∃ front back, cs = front ++ back ∧ byteLength front = offset

theorem between_iff {offset : Nat} {cs : List Char} :
    Between offset cs ↔ (splitBytes? offset cs).isSome = true := by
  rw [Option.isSome_iff_exists]
  constructor
  · rintro ⟨front, back, whole, size⟩
    exact ⟨(front, back), splitBytes?_eq_some_iff.mpr ⟨whole, size⟩⟩
  · rintro ⟨⟨front, back⟩, split⟩
    exact ⟨front, back, splitBytes?_eq_some_iff.mp split⟩

instance (offset : Nat) (cs : List Char) : Decidable (Between offset cs) :=
  decidable_of_iff _ between_iff.symm

/-- The characters that end at an offset or before it. -/
def upTo : Nat → List Char → List Char
  | _, [] => []
  | n, c :: cs => if c.utf8Size ≤ n then c :: upTo (n - c.utf8Size) cs else []

theorem upTo_prefix (n : Nat) (cs : List Char) : upTo n cs <+: cs := by
  induction cs generalizing n with
  | nil => exact List.prefix_rfl
  | cons c cs ih =>
    rw [upTo]
    split
    · exact List.cons_prefix_cons.mpr ⟨rfl, ih _⟩
    · exact List.nil_prefix

theorem byteLength_upTo_le (n : Nat) (cs : List Char) : byteLength (upTo n cs) ≤ n := by
  induction cs generalizing n with
  | nil => exact Nat.zero_le n
  | cons c cs ih =>
    rw [upTo]
    split
    · have rest := ih (n - c.utf8Size)
      rw [byteLength_cons]
      omega
    · exact Nat.zero_le n

@[simp] theorem upTo_zero (cs : List Char) : upTo 0 cs = [] := by
  cases cs with
  | nil => rfl
  | cons c cs =>
    rw [upTo, if_neg]
    have positive := c.utf8Size_pos
    omega

/-- Of two fronts of a text the one with fewer bytes is a front of the other. -/
theorem prefix_of_byteLength_le {front longer cs : List Char} (first : front <+: cs)
    (second : longer <+: cs) (shorter : byteLength front ≤ byteLength longer) : front <+: longer := by
  rcases List.prefix_or_prefix_of_prefix first second with nested | ⟨more, rfl⟩
  · exact nested
  · have none : more = [] := by
      by_contra some
      have positive := byteLength_pos_of_ne_nil some
      rw [byteLength_append] at shorter
      omega
    simp [none]

/-- A range of bytes has characters of its own exactly if both its ends lie between characters. -/
theorem slice_ok_iff {start length : Nat} {cs : List Char} :
    (∃ middle, slice start length cs = .ok middle) ↔
      Between start cs ∧ Between (start + length) cs := by
  constructor
  · rintro ⟨middle, taken⟩
    unfold slice at taken
    split at taken
    · cases taken
    · rename_i front back split
      obtain ⟨whole, size⟩ := splitBytes?_eq_some_iff.mp split
      split at taken
      · cases taken
      · rename_i inner rest splitAgain
        obtain ⟨rfl, sizeInner⟩ := splitBytes?_eq_some_iff.mp splitAgain
        refine ⟨⟨front, _, whole, size⟩, front ++ inner, rest, ?_, ?_⟩
        · rw [whole, List.append_assoc]
        · rw [byteLength_append, size, sizeInner]
  · rintro ⟨⟨front, back, whole, size⟩, longer, rest, wholeAgain, sizeLonger⟩
    have nested : front <+: longer :=
      prefix_of_byteLength_le ⟨back, whole.symm⟩ ⟨rest, wholeAgain.symm⟩ (by omega)
    obtain ⟨middle, rfl⟩ := nested
    have sizeMiddle : byteLength middle = length := by
      rw [byteLength_append] at sizeLonger
      omega
    refine ⟨middle, ?_⟩
    rw [slice, wholeAgain, List.append_assoc, ← size, splitBytes?_append]
    simp only [← sizeMiddle, splitBytes?_append]

private theorem upTo_append (front back : List Char) :
    upTo (byteLength front) (front ++ back) = front := by
  induction front with
  | nil => exact upTo_zero back
  | cons c front ih =>
    rw [byteLength_cons, List.cons_append, upTo, if_pos (Nat.le_add_right ..), Nat.add_sub_cancel_left,
      ih]

/-- What follows the characters up to an offset is nothing, or starts with one that ends after it. -/
theorem exists_after_upTo (n : Nat) (cs : List Char) :
    ∃ rest, cs = upTo n cs ++ rest ∧
      (rest = [] ∨ ∃ c more, rest = c :: more ∧ n < byteLength (upTo n cs) + c.utf8Size) := by
  induction cs generalizing n with
  | nil => exact ⟨[], rfl, .inl rfl⟩
  | cons c cs ih =>
    rw [upTo]
    split
    · obtain ⟨rest, whole, ends⟩ := ih (n - c.utf8Size)
      refine ⟨rest, congrArg (c :: ·) whole, ends.imp_right ?_⟩
      rintro ⟨d, more, rfl, above⟩
      exact ⟨d, more, rfl, by rw [byteLength_cons]; omega⟩
    · rename_i wide
      exact ⟨c :: cs, rfl, .inr ⟨c, cs, rfl, by rw [byteLength_nil]; omega⟩⟩

/-- A text is one line, or a line, a line feed and a text. -/
theorem lines_induction {motive : List Char → Prop}
    (last : ∀ line, '\n' ∉ line → motive line)
    (next : ∀ line rest, '\n' ∉ line → motive rest → motive (line ++ '\n' :: rest))
    (cs : List Char) : motive cs := by
  by_cases feed : '\n' ∈ cs
  · obtain ⟨line, rest, single, whole⟩ := List.eq_append_cons_of_mem feed
    rw [single]
    exact next line rest whole (lines_induction last next rest)
  · exact last cs feed
termination_by cs.length
decreasing_by
  rw [single, List.length_append, List.length_cons]
  omega

/-- A text ends with a line that starts at its beginning or after a line feed. -/
private theorem exists_last_line (cs : List Char) :
    ∃ before line, cs = before ++ line ∧ '\n' ∉ line ∧
      (before = [] ∨ ∃ more, before = more ++ ['\n']) := by
  induction cs using lines_induction with
  | last line single => exact ⟨[], line, rfl, single, .inl rfl⟩
  | next first rest _ ih =>
    obtain ⟨before, line, rfl, single, ends⟩ := ih
    refine ⟨first ++ '\n' :: before, line, by simp, single, .inr ?_⟩
    rcases ends with rfl | ⟨more, rfl⟩
    · exact ⟨first, rfl⟩
    · exact ⟨first ++ '\n' :: more, by simp⟩

end Text

/-! ### Walking -/

/-- Walks `n` bytes into a text from a position. The last argument but two counts the bytes since
the line began: inside a character the column is that count. -/
def positionFrom (line column bytes : Nat) : Nat → List Char → Position
  | 0, _ => ⟨line, column⟩
  | _ + 1, [] => ⟨line, column⟩
  | n + 1, c :: cs =>
    if c.utf8Size ≤ n + 1 then
      if c = '\n' then positionFrom (line + 1) 0 0 (n + 1 - c.utf8Size) cs
      else positionFrom line (column + 1) (bytes + c.utf8Size) (n + 1 - c.utf8Size) cs
    else ⟨line, bytes + (n + 1)⟩

/-- The line of an offset counts the line feeds before it, also inside a character. -/
theorem line_positionFrom (line column bytes n : Nat) (cs : List Char) :
    (positionFrom line column bytes n cs).line = line + (Text.upTo n cs).count '\n' := by
  induction cs generalizing line column bytes n with
  | nil => cases n <;> rfl
  | cons c cs ih =>
    cases n with
    | zero => rw [Text.upTo_zero]; rfl
    | succ n =>
      rw [positionFrom, Text.upTo]
      split
      · split
        · rename_i feed
          rw [ih, feed, List.count_cons_self]
          omega
        · rename_i other
          rw [ih, List.count_cons_of_ne other]
      · rfl

theorem positionFrom_cons (line column bytes n : Nat) (c : Char) (cs : List Char) :
    positionFrom line column bytes (c.utf8Size + n) (c :: cs) =
      if c = '\n' then positionFrom (line + 1) 0 0 n cs
      else positionFrom line (column + 1) (bytes + c.utf8Size) n cs := by
  have positive := c.utf8Size_pos
  obtain ⟨more, sized⟩ : ∃ more, c.utf8Size + n = more + 1 := ⟨c.utf8Size + n - 1, by omega⟩
  have left : more + 1 - c.utf8Size = n := by omega
  rw [sized, positionFrom, if_pos (by omega), left]

/-- Within a line the column counts characters. -/
theorem positionFrom_append {text : List Char} (single : '\n' ∉ text) (line column bytes n : Nat)
    (rest : List Char) :
    positionFrom line column bytes (Text.byteLength text + n) (text ++ rest) =
      positionFrom line (column + text.length) (bytes + Text.byteLength text) n rest := by
  induction text generalizing column bytes with
  | nil => rw [Text.byteLength_nil, Nat.zero_add]; rfl
  | cons c text ih =>
    have other : c ≠ '\n' := fun same => single (same ▸ List.mem_cons_self)
    rw [Text.byteLength_cons, Nat.add_assoc, List.cons_append, positionFrom_cons, if_neg other,
      ih fun member => single (List.mem_cons_of_mem c member), List.length_cons, Nat.add_assoc column,
      Nat.add_comm 1, Nat.add_assoc bytes]

/-- After a line feed the columns count anew. -/
theorem positionFrom_feed (front : List Char) (line column bytes n : Nat) (rest : List Char) :
    positionFrom line column bytes (Text.byteLength front + (1 + n)) (front ++ '\n' :: rest) =
      positionFrom (line + front.count '\n' + 1) 0 0 n rest := by
  have feed (line column bytes n : Nat) (rest : List Char) :
      positionFrom line column bytes (1 + n) ('\n' :: rest) = positionFrom (line + 1) 0 0 n rest :=
    positionFrom_cons line column bytes n '\n' rest
  induction front using Text.lines_induction generalizing line column bytes with
  | last text single =>
    rw [positionFrom_append single, feed, List.count_eq_zero.mpr single, Nat.add_zero]
  | next text more single ih =>
    have size : Text.byteLength (text ++ '\n' :: more) =
        Text.byteLength text + (1 + Text.byteLength more) := Text.byteLength_append text ('\n' :: more)
    rw [size, Nat.add_assoc, Nat.add_assoc 1, List.append_assoc, positionFrom_append single,
      List.cons_append, feed, ih, List.count_append, List.count_eq_zero.mpr single,
      List.count_cons_self, Nat.zero_add, Nat.add_assoc line, Nat.add_comm 1]

/-- A walk past the end stays at the end. -/
private theorem positionFrom_min (line column bytes n : Nat) (cs : List Char) :
    positionFrom line column bytes (min n (Text.byteLength cs)) cs =
      positionFrom line column bytes n cs := by
  obtain ⟨rest, whole, ends⟩ := Text.exists_after_upTo n cs
  rcases ends with rfl | ⟨c, more, rfl, above⟩
  · rw [List.append_nil] at whole
    have within : Text.byteLength cs ≤ n := whole ▸ Text.byteLength_upTo_le n cs
    rw [Nat.min_eq_right within]
    obtain ⟨k, rfl⟩ := Nat.exists_eq_add_of_le within
    clear whole within
    induction cs generalizing line column bytes with
    | nil => cases k <;> rfl
    | cons c cs ih =>
      have here := positionFrom_cons line column bytes (Text.byteLength cs) c cs
      have past := positionFrom_cons line column bytes (Text.byteLength cs + k) c cs
      rw [Text.byteLength_cons, Nat.add_assoc, here, past, ih, ih]
  · have size := congrArg Text.byteLength whole
    rw [Text.byteLength_append, Text.byteLength_cons] at size
    rw [Nat.min_eq_left (by omega)]

/-! ### Searching the table -/

private theorem bisect_eq {p : Nat → Bool} {low high k : Nat} (above : low ≤ k) (below : k ≤ high)
    (holds : ∀ i < k, p i = true) (fails : ∀ i, k ≤ i → i < high → p i = false) :
    bisect p low high = k := by
  fun_induction bisect p low high with
  | case1 low high proper middle found ih =>
    apply ih _ below fails
    -- The predicate holds in the middle, so that is before the place sought.
    by_contra past
    have failed := fails middle (by omega) (by omega)
    rw [found] at failed
    cases failed
  | case2 low high proper middle missed ih =>
    have before : k ≤ middle := by
      by_contra past
      exact missed (holds middle (by omega))
    exact ih above before fun i after inside => fails i after (by omega)
  | case3 low high improper => omega

private theorem countUpTo_append {bound : Nat} {front back : List Nat}
    (within : ∀ n ∈ front, n ≤ bound)
    (beyond : ∀ n ∈ back, bound < n) : countUpTo bound (front ++ back).toArray = front.length := by
  apply bisect_eq (Nat.zero_le _) (by simp)
  · intro i inside
    have found : (front ++ back)[i]? = some front[i] := by
      rw [List.getElem?_append_left inside, List.getElem?_eq_getElem inside]
    rw [List.getElem?_toArray, found]
    exact decide_eq_true (within _ (List.getElem_mem inside))
  · intro i outside inside
    have inBack : i - front.length < back.length := by
      rw [List.size_toArray, List.length_append] at inside
      omega
    have found : (front ++ back)[i]? = some back[i - front.length] := by
      rw [List.getElem?_append_right outside, List.getElem?_eq_getElem inBack]
    rw [List.getElem?_toArray, found]
    exact decide_eq_false (Nat.not_le.mpr (beyond _ (List.getElem_mem inBack)))

namespace Text

theorem offsetsOf_append (wanted : Char) (offset : Nat) (front back : List Char) :
    offsetsOf wanted offset (front ++ back) =
      offsetsOf wanted offset front ++ offsetsOf wanted (offset + byteLength front) back := by
  induction front generalizing offset with
  | nil => rfl
  | cons c front ih =>
    rw [List.cons_append, offsetsOf, offsetsOf, ih, byteLength_cons, Nat.add_assoc]
    split <;> rfl

theorem length_offsetsOf (wanted : Char) (offset : Nat) (cs : List Char) :
    (offsetsOf wanted offset cs).length = cs.count wanted := by
  induction cs generalizing offset with
  | nil => rfl
  | cons c cs ih =>
    rw [offsetsOf]
    split
    · rename_i same
      rw [List.length_cons, ih, same, List.count_cons_self]
    · rename_i other
      rw [ih, List.count_cons_of_ne other]

theorem bounds_of_mem_offsetsOf {wanted : Char} {offset found : Nat} {cs : List Char}
    (member : found ∈ offsetsOf wanted offset cs) :
    offset ≤ found ∧ found + wanted.utf8Size ≤ offset + byteLength cs := by
  induction cs generalizing offset with
  | nil => cases member
  | cons c cs ih =>
    rw [offsetsOf] at member
    rw [byteLength_cons]
    split at member
    · rename_i same
      rcases List.mem_cons.mp member with rfl | later
      · rw [same]
        omega
      · have := ih later
        omega
    · have := ih member
      omega

/-- The line starts of a front of a text, in the table. -/
def startsOf (front : List Char) : List Nat := 0 :: (offsetsOf '\n' 0 front).map (· + 1)

private theorem startsOf_le {start : Nat} {front : List Char} (member : start ∈ startsOf front) :
    start ≤ byteLength front := by
  rcases List.mem_cons.mp member with rfl | listed
  · exact Nat.zero_le _
  · obtain ⟨found, here, rfl⟩ := List.mem_map.mp listed
    have ends := (bounds_of_mem_offsetsOf here).2
    rwa [Nat.zero_add] at ends

/-- The last line of a front starts where the table says. -/
private theorem getLast?_startsOf {before line : List Char} (single : '\n' ∉ line)
    (ends : before = [] ∨ ∃ more, before = more ++ ['\n']) :
    (startsOf (before ++ line)).getLast? = some (byteLength before) := by
  have none : offsetsOf '\n' (0 + byteLength before) line = [] :=
    List.eq_nil_of_length_eq_zero (by rw [length_offsetsOf, List.count_eq_zero.mpr single])
  rw [startsOf, offsetsOf_append, none, List.append_nil]
  rcases ends with rfl | ⟨more, rfl⟩
  · rfl
  · rw [offsetsOf_append, List.map_append, ← List.cons_append, byteLength_append, Nat.zero_add]
    exact List.getLast?_concat

/-- After the characters up to an offset, a line feed ends after the offset. -/
private theorem lt_of_mem_offsetsOf {n found : Nat} {cs rest : List Char}
    (ends : rest = [] ∨ ∃ c more, rest = c :: more ∧ n < byteLength (upTo n cs) + c.utf8Size)
    (member : found ∈ offsetsOf '\n' (byteLength (upTo n cs)) rest) : n < found + 1 := by
  rcases ends with rfl | ⟨c, more, rfl, above⟩
  · cases member
  · rw [offsetsOf] at member
    split at member
    · rename_i feed
      rcases List.mem_cons.mp member with rfl | later
      · rwa [feed] at above
      · have := (bounds_of_mem_offsetsOf later).1
        omega
    · have := (bounds_of_mem_offsetsOf member).1
      omega

end Text

namespace Source

/-- The table has the line starts up to an offset in front of those after it. -/
private theorem lineStarts_eq {source : Source} {n : Nat} {rest : List Char}
    (whole : source.chars = Text.upTo n source.chars ++ rest) :
    source.lineStarts = (Text.startsOf (Text.upTo n source.chars) ++
      (Text.offsetsOf '\n' (Text.byteLength (Text.upTo n source.chars)) rest).map (· + 1)).toArray := by
  rw [lineStarts]
  conv => lhs; rw [whole]
  rw [Text.offsetsOf_append, Nat.zero_add, List.map_append, Text.startsOf, List.cons_append]

/-- Line and start of the line of an offset, as the table gives them. -/
private theorem search_lineStarts (source : Source) (n : Nat) {before line : List Char}
    (front : Text.upTo n source.chars = before ++ line) (single : '\n' ∉ line)
    (ends : before = [] ∨ ∃ more, before = more ++ ['\n']) :
    countUpTo n source.lineStarts = before.count '\n' + 1 ∧
      source.lineStarts[before.count '\n']? = some (Text.byteLength before) := by
  obtain ⟨rest, whole, after⟩ := Text.exists_after_upTo n source.chars
  have length : (Text.startsOf (Text.upTo n source.chars)).length = before.count '\n' + 1 := by
    rw [Text.startsOf, List.length_cons, List.length_map, Text.length_offsetsOf, front,
      List.count_append, List.count_eq_zero.mpr single, Nat.add_zero]
  rw [lineStarts_eq whole]
  constructor
  · rw [← length]
    apply countUpTo_append
    · intro start member
      exact Nat.le_trans (Text.startsOf_le member) (Text.byteLength_upTo_le n source.chars)
    · intro start member
      obtain ⟨found, listed, rfl⟩ := List.mem_map.mp member
      exact Text.lt_of_mem_offsetsOf after listed
  · rw [List.getElem?_toArray, List.getElem?_append_left (by omega), ← Text.getLast?_startsOf single ends,
      ← front, List.getLast?_eq_getElem?, length, Nat.add_sub_cancel]

theorem position_eq_walk (source : Source) (offset : Nat) :
    source.position offset = positionFrom 1 0 0 offset source.chars := by
  rw [← positionFrom_min]
  change _ = positionFrom 1 0 0 (min offset source.length) source.chars
  have inside : min offset source.length ≤ Text.byteLength source.chars := Nat.min_le_right ..
  unfold position
  generalize min offset source.length = n at inside
  obtain ⟨rest, whole, after⟩ := Text.exists_after_upTo n source.chars
  obtain ⟨before, line, front, single, ends⟩ := Text.exists_last_line (Text.upTo n source.chars)
  obtain ⟨counted, start⟩ := search_lineStarts source n front single ends
  have size : Text.byteLength before + Text.byteLength line ≤ n := by
    rw [← Text.byteLength_append, ← front]
    exact Text.byteLength_upTo_le n source.chars
  obtain ⟨k, rfl⟩ := Nat.exists_eq_add_of_le size
  -- The walk passes the lines before, then the characters of the line that end at the offset.
  have walked : positionFrom 1 0 0 (Text.byteLength before + Text.byteLength line + k) source.chars =
      positionFrom (before.count '\n' + 1) line.length (Text.byteLength line) k rest := by
    rw [whole, front, List.append_assoc]
    rcases ends with rfl | ⟨more, rfl⟩
    · rw [Text.byteLength_nil, Nat.zero_add, List.nil_append, positionFrom_append single, Nat.zero_add,
        Nat.zero_add]
      rfl
    · have feeds : (more ++ ['\n']).count '\n' = more.count '\n' + 1 := by simp
      have bytes : Text.byteLength (more ++ ['\n']) + Text.byteLength line + k =
          Text.byteLength more + (1 + (Text.byteLength line + k)) := by
        have feed : Text.byteLength ['\n'] = 1 := rfl
        rw [Text.byteLength_append, feed]
        omega
      rw [bytes, List.append_assoc, List.singleton_append, positionFrom_feed, positionFrom_append single,
        Nat.zero_add, Nat.zero_add, feeds, Nat.add_comm 1]
  rw [walked]
  simp only [counted, Nat.add_sub_cancel, start, Option.getD_some]
  rw [Nat.add_assoc, Nat.add_sub_cancel_left]
  cases k with
  | zero =>
    have slice : Text.slice (Text.byteLength before) (Text.byteLength line + 0) source.chars =
        .ok line := by
      rw [Text.slice, whole, front, List.append_assoc, Text.splitBytes?_append]
      simp only [Nat.add_zero, Text.splitBytes?_append]
    rw [slice]
    cases rest <;> rfl
  | succ k =>
    have outside : ¬ ∃ middle, Text.slice (Text.byteLength before) (Text.byteLength line + (k + 1))
        source.chars = .ok middle := by
      rw [Text.slice_ok_iff]
      rintro ⟨-, longer, back, split, reached⟩
      have same := Text.upTo_append longer back
      rw [← split, reached, ← Nat.add_assoc, front] at same
      rw [← same, Text.byteLength_append] at reached
      omega
    cases sliced : Text.slice (Text.byteLength before) (Text.byteLength line + (k + 1)) source.chars with
    | ok middle => exact absurd ⟨middle, sliced⟩ outside
    | error bad =>
      rcases after with rfl | ⟨c, more, rfl, above⟩
      · have total := congrArg Text.byteLength whole
        rw [List.append_nil, front, Text.byteLength_append] at total
        omega
      · rw [front, Text.byteLength_append] at above
        have wide : ¬ c.utf8Size ≤ k + 1 := by omega
        simp only [positionFrom, if_neg wide]

end Source

end Offside
