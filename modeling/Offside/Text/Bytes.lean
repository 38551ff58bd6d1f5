/-! Byte offsets into a text. Offsets count the bytes of the UTF-8 form, so an offset either splits
the text between two characters or points into one, and then there is no split. -/

namespace Offside.Text

/-- Length in bytes. -/
def byteLength : List Char → Nat
  | [] => 0
  | c :: cs => c.utf8Size + byteLength cs

@[simp] theorem byteLength_nil : byteLength [] = 0 := rfl

@[simp] theorem byteLength_cons (c : Char) (cs : List Char) :
    byteLength (c :: cs) = c.utf8Size + byteLength cs := rfl

@[simp] theorem byteLength_append (front back : List Char) :
    byteLength (front ++ back) = byteLength front + byteLength back := by
  induction front with
  | nil => simp
  | cons c cs ih => simp [ih, Nat.add_assoc]

theorem byteLength_pos_of_ne_nil {cs : List Char} (nonempty : cs ≠ []) : 0 < byteLength cs := by
  cases cs with
  | nil => exact absurd rfl nonempty
  | cons c cs => simp only [byteLength_cons]; have := c.utf8Size_pos; omega

/-- The two parts of a text at a byte offset, if the offset lies between two characters. -/
def splitBytes? : Nat → List Char → Option (List Char × List Char)
  | 0, cs => some ([], cs)
  | _ + 1, [] => none
  | n + 1, c :: cs =>
    if c.utf8Size ≤ n + 1 then
      match splitBytes? (n + 1 - c.utf8Size) cs with
      | some (front, back) => some (c :: front, back)
      | none => none
    else none

theorem splitBytes?_append (front back : List Char) :
    splitBytes? (byteLength front) (front ++ back) = some (front, back) := by
  induction front with
  | nil => cases back <;> rfl
  | cons c cs ih =>
    have positive := c.utf8Size_pos
    obtain ⟨size, sized⟩ : ∃ size, c.utf8Size + byteLength cs = size + 1 :=
      ⟨c.utf8Size + byteLength cs - 1, by omega⟩
    have within : c.utf8Size ≤ size + 1 := by omega
    have left : size + 1 - c.utf8Size = byteLength cs := by omega
    simp [sized, splitBytes?, within, left, ih]

theorem eq_append_of_splitBytes? {n : Nat} {cs front back : List Char}
    (split : splitBytes? n cs = some (front, back)) :
    cs = front ++ back ∧ byteLength front = n := by
  induction cs generalizing n front back with
  | nil =>
    cases n with
    | zero => simp [splitBytes?] at split; simp [split]
    | succ n => simp [splitBytes?] at split
  | cons c cs ih =>
    cases n with
    | zero => simp [splitBytes?] at split; simp [split.1, ← split.2]
    | succ n =>
      simp only [splitBytes?] at split
      split at split
      · rename_i within
        cases inner : splitBytes? (n + 1 - c.utf8Size) cs with
        | none => simp [inner] at split
        | some parts =>
          simp only [inner, Option.some.injEq, Prod.mk.injEq] at split
          obtain ⟨same, size⟩ := ih inner
          obtain ⟨rfl, rfl⟩ := split
          exact ⟨by rw [same]; rfl, by simp only [byteLength_cons, size]; omega⟩
      · simp at split

/-- A split at an offset is the one way to write the text with a front of that many bytes. -/
theorem splitBytes?_eq_some_iff {n : Nat} {cs front back : List Char} :
    splitBytes? n cs = some (front, back) ↔ cs = front ++ back ∧ byteLength front = n :=
  ⟨eq_append_of_splitBytes?, fun ⟨same, size⟩ => same ▸ size ▸ splitBytes?_append front back⟩

/-- A range of bytes that does not lie between characters of the text. -/
structure BadSlice where
  offset : Nat
  length : Nat
deriving DecidableEq, Repr

/-- The characters of a range of bytes. -/
def slice (offset length : Nat) (cs : List Char) : Except BadSlice (List Char) :=
  match splitBytes? offset cs with
  | none => .error ⟨offset, length⟩
  | some (_, back) =>
    match splitBytes? length back with
    | none => .error ⟨offset, length⟩
    | some (middle, _) => .ok middle

end Offside.Text
