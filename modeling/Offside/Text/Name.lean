import Offside.Text.Word

/-! Names of the target language: a letter, underscore or dollar sign, then more of these and digits.
Only ASCII letters and digits count. -/

namespace Offside.Text

def isNameStart (c : Char) : Bool := c.isAlpha || c == '_' || c == '$'

def isNamePart (c : Char) : Bool := c.isAlphanum || c == '_' || c == '$'

/-- The name at the start of a text, and the rest. -/
def takeName? : List Char → Option (List Char × List Char)
  | [] => none
  | c :: cs =>
    if isNameStart c then some (c :: cs.takeWhile isNamePart, cs.dropWhile isNamePart) else none

theorem takeName?_append {cs name rest : List Char} (found : takeName? cs = some (name, rest)) :
    cs = name ++ rest := by
  cases cs with
  | nil => simp [takeName?] at found
  | cons c cs =>
    simp only [takeName?] at found
    split at found
    · simp only [Option.some.injEq, Prod.mk.injEq] at found
      rw [← found.1, ← found.2, List.cons_append, List.takeWhile_append_dropWhile]
    · simp at found

end Offside.Text
