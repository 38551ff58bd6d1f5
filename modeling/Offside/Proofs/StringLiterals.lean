import Mathlib.Data.Set.Subsingleton
import Offside.Lexer.Scan

/-! String literals. A literal is a quote, items and a quote, where an item is one character that is
neither a quote nor a backslash, or a backslash with any one character after it. The scanner takes the
one literal that a text starts with, if there is one; if there is none, it knows whether a literal was
opened. -/

namespace Offside.Scan

/-- What stands between the quotes of a literal, one item at a time. -/
inductive LiteralItem : List Char → Prop where
  | plain {c : Char} (unquoted : c ≠ '\'') (unescaped : c ≠ '\\') : LiteralItem [c]
  | escaped (c : Char) : LiteralItem ['\\', c]

/-- A whole literal, with its quotes. -/
inductive IsLiteral : List Char → Prop where
  | quoted {items : List (List Char)} (inside : ∀ item ∈ items, LiteralItem item) :
      IsLiteral ('\'' :: (items.flatten ++ ['\'']))

/-- How a character is written in a literal. -/
def writeChar (c : Char) : List Char := if c = '\'' ∨ c = '\\' then ['\\', c] else [c]

/-- The literal of a content. -/
def writeLiteral (content : List Char) : List Char := '\'' :: (content.flatMap writeChar ++ ['\''])

private theorem isLiteral_writeLiteral (content : List Char) :
    IsLiteral (writeLiteral content) := by
  rw [writeLiteral, List.flatMap_def]
  refine .quoted fun item member => ?_
  obtain ⟨c, -, rfl⟩ := List.mem_map.mp member
  unfold writeChar
  split
  · exact .escaped c
  · rename_i ordinary
    exact .plain (fun quote => ordinary (.inl quote)) fun backslash => ordinary (.inr backslash)

/-! ### The scanner between the quotes -/

theorem closeQuote_plain {c : Char} (unescaped : c ≠ '\\') (taken : Nat) (cs : List Char) :
    closeQuote taken (c :: cs) =
      if c = '\'' then matched (taken + 1) else closeQuote (taken + 1) cs := by
  rw [closeQuote]
  · exact fun same _ => unescaped same
  · exact fun _ _ same _ => unescaped same

/-- The scanner goes over an item without stopping. -/
private theorem closeQuote_item {item : List Char} (inside : LiteralItem item) (taken : Nat)
    (cs : List Char) : closeQuote taken (item ++ cs) = closeQuote (taken + item.length) cs := by
  cases inside with
  | plain unquoted unescaped =>
    rw [List.singleton_append, closeQuote_plain unescaped, if_neg unquoted]
    rfl
  | escaped c =>
    rw [List.cons_append, List.singleton_append, closeQuote]
    rfl

private theorem closeQuote_items {items : List (List Char)}
    (inside : ∀ item ∈ items, LiteralItem item)
    (taken : Nat) (rest : List Char) :
    closeQuote taken (items.flatten ++ '\'' :: rest) =
      matched (taken + items.flatten.length + 1) := by
  induction items generalizing taken with
  | nil => rw [List.flatten_nil, List.nil_append, closeQuote_plain (by decide), if_pos rfl]; rfl
  | cons item items ih =>
    obtain ⟨first, others⟩ := List.forall_mem_cons.mp inside
    rw [List.flatten_cons, List.append_assoc, closeQuote_item first, ih others, List.length_append,
      Nat.add_assoc taken]

/-- Where the scanner finds an end, it has gone over items up to a quote. -/
private theorem exists_items_of_closeQuote {taken : Nat} {cs : List Char}
    (closed : closeQuote taken cs ≠ unterminated) :
    ∃ (items : List (List Char)) (rest : List Char),
      (∀ item ∈ items, LiteralItem item) ∧ cs = items.flatten ++ '\'' :: rest := by
  fun_induction closeQuote taken cs with
  | case1 => exact absurd rfl closed
  | case2 => exact absurd rfl closed
  | case3 taken c cs ih =>
    obtain ⟨items, rest, inside, rfl⟩ := ih closed
    exact ⟨['\\', c] :: items, rest, List.forall_mem_cons.mpr ⟨.escaped c, inside⟩, rfl⟩
  | case4 taken cs => exact ⟨[], cs, List.forall_mem_nil _, rfl⟩
  | case5 taken c cs last escaping unquoted ih =>
    obtain ⟨items, rest, inside, rfl⟩ := ih closed
    -- A backslash would have been the last character, or would have taken the next one along.
    have unescaped : c ≠ '\\' := by
      rintro rfl
      cases whole : items.flatten ++ '\'' :: rest with
      | nil => exact last rfl whole
      | cons next more => exact escaping next more rfl whole
    exact ⟨[c] :: items, rest, List.forall_mem_cons.mpr ⟨.plain unquoted unescaped, inside⟩, rfl⟩

/-! ### The whole scanner -/

theorem quoted_append {literal : List Char} (whole : IsLiteral literal) (rest : List Char) :
    quoted (literal ++ rest) = matched literal.length := by
  cases whole with
  | quoted inside =>
    rw [List.cons_append, List.append_assoc, List.singleton_append, quoted, closeQuote_items inside,
      List.length_cons, List.length_append, List.length_singleton]
    congr 1
    omega

/-- A text starts with a literal, or the scanner finds none: with a quote at its start it is one that
is never closed. -/
theorem quoted_cases (cs : List Char) :
    (∃ literal rest, IsLiteral literal ∧ cs = literal ++ rest) ∨
      (cs.head? = some '\'' ∧ quoted cs = unterminated) ∨
      (cs.head? ≠ some '\'' ∧ quoted cs = noMatch) := by
  unfold quoted
  split
  · rename_i cs
    by_cases closed : closeQuote 1 cs = unterminated
    · exact .inr (.inl ⟨rfl, closed⟩)
    · obtain ⟨items, rest, inside, rfl⟩ := exists_items_of_closeQuote closed
      exact .inl ⟨_, rest, .quoted inside, by simp⟩
  · rename_i other
    refine .inr (.inr ⟨fun quote => ?_, rfl⟩)
    obtain ⟨rest, rfl⟩ := List.head?_eq_some_iff.mp quote
    exact other rest rfl

theorem inBytes_quoted_append {literal : List Char} (whole : IsLiteral literal) (rest : List Char) :
    (quoted (literal ++ rest)).inBytes (literal ++ rest) = matched (Text.byteLength literal) := by
  rw [quoted_append whole, inBytes, List.take_left]

theorem IsLiteral.head? {literal : List Char} (whole : IsLiteral literal) (rest : List Char) :
    (literal ++ rest).head? = some '\'' := by
  cases whole
  rfl

/-- Of all the starts of a text at most one is a literal. -/
theorem IsLiteral.unique {first second cs : List Char} (one : IsLiteral first)
    (two : IsLiteral second) (before : first <+: cs) (also : second <+: cs) : first = second := by
  obtain ⟨rest, rfl⟩ := before
  obtain ⟨more, same⟩ := also
  have lengths := quoted_append two more
  rw [same, quoted_append one, matched.injEq] at lengths
  exact (List.append_inj same lengths.symm).1.symm

section

variable {cs : List Char}

private theorem inBytes_quoted_eq_matched_iff {n : Nat} :
    (quoted cs).inBytes cs = matched n ↔
      ∃ literal rest, cs = literal ++ rest ∧ Text.byteLength literal = n ∧ IsLiteral literal := by
  constructor
  · intro taken
    rcases quoted_cases cs with ⟨literal, rest, whole, rfl⟩ | ⟨-, none⟩ | ⟨-, none⟩
    · rw [inBytes_quoted_append whole, matched.injEq] at taken
      exact ⟨literal, rest, rfl, taken, whole⟩
    · rw [none] at taken
      cases taken
    · rw [none] at taken
      cases taken
  · rintro ⟨literal, rest, rfl, rfl, whole⟩
    exact inBytes_quoted_append whole rest

private theorem inBytes_quoted_eq_unterminated_iff :
    (quoted cs).inBytes cs = unterminated ↔
      cs.head? = some '\'' ∧ ¬ ∃ literal, literal <+: cs ∧ IsLiteral literal := by
  constructor
  · intro unclosed
    rcases quoted_cases cs with ⟨literal, rest, whole, rfl⟩ | ⟨quote, -⟩ | ⟨-, none⟩
    · rw [inBytes_quoted_append whole] at unclosed
      cases unclosed
    · refine ⟨quote, ?_⟩
      rintro ⟨literal, ⟨rest, rfl⟩, whole⟩
      rw [inBytes_quoted_append whole] at unclosed
      cases unclosed
    · rw [none] at unclosed
      cases unclosed
  · rintro ⟨quote, bare⟩
    rcases quoted_cases cs with ⟨literal, rest, whole, rfl⟩ | ⟨-, unclosed⟩ | ⟨other, -⟩
    · exact absurd ⟨literal, List.prefix_append literal rest, whole⟩ bare
    · rw [unclosed, inBytes]
    · exact absurd quote other

private theorem inBytes_quoted_eq_noMatch_iff :
    (quoted cs).inBytes cs = noMatch ↔ cs.head? ≠ some '\'' := by
  rcases quoted_cases cs with ⟨literal, rest, whole, rfl⟩ | ⟨quote, unclosed⟩ | ⟨other, none⟩
  · simp [inBytes_quoted_append whole, whole.head?]
  · simp [unclosed, inBytes, quote]
  · simp [none, inBytes, other]

end

/-- The scanner matches exactly the literal that a text starts with, and there is at most one; it says
that a literal is never closed exactly if the text starts with a quote and not with a literal; and it
does not match texts that start with anything else. So the literal of any content is matched as a
whole, whatever comes after it. -/
theorem quoted_takes_literal :
    (∀ cs : List Char,
      (∀ n, (quoted cs).inBytes cs = matched n ↔
        ∃ literal rest, cs = literal ++ rest ∧ Text.byteLength literal = n ∧ IsLiteral literal) ∧
      {literal | literal <+: cs ∧ IsLiteral literal}.Subsingleton ∧
      ((quoted cs).inBytes cs = unterminated ↔
        cs.head? = some '\'' ∧ ¬ ∃ literal, literal <+: cs ∧ IsLiteral literal) ∧
      ((quoted cs).inBytes cs = noMatch ↔ cs.head? ≠ some '\'')) ∧
    ∀ content rest : List Char,
      (quoted (writeLiteral content ++ rest)).inBytes (writeLiteral content ++ rest) =
        matched (Text.byteLength (writeLiteral content)) := by
  refine ⟨fun cs => ⟨fun n => inBytes_quoted_eq_matched_iff, ?_,
    inBytes_quoted_eq_unterminated_iff, inBytes_quoted_eq_noMatch_iff⟩, fun content rest => ?_⟩
  · rintro first ⟨before, one⟩ second ⟨also, two⟩
    exact one.unique two before also
  · exact inBytes_quoted_append (isLiteral_writeLiteral content) rest

/-- A backslash that is escaped does not escape the quote after it. -/
example : (quoted "'a\\\\' b'".toList).inBytes "'a\\\\' b'".toList = matched 5 := by decide

end Offside.Scan
