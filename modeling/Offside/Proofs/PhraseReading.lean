import Mathlib.Data.List.Forall2
import Offside.Proofs.TemplateWords

/-! How templates are read piece by piece. Each rule says what is read off a text that is followed by
something which cannot belong to it, and the rules follow the ways in which texts are put together. -/

namespace Offside.Template

/-- Characters that end an operand: brackets that close, commas and semicolons. -/
def closers : List Char := [')', ']', ',', ';']

theorem closer_cases (closes : c ∈ closers) : c = ')' ∨ c = ']' ∨ c = ',' ∨ c = ';' := by
  simpa [closers] using closes

/-- What may come after a text of a rank: nothing, a closer, or an operator of a lower rank. -/
inductive Follows (rank : Nat) : List Char → Prop where
  | nothing : Follows rank []
  | closer (closes : c ∈ closers) : Follows rank (c :: rest)
  | operator (op : InfixOp) (looser : op.rank < rank) :
      Follows rank (' ' :: (op.name.toList ++ ' ' :: rest))

theorem Follows.mono {low high : Nat} {rest : List Char} (follows : Follows low rest)
    (le : low ≤ high) : Follows high rest := by
  cases follows with
  | nothing => exact .nothing
  | closer closes => exact .closer closes
  | operator op looser => exact .operator op (by omega)

theorem Follows.apart {rest : List Char} (follows : Follows rank rest) : Apart rest := by
  cases follows with
  | nothing => exact apart_nil
  | closer closes =>
    rcases closer_cases closes with rfl | rfl | rfl | rfl <;> exact apart_cons (by decide) (by decide) _
  | operator op _ => exact apart_cons (by decide) (by decide) _

/-- No operator starts with a blank or with the first character of a suffix. -/
theorem InfixOp.name_spelled (op : InfixOp) : ∃ first more, op.name.toList = first :: more ∧
    isSpace first = false ∧ first ∉ ['.', '[', '('] := by
  rcases op with op | op
  · cases op <;> exact ⟨_, _, rfl, by decide, by decide⟩
  · cases op <;> exact ⟨_, _, rfl, by decide, by decide⟩

theorem skipSpaces_operator (op : InfixOp) (rest : List Char) :
    skipSpaces (' ' :: (op.name.toList ++ rest)) = op.name.toList ++ rest := by
  obtain ⟨first, more, spelling, visible, -⟩ := op.name_spelled
  rw [skipSpaces_space, spelling, List.cons_append, skipSpaces_cons visible]

/-- The operators of a rank, for the ranks that group to the left. -/
def operatorsOf (rank : Nat) : List (Spelling InfixOp) := levels.getD (6 - rank) []

theorem rank_cases (positive : 0 < rank) (low : rank ≤ 6) :
    rank = 1 ∨ rank = 2 ∨ rank = 3 ∨ rank = 4 ∨ rank = 5 ∨ rank = 6 := by
  omega

private theorem takeOperator?_own (op : InfixOp) (low : op.rank ≤ 6) (rest : List Char) :
    takeOperator? (operatorsOf op.rank) (op.name.toList ++ ' ' :: rest) =
      some (op, ' ' :: rest) := by
  rcases op with op | op
  · cases op with
    | power => simp [InfixOp.rank] at low
    | _ => rfl
  · cases op <;> rfl

private theorem takeOperator?_other (op : InfixOp) {rank : Nat} (positive : 0 < rank)
    (low : rank ≤ 6)
    (other : op.rank ≠ rank) (rest : List Char) :
    takeOperator? (operatorsOf rank) (op.name.toList ++ ' ' :: rest) = none := by
  rcases rank_cases positive low with rfl | rfl | rfl | rfl | rfl | rfl
  all_goals
    rcases op with op | op
    all_goals cases op <;> first | rfl | exact absurd rfl other

private theorem takeOperator?_closer {rank : Nat} (positive : 0 < rank) (low : rank ≤ 6)
    (closes : c ∈ closers) (rest : List Char) :
    takeOperator? (operatorsOf rank) (c :: rest) = none := by
  rcases rank_cases positive low with rfl | rfl | rfl | rfl | rfl | rfl
  all_goals
    rcases closer_cases closes with rfl | rfl | rfl | rfl <;> rfl

theorem closer_visible (closes : c ∈ closers) : isSpace c = false := by
  rcases closer_cases closes with rfl | rfl | rfl | rfl <;> decide

namespace Follows

private theorem takeOperator?_eq_none (follows : Follows rank rest) (positive : 0 < rank)
    (low : rank ≤ 6) :
    takeOperator? (operatorsOf rank) (skipSpaces rest) = none := by
  cases follows with
  | nothing =>
    rcases rank_cases positive low with rfl | rfl | rfl | rfl | rfl | rfl <;> rfl
  | closer closes =>
    rw [skipSpaces_cons (closer_visible closes)]
    exact takeOperator?_closer positive low closes _
  | operator op looser =>
    rw [skipSpaces_operator]
    exact takeOperator?_other op positive low (by omega) _

private theorem take?_power (follows : Follows rank rest) (low : rank ≤ 7) :
    take? "**" (skipSpaces rest) = none := by
  cases follows with
  | nothing => rfl
  | closer closes =>
    rw [skipSpaces_cons (closer_visible closes)]
    rcases closer_cases closes with rfl | rfl | rfl | rfl <;> rfl
  | operator op looser =>
    rw [skipSpaces_operator]
    rcases op with op | op
    · cases op with
      | power => simp only [InfixOp.rank] at looser; omega
      | _ => rfl
    · cases op <;> rfl

end Follows

theorem suffix?_cons {c : Char} (none : c ∉ ['.', '[', '(']) (cs : List Char) :
    suffix? (c :: cs) = .none := by
  rw [suffix?]
  all_goals
    intro rest same
    obtain ⟨rfl, -⟩ := List.cons.inj same
    simp at none

private theorem Follows.suffixes_eq (follows : Follows rank rest) (expr : Expr) :
    suffixes expr rest = (expr, rest) := by
  have none : suffix? (skipSpaces rest) = .none := by
    cases follows with
    | nothing => simp [skipSpaces, suffix?]
    | closer closes =>
      rw [skipSpaces_cons (closer_visible closes)]
      apply suffix?_cons
      rcases closer_cases closes with rfl | rfl | rfl | rfl <;> decide
    | operator op _ =>
      obtain ⟨first, more, spelling, -, noSuffix⟩ := op.name_spelled
      rw [skipSpaces_operator, spelling, List.cons_append]
      exact suffix?_cons noSuffix _
  rw [suffixes, none]

/-- A text that starts an operand. It does not start with a blank, nor with the word that starts a
statement. -/
structure Leads (text : List Char) : Prop where
  visible : ∃ first more, text = first :: more ∧ isSpace first = false
  ordinary : ∀ rest, Apart rest → keyword? "return" (text ++ rest) = none

namespace Leads

theorem skipSpaces_append (leads : Leads text) (rest : List Char) :
    skipSpaces (text ++ rest) = text ++ rest := by
  obtain ⟨first, more, rfl, visible⟩ := leads.visible
  exact skipSpaces_cons visible _

theorem length_pos (leads : Leads text) : 0 < text.length := by
  obtain ⟨first, more, rfl, -⟩ := leads.visible
  simp

theorem append (leads : Leads text) (apart : ∀ rest, Apart (more ++ rest)) :
    Leads (text ++ more) := by
  constructor
  · obtain ⟨first, after, rfl, visible⟩ := leads.visible
    exact ⟨first, after ++ more, rfl, visible⟩
  · intro rest _
    rw [List.append_assoc]
    exact leads.ordinary _ (apart rest)

/-- A text that starts with a visible character other than the first of the word. -/
theorem cons {c : Char} (visible : isSpace c = false) (other : c ≠ 'r') (cs : List Char) :
    Leads (c :: cs) := by
  refine ⟨⟨c, cs, rfl, visible⟩, ?_⟩
  intro rest _
  exact keyword?_cons_ne rfl other.symm _

end Leads

/-- A text that reads as an expression and to which suffixes may be added. -/
structure Suffixed (text : List Char) (expr : Expr) : Prop extends Leads text where
  unsigned : ∀ rest, Apart rest → takeOperator? unaryOperators (text ++ rest) = none
  reads : ∀ rest, Apart rest → suffixed? (text ++ rest) = some (suffixes expr rest)

/-- What reads expressions of at least a rank. -/
def reader (rank : Nat) : List Char → Option (Expr × List Char) :=
  if rank = 8 then unary? else binary? (7 - rank)

/-- A text that reads as an expression of at least a rank. -/
structure Reads (rank : Nat) (text : List Char) (expr : Expr) : Prop extends Leads text where
  reads : ∀ rest, Follows rank rest → reader rank (text ++ rest) = some (expr, rest)

/-- A text that reads as the start of operands with operators of one rank between them. -/
structure Chains (rank : Nat) (text : List Char) (expr : Expr) : Prop extends Leads text where
  chains : ∀ rest, Follows (rank + 1) rest →
    binary? (7 - rank) (text ++ rest) = binaryTail? (6 - rank) (operatorsOf rank) expr rest

theorem Suffixed.toReads (suffixed : Suffixed text expr) : Reads 8 text expr := by
  refine ⟨suffixed.toLeads, ?_⟩
  intro rest follows
  rw [reader, if_pos rfl, unary?, suffixed.unsigned rest follows.apart,
    suffixed.reads rest follows.apart, follows.suffixes_eq]

namespace Reads

private theorem toPower (reads : Reads 8 text expr) : Reads 7 text expr := by
  refine ⟨reads.toLeads, ?_⟩
  intro rest follows
  have base : unary? (text ++ rest) = some (expr, rest) := reads.reads rest (follows.mono (by omega))
  have none := follows.take?_power (Nat.le_refl 7)
  rw [reader, if_neg (by decide), binary?, power?, base]
  simp only [none]

theorem operand (reads : Reads (rank + 1) text expr) (low : rank ≤ 6)
    (follows : Follows (rank + 1) rest) :
    binary? (6 - rank) (text ++ rest) = some (expr, rest) := by
  have operand := reads.reads rest follows
  rw [reader, if_neg (by omega)] at operand
  rwa [show 6 - rank = 7 - (rank + 1) by omega]

/-- A single operand starts a run of operands. -/
theorem toChains (reads : Reads (rank + 1) text expr) (positive : 0 < rank) (low : rank ≤ 6) :
    Chains rank text expr := by
  refine ⟨reads.toLeads, ?_⟩
  intro rest follows
  have operand := reads.operand low follows
  have shorter : rest.length < (text ++ rest).length := by
    rw [List.length_append]
    have := reads.length_pos
    omega
  have level : 7 - rank = 6 - rank + 1 := by omega
  have present : levels[6 - rank]? = some (operatorsOf rank) := by
    have bound : 6 - rank < levels.length := by
      rw [show levels.length = 6 from rfl]
      omega
    rw [operatorsOf, List.getD_eq_getElem?_getD, List.getElem?_eq_getElem bound]
    rfl
  rw [level, binary?]
  split
  next absent => simp [present] at absent
  next operators found =>
    obtain rfl := Option.some.inj (present.symm.trans found)
    simp only [operand, shorter, ↓reduceIte]

end Reads

theorem Chains.toReads (chains : Chains rank text expr) (positive : 0 < rank) (low : rank ≤ 6) :
    Reads rank text expr := by
  refine ⟨chains.toLeads, ?_⟩
  intro rest follows
  rw [reader, if_neg (by omega), chains.chains rest (follows.mono (by omega)), binaryTail?,
    follows.takeOperator?_eq_none positive low]

/-- What reads at a rank reads at every lower one. -/
theorem Reads.descend (reads : Reads high text expr) (positive : 0 < low) (le : low ≤ high)
    (most : high ≤ 8) : Reads low text expr := by
  induction high, le using Nat.le_induction with
  | base => exact reads
  | succ high le ih =>
    apply ih _ (by omega)
    by_cases top : high = 7
    · subst high
      exact reads.toPower
    · exact (reads.toChains (by omega) (by omega)).toReads (by omega) (by omega)

/-- One more operand of a run. -/
theorem Chains.binary {op : InfixOp} (low : op.rank ≤ 6)
    (left : Chains op.rank leftText leftExpr) (right : Reads (op.rank + 1) rightText rightExpr) :
    Chains op.rank (leftText ++ ' ' :: (op.name.toList ++ ' ' :: rightText))
      (op.apply leftExpr rightExpr) := by
  constructor
  · apply left.toLeads.append
    intro rest
    exact apart_cons (by decide) (by decide) _
  · intro rest follows
    have behind : Follows (op.rank + 1) (' ' :: (op.name.toList ++ ' ' :: (rightText ++ rest))) :=
      .operator op (Nat.lt_succ_self _)
    have operand := right.operand low follows
    have split : leftText ++ ' ' :: (op.name.toList ++ ' ' :: rightText) ++ rest =
        leftText ++ ' ' :: (op.name.toList ++ ' ' :: (rightText ++ rest)) := by simp
    rw [split, left.chains _ behind, binaryTail?, skipSpaces_operator,
      takeOperator?_own op low]
    simp only [skipSpaces_space, right.skipSpaces_append, operand]
    rw [if_pos (by simp; omega), if_pos (by simp; omega)]

/-- A power. Its exponent may be a power. -/
theorem Reads.power (base : Reads 8 baseText baseExpr) (exponent : Reads 7 text expr) :
    Reads 7 (baseText ++ ' ' :: ("**".toList ++ ' ' :: text)) (.binary .power baseExpr expr) := by
  constructor
  · apply base.toLeads.append
    intro rest
    exact apart_cons (by decide) (by decide) _
  · intro rest follows
    have behind : Follows 8 (' ' :: ("**".toList ++ ' ' :: (text ++ rest))) :=
      .operator (.binary .power) (by decide)
    have first : unary? (baseText ++ ' ' :: ("**".toList ++ ' ' :: (text ++ rest))) =
        some (baseExpr, ' ' :: ("**".toList ++ ' ' :: (text ++ rest))) := base.reads _ behind
    have second : power? (text ++ rest) = some (expr, rest) := by
      have second := exponent.reads rest follows
      rw [reader, if_neg (by decide), binary?] at second
      exact second
    have split : baseText ++ ' ' :: ("**".toList ++ ' ' :: text) ++ rest =
        baseText ++ ' ' :: ("**".toList ++ ' ' :: (text ++ rest)) := by simp
    have operator : take? "**" (skipSpaces ("**".toList ++ ' ' :: (text ++ rest))) =
        some (' ' :: (text ++ rest)) := rfl
    rw [reader, if_neg (by decide), binary?, split, power?, first]
    simp only [skipSpaces_space, operator, exponent.skipSpaces_append, second]
    rw [if_pos (by simp; omega)]

private theorem takeOperator?_unary {op : UnaryOp} (offered : op ≠ .delete) (rest : List Char) :
    takeOperator? unaryOperators (op.name.toList ++ ' ' :: rest) = some (op, ' ' :: rest) := by
  cases op with
  | delete => exact absurd rfl offered
  | _ => rfl

theorem Leads.unary (op : UnaryOp) (text : List Char) : Leads (op.name.toList ++ ' ' :: text) := by
  cases op <;> exact .cons (by decide) (by decide) _

theorem Reads.unary {op : UnaryOp} (offered : op ≠ .delete) (argument : Reads 8 text expr) :
    Reads 8 (op.name.toList ++ ' ' :: text) (.unary op expr) := by
  refine ⟨.unary op text, ?_⟩
  intro rest follows
  have operand : unary? (text ++ rest) = some (expr, rest) := argument.reads rest follows
  have split : op.name.toList ++ ' ' :: text ++ rest = op.name.toList ++ ' ' :: (text ++ rest) := by
    simp
  rw [reader, if_pos rfl, split, unary?, takeOperator?_unary offered]
  simp only [skipSpaces_space, argument.skipSpaces_append, operand]
  rw [if_pos (by simp; omega)]

theorem placeholder?_cons {c : Char} (other : c ≠ '<') (cs : List Char) :
    placeholder? (c :: cs) = none := by
  have none : take? "<%=" (c :: cs) = .none := take?_cons_ne rfl (Ne.symm other) cs
  simp [placeholder?, none]

theorem number?_cons {c : Char} (other : c.isDigit = false) (cs : List Char) :
    number? (c :: cs) = none := by
  simp [number?, digits?, other]

theorem quoted?_cons {mark c : Char} (other : c ≠ mark) (cs : List Char) :
    quoted? mark (c :: cs) = none := by
  simp [quoted?, other]

/-- A character that starts neither a placeholder nor a number nor a string. -/
theorem atom?_cons {c : Char} (noDigit : c.isDigit = false) (other : c ∉ ['<', '\'', '"'])
    (cs : List Char) : atom? (c :: cs) = none := by
  simp only [List.mem_cons, List.not_mem_nil, or_false, not_or] at other
  rw [atom?, placeholder?_cons other.1, number?_cons noDigit, quoted?_cons other.2.1,
    quoted?_cons other.2.2]
  rfl

theorem suffixed?_of_primary? (primary : primary? (text ++ rest) = some (expr, rest))
    (leads : Leads text) : suffixed? (text ++ rest) = some (suffixes expr rest) := by
  rw [suffixed?, primary]
  simp only
  rw [if_pos]
  have := leads.length_pos
  rw [List.length_append]
  omega

private theorem takeOperator?_eq_none_iff {spellings : List (Spelling α)} :
    takeOperator? spellings cs = none ↔
      ∀ spelling ∈ spellings, takeOperator? [spelling] cs = none := by
  simp [takeOperator?]

theorem takeOperator?_cons_ne {spelling : Spelling α} {c first : Char} {more : List Char}
    (text : spelling.text.toList = first :: more) (differs : first ≠ c) (cs : List Char) :
    takeOperator? [spelling] (c :: cs) = none := by
  simp [takeOperator?, take?_cons_ne text differs]

/-- An operator that is a word is taken only where the word is. -/
theorem takeOperator?_word (none : keyword? text cs = none) (op : α) :
    takeOperator? [⟨text, op, .wordEnd⟩] cs = .none := by
  unfold keyword? at none
  cases taken : take? text cs with
  | none => simp [takeOperator?, taken]
  | some rest =>
    simp only [taken] at none
    by_cases ends : endsWord rest = true
    · simp [ends] at none
    · simp [takeOperator?, taken, Follow.allows, ends]

theorem takeOperator?_unary_eq_none {c : Char} (noSign : c ∉ ['!', '~', '-', '+'])
    (noTypeOf : keyword? "typeof" (c :: cs) = none) (noVoid : keyword? "void" (c :: cs) = none) :
    takeOperator? unaryOperators (c :: cs) = none := by
  simp only [List.mem_cons, List.not_mem_nil, or_false, not_or] at noSign
  rw [takeOperator?_eq_none_iff]
  intro spelling member
  simp only [unaryOperators, List.mem_cons, List.not_mem_nil, or_false] at member
  rcases member with rfl | rfl | rfl | rfl | rfl | rfl
  · exact takeOperator?_cons_ne rfl (Ne.symm noSign.1) cs
  · exact takeOperator?_cons_ne rfl (Ne.symm noSign.2.1) cs
  · exact takeOperator?_cons_ne rfl (Ne.symm noSign.2.2.1) cs
  · exact takeOperator?_cons_ne rfl (Ne.symm noSign.2.2.2) cs
  · exact takeOperator?_word noTypeOf UnaryOp.typeOf
  · exact takeOperator?_word noVoid UnaryOp.void

/-- Neither a sign nor one of the words before operands. -/
theorem takeOperator?_unary_cons {c : Char} (other : c ∉ ['!', '~', '-', '+', 't', 'v'])
    (cs : List Char) : takeOperator? unaryOperators (c :: cs) = none := by
  simp only [List.mem_cons, List.not_mem_nil, or_false, not_or] at other
  apply takeOperator?_unary_eq_none
  · simp [other]
  · exact keyword?_cons_ne rfl (Ne.symm other.2.2.2.2.1) cs
  · exact keyword?_cons_ne rfl (Ne.symm other.2.2.2.2.2) cs

/-- A text whose first character starts neither a sign nor one of the words of the syntax. -/
theorem Suffixed.cons {c : Char} (visible : isSpace c = false)
    (other : c ∉ ['!', '~', '-', '+', 't', 'v', 'r'])
    (primary : ∀ rest, Apart rest → primary? (c :: (cs ++ rest)) = some (expr, rest)) :
    Suffixed (c :: cs) expr := by
  simp only [List.mem_cons, List.not_mem_nil, or_false, not_or] at other
  have leads : Leads (c :: cs) := .cons visible other.2.2.2.2.2.2 cs
  refine ⟨leads, ?_, ?_⟩
  · intro rest _
    apply takeOperator?_unary_cons
    simp [other]
  · intro rest apart
    exact suffixed?_of_primary? (primary rest apart) leads

@[simp] theorem closed?_closer (closes : c ∈ closers) (a : α) (rest : List Char) :
    closed? c (a, c :: rest) = some (a, rest) := by
  simp [closed?, skipSpaces_cons (closer_visible closes)]

theorem expression_of_reads (reads : Reads 1 text expr) (closes : c ∈ closers) (rest : List Char) :
    binary? levels.length (skipSpaces (text ++ c :: rest)) = some (expr, c :: rest) := by
  rw [reads.skipSpaces_append]
  exact reads.reads _ (.closer closes)

private theorem Reads.parenthesized (reads : Reads 1 text expr) :
    Suffixed ('(' :: (text ++ [')'])) expr := by
  apply Suffixed.cons (by decide) (by decide)
  intro rest _
  have closes : ')' ∈ closers := by decide
  rw [primary?, atom?_cons (by decide) (by decide)]
  simp only [List.append_assoc, List.singleton_append]
  rw [expression_of_reads reads closes]
  simp [closes]

private theorem suffixes_cons (suffix : suffix? (skipSpaces cs) = some (step, rest))
    (shorter : rest.length < cs.length) (expr : Expr) :
    suffixes expr cs = suffixes (step.apply expr) rest := by
  rw [suffixes, suffix]
  simp only [shorter, ↓reduceIte]

namespace Suffixed

/-- A suffix of any kind. -/
theorem suffix {more : List Char} {step : Suffix} (suffixed : Suffixed text expr)
    (apart : ∀ rest, Apart (c :: (more ++ rest))) (visible : isSpace c = false)
    (reads : ∀ rest, Apart rest → suffix? (c :: (more ++ rest)) = some (step, rest)) :
    Suffixed (text ++ c :: more) (step.apply expr) := by
  refine ⟨suffixed.toLeads.append apart, ?_, ?_⟩
  · intro rest _
    rw [List.append_assoc]
    exact suffixed.unsigned _ (apart rest)
  · intro rest ends
    have step : suffix? (skipSpaces (c :: (more ++ rest))) = some (step, rest) := by
      rw [skipSpaces_cons visible]
      exact reads rest ends
    have shorter : rest.length < (c :: (more ++ rest)).length := by
      rw [List.length_cons, List.length_append]
      omega
    rw [List.append_assoc, List.cons_append, suffixed.reads _ (apart rest),
      suffixes_cons step shorter]

theorem member (suffixed : Suffixed text expr) (name : Name) :
    Suffixed (text ++ '.' :: name.chars) (.member expr (.identifier name.toString) false) := by
  change Suffixed _ ((Suffix.member name.toString).apply expr)
  apply suffixed.suffix (apart_point name) (by decide)
  intro rest apart
  rw [suffix?, name.skipSpaces_append, name.takeName?_append apart.word]
  rfl

theorem computed {inner : List Char} (suffixed : Suffixed text expr)
    (property : Reads 1 inner value) :
    Suffixed (text ++ '[' :: (inner ++ [']'])) (.member expr value true) := by
  change Suffixed _ ((Suffix.computed value).apply expr)
  apply suffixed.suffix (fun _ => apart_cons (by decide) (by decide) _) (by decide)
  intro rest _
  have closes : ']' ∈ closers := by decide
  rw [suffix?]
  simp only [List.append_assoc, List.singleton_append]
  rw [expression_of_reads property closes]
  simp [closes]

end Suffixed

/-- Where no operand starts, no expression is read. -/
theorem binary?_eq_none (unsigned : takeOperator? unaryOperators cs = none)
    (none : primary? cs = none) (level : Nat) : binary? level cs = .none := by
  have suffixed : suffixed? cs = .none := by rw [suffixed?, none]
  have unary : unary? cs = .none := by rw [unary?, unsigned, suffixed]
  induction level with
  | zero => rw [binary?, power?, unary]
  | succ level ih =>
    rw [binary?]
    split
    · rfl
    · rw [ih]

theorem binary?_nil (level : Nat) : binary? level [] = none := by
  apply binary?_eq_none rfl
  rw [primary?]
  · rfl
  all_goals simp

theorem binary?_closer (closes : c ∈ closers) (rest : List Char) (level : Nat) :
    binary? level (c :: rest) = none := by
  have cases := closer_cases closes
  apply binary?_eq_none
  · rcases cases with rfl | rfl | rfl | rfl <;> exact takeOperator?_unary_cons (by decide) _
  · have atom : atom? (c :: rest) = none := by
      rcases cases with rfl | rfl | rfl | rfl <;> exact atom?_cons (by decide) (by decide) _
    have word : word? (c :: rest) = none := by
      rcases cases with rfl | rfl | rfl | rfl <;> rfl
    rcases cases with rfl | rfl | rfl | rfl
    all_goals
      rw [primary?, atom]
      · simpa using word
      all_goals simp

theorem intercalate_cons (separator text : List Char) (texts : List (List Char)) :
    separator.intercalate (text :: texts) = text ++ texts.flatMap (separator ++ ·) := by
  induction texts generalizing text with
  | nil => simp
  | cons next texts ih => rw [List.intercalate_cons_cons, ih]; simp

/-- Texts that each follow a separator, and a closer after them, start with a closer. -/
theorem starts_closer (separates : separator ∈ closers) (closes : c ∈ closers) (between rest : List Char)
    (texts : List (List Char)) : ∃ first ∈ closers, ∃ more,
      texts.flatMap ((separator :: between) ++ ·) ++ c :: rest = first :: more := by
  cases texts with
  | nil => exact ⟨c, closes, rest, rfl⟩
  | cons text texts => exact ⟨separator, separates, _, rfl⟩

private theorem moreItems_read (reads : List.Forall₂ (Reads 1) texts exprs) (closes : c ∈ closers)
    (noComma : c ≠ ',') (rest : List Char) :
    moreItems (texts.flatMap ([',', ' '] ++ ·) ++ c :: rest) = (exprs, c :: rest) := by
  induction reads with
  | nil =>
    rw [List.flatMap_nil, List.nil_append, moreItems]
    intro after same
    exact noComma (List.cons.inj same).1
  | @cons text expr texts exprs first more ih =>
    obtain ⟨next, nextCloses, after, tail⟩ :=
      starts_closer (by decide : ',' ∈ closers) closes [' '] rest texts
    have split : (text :: texts).flatMap ([',', ' '] ++ ·) ++ c :: rest =
        ',' :: ' ' :: (text ++ (texts.flatMap ([',', ' '] ++ ·) ++ c :: rest)) := by simp
    rw [split, tail, moreItems, skipSpaces_space, expression_of_reads first nextCloses]
    simp only [skipSpaces_cons (closer_visible nextCloses)]
    rw [if_pos (by simp; omega), ← tail, ih]

theorem items_read (reads : List.Forall₂ (Reads 1) texts exprs) (closes : c ∈ closers)
    (noComma : c ≠ ',') (rest : List Char) :
    items ([',', ' '].intercalate texts ++ c :: rest) = (exprs, c :: rest) := by
  cases reads with
  | nil =>
    have none := binary?_closer closes rest levels.length
    simp [items, skipSpaces_cons (closer_visible closes), none]
  | @cons text expr texts exprs first more =>
    obtain ⟨next, nextCloses, after, tail⟩ :=
      starts_closer (by decide : ',' ∈ closers) closes [' '] rest texts
    have rest := moreItems_read more closes noComma rest
    rw [intercalate_cons, List.append_assoc]
    rw [tail] at rest ⊢
    have positive := first.length_pos
    rw [items, expression_of_reads first nextCloses]
    simp only [skipSpaces_cons (closer_visible nextCloses), rest]
    rw [if_pos (by simp; omega)]

theorem skipSpaces_items (reads : List.Forall₂ (Reads 1) texts exprs) (closes : c ∈ closers)
    (rest : List Char) : skipSpaces ([',', ' '].intercalate texts ++ c :: rest) =
      [',', ' '].intercalate texts ++ c :: rest := by
  cases reads with
  | nil => exact skipSpaces_cons (closer_visible closes) rest
  | cons first _ => rw [intercalate_cons, List.append_assoc, first.skipSpaces_append]

theorem Suffixed.array (reads : List.Forall₂ (Reads 1) texts exprs) :
    Suffixed ('[' :: ([',', ' '].intercalate texts ++ [']'])) (.array exprs) := by
  apply Suffixed.cons (by decide) (by decide)
  intro rest _
  have closes : ']' ∈ closers := by decide
  rw [primary?, atom?_cons (by decide) (by decide)]
  simp only [List.append_assoc, List.singleton_append]
  rw [skipSpaces_items reads closes, items_read reads closes (by decide)]
  simp [closes]

theorem Suffixed.call (suffixed : Suffixed text expr) (reads : List.Forall₂ (Reads 1) texts exprs) :
    Suffixed (text ++ '(' :: ([',', ' '].intercalate texts ++ [')'])) (.call expr exprs) := by
  change Suffixed _ ((Suffix.call exprs).apply expr)
  apply suffixed.suffix (fun _ => apart_cons (by decide) (by decide) _) (by decide)
  intro rest _
  have closes : ')' ∈ closers := by decide
  rw [suffix?]
  simp only [List.append_assoc, List.singleton_append]
  rw [skipSpaces_items reads closes, items_read reads closes (by decide)]
  simp [closes]

/-- A text that reads as an expression wherever it stands, if it is put between parentheses where its
rank is too low for the place. -/
structure Legible (rank : Nat) (text : List Char) (expr : Expr) : Prop where
  reads : 0 < least → least ≤ 8 → Reads least (enclose least rank text) expr
  chains : 0 < least → least ≤ 6 → Chains least (enclose least rank text) expr
  suffixed : Suffixed (enclose 9 rank text) expr

theorem Suffixed.legible (suffixed : Suffixed text expr) : Legible 9 text expr := by
  have bare (least : Nat) (low : least ≤ 9) : enclose least 9 text = text := if_neg (by omega)
  constructor
  · intro least positive low
    rw [bare _ (by omega)]
    exact suffixed.toReads.descend positive low (by omega)
  · intro least positive low
    rw [bare _ (by omega)]
    exact (suffixed.toReads.descend (by omega) (by omega) (by omega)).toChains positive low
  · rw [bare _ (by omega)]
    exact suffixed

theorem Reads.legible (reads : Reads rank text expr) (positive : 0 < rank) (low : rank ≤ 8)
    (chains : rank ≤ 6 → Chains rank text expr) : Legible rank text expr := by
  have inside : Suffixed ('(' :: (text ++ [')'])) expr :=
    (reads.descend (by omega) positive low).parenthesized
  have everywhere (least : Nat) (least_pos : 0 < least) (least_le : least ≤ 8) :
      Reads least (enclose least rank text) expr := by
    unfold enclose
    split
    · exact inside.toReads.descend least_pos least_le (by omega)
    · exact reads.descend least_pos (by omega) low
  refine ⟨everywhere _, ?_, ?_⟩
  · intro least least_pos least_le
    by_cases same : least = rank
    · subst least
      rw [enclose, if_neg (by omega)]
      exact chains least_le
    · -- A text of another rank stands between parentheses here if and only if it does one rank higher.
      have alike : enclose least rank text = enclose (least + 1) rank text := by
        unfold enclose
        by_cases lower : rank < least
        · rw [if_pos lower, if_pos (by omega)]
        · rw [if_neg lower, if_neg (by omega)]
      rw [alike]
      exact (everywhere _ (by omega) (by omega)).toChains least_pos least_le
  · rw [enclose, if_pos (by omega)]
    exact inside

end Offside.Template
