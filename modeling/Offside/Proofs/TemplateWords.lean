import Mathlib.Data.List.TakeWhile
import Offside.Proofs.TemplatePhrases
import Offside.Proofs.WordLexing

/-! The words of templates: names, keywords, numbers, strings and placeholders. Each is read whole off a
text in which nothing behind it could belong to it. -/

namespace Offside.Template

private theorem isAlphanumeric_of_isAlphanum {c : Char} (ascii : c.isAlphanum = true) :
    Text.isAlphanumeric c = true := by
  have low : c.toNat < 128 := by
    rcases Bool.or_eq_true_iff.mp ascii with letter | digit
    · have := (Text.isAlpha_iff c).mp letter
      omega
    · have := (Text.isDigit_iff c).mp digit
      omega
  rw [Text.isAlphanumeric, if_pos low]
  exact ascii

/-- A word goes on where a name does. -/
theorem endsWord_of_isNamePart {c : Char} (part : Text.isNamePart c = true) (cs : List Char) :
    endsWord (c :: cs) = false := by
  simp only [Text.isNamePart, Bool.or_eq_true] at part
  rcases part with (ascii | line) | dollar
  · simp [endsWord, isAlphanumeric_of_isAlphanum ascii]
  · simp [endsWord, line]
  · simp [endsWord, dollar]

theorem stops_of_endsWord {rest : List Char} (ends : endsWord rest = true) :
    Stops Text.isNamePart rest := by
  intro c first
  obtain ⟨more, rfl⟩ : ∃ more, rest = c :: more := List.head?_eq_some_iff.mp first
  by_contra part
  rw [endsWord_of_isNamePart (by simpa using part)] at ends
  cases ends

private theorem isNamePart_of_isNameStart {c : Char} (starts : Text.isNameStart c = true) :
    Text.isNamePart c = true := by
  simp only [Text.isNameStart, Text.isNamePart, Char.isAlphanum, Bool.or_eq_true] at *
  tauto

theorem dropWhile_append {p : Char → Bool} {taken rest : List Char}
    (all : ∀ c ∈ taken, p c = true) (stops : Stops p rest) :
    (taken ++ rest).dropWhile p = rest := by
  rw [List.dropWhile_append_of_pos all]
  cases rest with
  | nil => rfl
  | cons c rest => simp [stops c rfl]

namespace Name

theorem spelled (name : Name) : ∃ first more, name.chars = first :: more ∧
    Text.isNameStart first = true ∧ ∀ c ∈ more, Text.isNamePart c = true := by
  have whole := name.whole
  cases spelling : name.chars with
  | nil => simp [spelling, Text.takeName?] at whole
  | cons first more =>
    rw [spelling, Text.takeName?] at whole
    by_cases starts : Text.isNameStart first = true
    · rw [if_pos starts] at whole
      have taken : more.takeWhile Text.isNamePart = more := by simpa using congrArg (·.map Prod.fst) whole
      refine ⟨first, more, rfl, starts, ?_⟩
      intro c member
      exact List.takeWhile_eq_self_iff.mp taken c member
    · rw [if_neg starts] at whole
      cases whole

theorem parts (name : Name) : ∀ c ∈ name.chars, Text.isNamePart c = true := by
  obtain ⟨first, more, spelling, starts, parts⟩ := name.spelled
  rw [spelling]
  intro c member
  rcases List.mem_cons.mp member with rfl | later
  · exact isNamePart_of_isNameStart starts
  · exact parts c later

theorem takeName?_append (name : Name) {rest : List Char} (ends : endsWord rest = true) :
    Text.takeName? (name.chars ++ rest) = some (name.chars, rest) := by
  obtain ⟨first, more, spelling, starts, parts⟩ := name.spelled
  have stops := stops_of_endsWord ends
  rw [spelling, List.cons_append, Text.takeName?, if_pos starts,
    Scan.takeWhile_append parts stops, dropWhile_append parts stops]

end Name

/-- A keyword is taken off a word exactly if the word is the keyword. -/
theorem keyword?_append {word : String} {taken rest : List Char}
    (letters : ∀ c ∈ word.toList, Text.isNamePart c = true)
    (parts : ∀ c ∈ taken, Text.isNamePart c = true) (ends : endsWord rest = true) :
    keyword? word (taken ++ rest) = if word.toList = taken then some rest else none := by
  by_cases same : word.toList = taken
  · subst taken
    simp [keyword?, take?, ends]
  · rw [if_neg same]
    by_contra found
    obtain ⟨left, found⟩ := Option.ne_none_iff_exists'.mp found
    have split : word.toList ++ left = taken ++ rest ∧ endsWord left = true := by
      unfold keyword? take? at found
      by_cases starts : word.toList.isPrefixOf (taken ++ rest) = true
      · obtain ⟨after, split⟩ := List.isPrefixOf_iff_prefix.mp starts
        rw [if_pos starts, ← split, List.drop_left] at found
        by_cases endsAfter : endsWord after = true
        · simp only [endsAfter, ↓reduceIte, Option.some.injEq] at found
          exact found ▸ ⟨split, endsAfter⟩
        · simp [endsAfter] at found
      · simp [starts] at found
    -- What is taken off and the word are both the run of name characters at the start.
    apply same
    rw [← Scan.takeWhile_append letters (stops_of_endsWord split.2), split.1,
      Scan.takeWhile_append parts (stops_of_endsWord ends)]

theorem take?_cons_ne {text : String} {c first : Char} {more : List Char}
    (spelling : text.toList = first :: more) (differs : first ≠ c) (cs : List Char) :
    take? text (c :: cs) = none := by
  simp [take?, spelling, differs]

theorem keyword?_cons_ne {word : String} {c first : Char} {more : List Char}
    (spelling : word.toList = first :: more) (differs : first ≠ c) (cs : List Char) :
    keyword? word (c :: cs) = none := by
  simp [keyword?, take?_cons_ne spelling differs]

/-- A text that no word and no number before it reaches into. -/
structure Apart (rest : List Char) : Prop where
  word : endsWord rest = true
  fraction : ∀ c more, rest = '.' :: c :: more → c.isDigit = false

theorem apart_nil : Apart [] := ⟨rfl, by simp⟩

theorem apart_cons {c : Char} (ends : endsWord [c] = true) (noPoint : c ≠ '.') (rest : List Char) :
    Apart (c :: rest) :=
  ⟨ends, fun _ _ same => absurd (List.cons.inj same).1 noPoint⟩

theorem isDigit_of_isNameStart {c : Char} (starts : Text.isNameStart c = true) :
    c.isDigit = false := by
  rw [Bool.eq_false_iff, ne_eq, Text.isDigit_iff]
  simp only [Text.isNameStart, Bool.or_eq_true, Text.isAlpha_iff, beq_iff_eq] at starts
  rcases starts with (letter | rfl) | rfl
  · omega
  · decide
  · decide

theorem isSpace_of_isNameStart {c : Char} (starts : Text.isNameStart c = true) :
    isSpace c = false := by
  by_contra blank
  simp only [isSpace, Bool.not_eq_false, Bool.or_eq_true, beq_iff_eq] at blank
  rcases blank with ((rfl | rfl) | rfl) | rfl <;> exact absurd starts (by decide)

theorem apart_point (name : Name) (rest : List Char) : Apart ('.' :: (name.chars ++ rest)) := by
  obtain ⟨first, more, spelling, starts, -⟩ := name.spelled
  refine ⟨(by decide : endsWord ['.'] = true), ?_⟩
  intro c after same
  rw [spelling] at same
  obtain ⟨rfl, -⟩ := List.cons.inj (List.cons.inj same).2
  exact isDigit_of_isNameStart starts

theorem skipSpaces_cons {c : Char} (visible : isSpace c = false) (cs : List Char) :
    skipSpaces (c :: cs) = c :: cs := by
  simp [skipSpaces, visible]

theorem Name.skipSpaces_append (name : Name) (rest : List Char) :
    skipSpaces (name.chars ++ rest) = name.chars ++ rest := by
  obtain ⟨first, more, spelling, starts, -⟩ := name.spelled
  rw [spelling]
  exact skipSpaces_cons (isSpace_of_isNameStart starts) _

@[simp] theorem skipSpaces_space (cs : List Char) : skipSpaces (' ' :: cs) = skipSpaces cs := rfl

private theorem stops_digit_of_endsWord {rest : List Char} (ends : endsWord rest = true) :
    Stops Char.isDigit rest := by
  intro c first
  have noPart := stops_of_endsWord ends c first
  simp only [Text.isNamePart, Char.isAlphanum, Bool.or_eq_false_iff] at noPart
  exact noPart.1.1.2

namespace Digits

theorem digits?_append (digits : Digits) (stops : Stops Char.isDigit rest) :
    digits? (digits.chars ++ rest) = some (digits.chars, rest) := by
  rw [digits?, Scan.takeWhile_append digits.decimal stops, dropWhile_append digits.decimal stops]
  cases spelling : digits.chars with
  | nil => exact absurd spelling digits.nonempty
  | cons first more => rfl

end Digits

private theorem fraction_eq_nil {cs : List Char}
    (none : ∀ c more, cs = '.' :: c :: more → c.isDigit = false) : fraction cs = ([], cs) := by
  unfold fraction
  split
  next rest =>
    have missing : digits? rest = .none := by
      cases rest with
      | nil => rfl
      | cons c more => simp [digits?, none c more rfl]
    rw [missing]
  next => rfl

private theorem fraction_append (digits : Digits) (stops : Stops Char.isDigit rest) :
    fraction ('.' :: (digits.chars ++ rest)) = ('.' :: digits.chars, rest) := by
  rw [fraction, digits.digits?_append stops]

private theorem exponent_eq_nil {cs : List Char} (ends : endsWord cs = true) :
    exponent cs = ([], cs) := by
  cases cs with
  | nil => rfl
  | cons c cs =>
    have noMark : ¬(decide (c = 'e') || decide (c = 'E')) = true := by
      rw [Bool.or_eq_true, decide_eq_true_eq, decide_eq_true_eq]
      rintro (rfl | rfl)
      · rw [endsWord_of_isNamePart (by decide)] at ends
        cases ends
      · rw [endsWord_of_isNamePart (by decide)] at ends
        cases ends
    unfold exponent
    exact if_neg noMark

theorem Digits.unsigned (digits : Digits) (rest : List Char) :
    ∃ first more, digits.chars ++ rest = first :: more ∧ first ≠ '+' ∧ first ≠ '-' := by
  cases spelling : digits.chars with
  | nil => exact absurd spelling digits.nonempty
  | cons first more =>
    have decimal := digits.decimal first (by simp [spelling])
    refine ⟨first, more ++ rest, rfl, ?_, ?_⟩
    · rintro rfl
      exact absurd decimal (by decide)
    · rintro rfl
      exact absurd decimal (by decide)

private theorem exponent_append (power : Power) (stops : Stops Char.isDigit rest) :
    exponent (power.print ++ rest) = (power.print, rest) := by
  obtain ⟨mark, known, sign, digits⟩ := power
  have marked : (decide (mark = 'e') || decide (mark = 'E')) = true := by
    simpa using known
  have read := digits.digits?_append stops
  rcases sign with _ | _ | _
  · obtain ⟨first, more, spelling, noPlus, noMinus⟩ := digits.unsigned rest
    have split : Power.print ⟨mark, known, none, digits⟩ ++ rest = mark :: (digits.chars ++ rest) := rfl
    rw [split, exponent, if_pos marked]
    · simp [read, Power.print]
    all_goals
      intro after same
      rw [spelling] at same
      simp_all
  · simp [Power.print, exponent, marked, Sign.char, read]
  · simp [Power.print, exponent, marked, Sign.char, read]

theorem Digits.isEmpty (digits : Digits) : digits.chars.isEmpty = false := by
  simpa using digits.nonempty

theorem Power.exponent?_print (power : Power) : Number.exponent? power.print = some power.value := by
  obtain ⟨mark, known, sign, digits⟩ := power
  have marked : (decide (mark = 'e') || decide (mark = 'E')) = true := by
    simpa using known
  have decimal : digits.chars.all Char.isDigit = true := List.all_eq_true.mpr digits.decimal
  rcases sign with _ | _ | _
  · obtain ⟨first, more, spelling, noPlus, noMinus⟩ := digits.unsigned []
    rw [List.append_nil] at spelling
    have print : Power.print ⟨mark, known, none, digits⟩ = mark :: digits.chars := rfl
    rw [print, Number.exponent?, if_pos marked]
    · simp [digits.isEmpty, decimal, Power.value]
    all_goals
      intro after same
      rw [spelling] at same
      simp_all
  · simp [Power.print, Number.exponent?, marked, Sign.char, digits.isEmpty, decimal, Power.value]
  · simp [Power.print, Number.exponent?, marked, Sign.char, digits.isEmpty, decimal, Power.value]

theorem Power.print_ne_point (power : Power) (rest more : List Char) :
    power.print ++ rest ≠ '.' :: more := by
  intro same
  obtain ⟨mark, -⟩ := List.cons.inj same
  rcases power.known with known | known <;> rw [known] at mark <;> cases mark

theorem Power.stops (power : Power) (rest : List Char) : Stops Char.isDigit (power.print ++ rest) := by
  intro c first
  obtain rfl : power.mark = c := by simpa [Power.print] using first
  rcases power.known with mark | mark <;> rw [mark] <;> decide

namespace Numeral

theorem stops_power (numeral : Numeral) (stops : Stops Char.isDigit rest) :
    Stops Char.isDigit (numeral.power.elim [] Power.print ++ rest) := by
  cases numeral.power with
  | none => exact stops
  | some power => exact power.stops rest

theorem stops_tail (numeral : Numeral) (stops : Stops Char.isDigit rest) :
    Stops Char.isDigit (numeral.fraction.elim [] ('.' :: ·.chars) ++
      (numeral.power.elim [] Power.print ++ rest)) := by
  cases numeral.fraction with
  | none => exact numeral.stops_power stops
  | some digits =>
    intro c first
    obtain rfl : '.' = c := by simpa using first
    decide

theorem exponent?_print (numeral : Numeral) :
    Number.exponent? (numeral.power.elim [] Power.print) = some (numeral.power.elim 0 Power.value) := by
  cases numeral.power with
  | none => rfl
  | some power => exact power.exponent?_print

private theorem ofText?_print (numeral : Numeral) :
    Number.ofText? numeral.print = some numeral.value := by
  have stops : Stops Char.isDigit [] := by simp [Stops]
  have after := numeral.stops_tail stops
  have last := numeral.stops_power stops
  have exponent := numeral.exponent?_print
  obtain ⟨whole, fraction, power⟩ := numeral
  rw [List.append_nil] at after last
  simp only [Number.ofText?, print, Scan.takeWhile_append whole.decimal after,
    dropWhile_append whole.decimal after, whole.isEmpty, value]
  cases fraction with
  | some digits =>
    simp only [Option.elim_some, List.cons_append, Scan.takeWhile_append digits.decimal last,
      dropWhile_append digits.decimal last, Bool.false_and, Bool.false_eq_true, ↓reduceIte, exponent]
    rfl
  | none =>
    have noPoint : ∀ more, power.elim [] Power.print ≠ '.' :: more := by
      intro more same
      cases power with
      | none => cases same
      | some power => exact power.print_ne_point [] more (by simpa using same)
    simp [exponent]

theorem number?_append (numeral : Numeral) (apart : Apart rest) :
    number? (numeral.print ++ rest) = some (.number numeral.value, rest) := by
  have ends := stops_digit_of_endsWord apart.word
  have whole := numeral.whole.digits?_append (numeral.stops_tail ends)
  have fraction : Template.fraction (numeral.fraction.elim [] ('.' :: ·.chars) ++
      (numeral.power.elim [] Power.print ++ rest)) =
      (numeral.fraction.elim [] ('.' :: ·.chars), numeral.power.elim [] Power.print ++ rest) := by
    cases numeral.fraction with
    | some digits => exact fraction_append digits (numeral.stops_power ends)
    | none =>
      apply fraction_eq_nil
      cases numeral.power with
      | none => exact apart.fraction
      | some power =>
        intro c more same
        exact absurd same (power.print_ne_point rest _)
  have exponent : Template.exponent (numeral.power.elim [] Power.print ++ rest) =
      (numeral.power.elim [] Power.print, rest) := by
    cases numeral.power with
    | none => exact exponent_eq_nil apart.word
    | some power => exact exponent_append power ends
  have value := numeral.ofText?_print
  rw [print] at value ⊢
  rw [List.append_assoc, List.append_assoc, number?, whole]
  simp only [Option.bind_eq_bind, Option.bind_some, fraction, exponent, List.append_assoc, value]
  rfl

end Numeral

theorem Quotation.quoted?_append (quotation : Quotation) (rest : List Char) :
    quoted? quotation.mark (quotation.print ++ rest) =
      some (.string (String.ofList quotation.chars), rest) := by
  have inside : ∀ c ∈ quotation.chars, (c != quotation.mark) = true := by
    intro c member
    rw [bne_iff_ne]
    rintro rfl
    exact quotation.unquoted member
  have stops : Stops (· != quotation.mark) (quotation.mark :: rest) := by simp [Stops]
  have split : quotation.print ++ rest =
      quotation.mark :: (quotation.chars ++ quotation.mark :: rest) := by simp [print]
  rw [split, quoted?, if_pos rfl, Scan.takeWhile_append inside stops, dropWhile_append inside stops]

theorem placeholder?_append (name : Name) (rest : List Char) :
    placeholder? ('<' :: '%' :: '=' :: ' ' :: (name.chars ++ [' ', '%', '>'] ++ rest)) =
      some (.placeholder name.toString, rest) := by
  have opening (cs : List Char) : take? "<%=" ('<' :: '%' :: '=' :: ' ' :: cs) = some (' ' :: cs) :=
    rfl
  have read := name.takeName?_append (rfl : endsWord (' ' :: '%' :: '>' :: rest) = true)
  rw [List.append_assoc, placeholder?, opening]
  simp only [Option.bind_eq_bind, Option.bind_some, skipSpaces_space, name.skipSpaces_append,
    List.cons_append, List.nil_append, read]
  rfl

end Offside.Template
