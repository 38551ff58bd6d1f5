import Offside.Proofs.PhraseReading

/-! A template that is printed reads back as itself. Every phrase is legible at its rank, by induction on
the phrase, and a text of sentences is read sentence by sentence. -/

namespace Offside.Template

private theorem isDigit_signs {c : Char} (digit : c.isDigit = true) :
    isSpace c = false ∧ c ∉ ['!', '~', '-', '+', 't', 'v', 'r'] := by
  constructor
  · by_contra blank
    simp only [isSpace, Bool.not_eq_false, Bool.or_eq_true, beq_iff_eq] at blank
    rcases blank with ((rfl | rfl) | rfl) | rfl <;> exact absurd digit (by decide)
  · intro member
    simp only [List.mem_cons, List.not_mem_nil, or_false] at member
    rcases member with rfl | rfl | rfl | rfl | rfl | rfl | rfl <;> exact absurd digit (by decide)

theorem primary?_of_atom? (atom : atom? cs = some parsed) : primary? cs = some parsed := by
  rw [primary?.eq_def, atom]

theorem primary?_of_word? {c : Char} (atom : atom? (c :: cs) = none) (noBracket : c ≠ '[' ∧ c ≠ '(') :
    primary? (c :: cs) = word? (c :: cs) := by
  rw [primary?, atom]
  · intro rest same
    exact noBracket.1 (List.cons.inj same).1
  · intro rest same
    exact noBracket.2 (List.cons.inj same).1

namespace Suffixed

theorem placeholder (name : Name) :
    Suffixed ('<' :: '%' :: '=' :: ' ' :: (name.chars ++ [' ', '%', '>']))
      (.placeholder name.toString) := by
  apply Suffixed.cons (by decide) (by decide)
  intro rest _
  apply primary?_of_atom?
  exact congrArg (· <|> _) (placeholder?_append name rest)

theorem number (numeral : Numeral) : Suffixed numeral.print (.number numeral.value) := by
  have read (rest : List Char) (apart : Apart rest) := numeral.number?_append apart
  obtain ⟨first, more, spelling⟩ := List.exists_cons_of_ne_nil numeral.whole.nonempty
  have digit : first.isDigit = true := numeral.whole.decimal first (by simp [spelling])
  have print : numeral.print = first :: (more ++ (numeral.fraction.elim [] ('.' :: ·.chars) ++
      numeral.power.elim [] Power.print)) := by
    rw [Numeral.print, spelling, List.cons_append]
  obtain ⟨visible, noSign⟩ := isDigit_signs digit
  rw [print] at read ⊢
  apply Suffixed.cons visible noSign
  intro rest apart
  apply primary?_of_atom?
  have noPlaceholder : first ≠ '<' := by
    rintro rfl
    exact absurd digit (by decide)
  rw [atom?, placeholder?_cons noPlaceholder, ← List.cons_append, read rest apart]
  rfl

theorem string (quotation : Quotation) :
    Suffixed quotation.print (.string (String.ofList quotation.chars)) := by
  have known := quotation.known
  obtain ⟨visible, noSign, noPlaceholder, noDigit⟩ : isSpace quotation.mark = false ∧
      quotation.mark ∉ ['!', '~', '-', '+', 't', 'v', 'r'] ∧ quotation.mark ≠ '<' ∧
      quotation.mark.isDigit = false := by
    rcases known with mark | mark <;> rw [mark] <;> decide
  apply Suffixed.cons visible noSign
  intro rest _
  apply primary?_of_atom?
  have read : quoted? quotation.mark (quotation.mark :: (quotation.chars ++ [quotation.mark] ++ rest)) =
      some (.string (String.ofList quotation.chars), rest) := quotation.quoted?_append rest
  rw [atom?, placeholder?_cons noPlaceholder, number?_cons noDigit]
  rcases known with mark | mark
  · rw [mark] at read ⊢
    rw [read]
    rfl
  · rw [mark] at read ⊢
    rw [quoted?_cons (by decide), read]
    rfl

theorem thisObject : Suffixed ['t', 'h', 'i', 's'] .thisObject := by
  have leads : Leads ['t', 'h', 'i', 's'] := .cons (by decide) (by decide) _
  refine ⟨leads, fun _ _ => rfl, ?_⟩
  intro rest apart
  apply suffixed?_of_primary? _ leads
  have taken : take? "this" ('t' :: 'h' :: 'i' :: 's' :: rest) = some rest := rfl
  have word : word? ('t' :: 'h' :: 'i' :: 's' :: rest) = some (.thisObject, rest) := by
    simp [word?, keyword?, taken, apart.word]
  exact (primary?_of_word? (atom?_cons (by decide) (by decide) _) (by decide)).trans word

theorem identifier (name : Name) (ordinary : name.toString ∉ reservedWords) :
    Suffixed name.chars (.identifier name.toString) := by
  have noKeyword (word : String) (reserved : word ∈ reservedWords)
      (letters : word.toList.all Text.isNamePart = true) (rest : List Char) (apart : Apart rest) :
      keyword? word (name.chars ++ rest) = none := by
    rw [keyword?_append (List.all_eq_true.mp letters) name.parts apart.word, if_neg]
    intro same
    apply ordinary
    rwa [Name.toString, ← same, String.ofList_toList]
  obtain ⟨first, more, spelling, starts, -⟩ := name.spelled
  have leads : Leads name.chars := by
    refine ⟨⟨first, more, spelling, isSpace_of_isNameStart starts⟩, ?_⟩
    exact noKeyword "return" (by decide) (by decide)
  refine ⟨leads, ?_, ?_⟩
  · intro rest apart
    have noTypeOf := noKeyword "typeof" (by decide) (by decide) rest apart
    have noVoid := noKeyword "void" (by decide) (by decide) rest apart
    rw [spelling, List.cons_append] at noTypeOf noVoid ⊢
    apply takeOperator?_unary_eq_none _ noTypeOf noVoid
    intro sign
    simp only [List.mem_cons, List.not_mem_nil, or_false] at sign
    rcases sign with rfl | rfl | rfl | rfl <;> exact absurd starts (by decide)
  · intro rest apart
    apply suffixed?_of_primary? _ leads
    have word : word? (name.chars ++ rest) = some (.identifier name.toString, rest) := by
      have noThis := noKeyword "this" (by decide) (by decide) rest apart
      have absent : ¬ reservedWords.contains (String.ofList name.chars) = true := by
        rw [List.contains_iff_mem]
        exact ordinary
      rw [word?, noThis, identifier?, name.takeName?_append apart.word]
      exact if_neg absent
    rw [← word, spelling, List.cons_append]
    apply primary?_of_word?
    · apply atom?_cons (isDigit_of_isNameStart starts)
      intro mark
      simp only [List.mem_cons, List.not_mem_nil, or_false] at mark
      rcases mark with rfl | rfl | rfl <;> exact absurd starts (by decide)
    · constructor
      · rintro rfl
        exact absurd starts (by decide)
      · rintro rfl
        exact absurd starts (by decide)

end Suffixed

theorem InfixOp.rank_bounds (op : InfixOp) : 0 < op.rank ∧ op.rank ≤ 7 := by
  rcases op with op | op
  · cases op <;> decide
  · cases op <;> decide

private theorem InfixOp.eq_power_of_rank {op : InfixOp} (top : op.rank = 7) :
    op = .binary .power := by
  rcases op with op | op
  · cases op with
    | power => rfl
    | _ => simp [rank] at top
  · cases op <;> simp [rank] at top

theorem Phrase.rank_pos (phrase : Phrase) : 0 < phrase.rank := by
  unfold rank
  split
  · exact (InfixOp.rank_bounds _).1
  · decide
  · decide

private theorem meaning_binary (op : InfixOp) (left right : Phrase) :
    (Phrase.binary op left right).meaning = op.apply left.meaning right.meaning := by
  cases op <;> rfl

namespace Legible

/-- Nothing has to be put between parentheses where a whole expression may stand. -/
theorem whole (legible : Legible rank text expr) (positive : 0 < rank) : Reads 1 text expr := by
  have reads := legible.reads (by decide : 0 < 1) (by decide)
  rwa [enclose, if_neg (by omega)] at reads

theorem unary {op : UnaryOp} (offered : op ≠ .delete) (argument : Legible rank text expr) :
    Legible 8 (op.name.toList ++ ' ' :: enclose 8 rank text) (.unary op expr) := by
  have reads := Reads.unary offered (argument.reads (by decide) (by decide))
  exact reads.legible (by decide) (by decide) (fun low => absurd low (by decide))

theorem binary {op : InfixOp} (left : Legible leftRank leftText leftExpr)
    (right : Legible rightRank rightText rightExpr) :
    Legible op.rank (enclose op.leftRank leftRank leftText ++
      ' ' :: (op.name.toList ++ ' ' :: enclose op.rightRank rightRank rightText))
      (op.apply leftExpr rightExpr) := by
  obtain ⟨positive, bound⟩ := op.rank_bounds
  by_cases top : op.rank = 7
  · obtain rfl := InfixOp.eq_power_of_rank top
    have base : Reads 8 (enclose 8 leftRank leftText) leftExpr :=
      left.reads (by decide) (by decide)
    have exponent : Reads 7 (enclose 7 rightRank rightText) rightExpr :=
      right.reads (by decide) (by decide)
    exact (Reads.power base exponent).legible (by decide) (by decide) (fun low => absurd low (by decide))
  · have low : op.rank ≤ 6 := by omega
    rw [InfixOp.leftRank, InfixOp.rightRank, if_neg top, if_neg top]
    have chains := Chains.binary low (left.chains positive low) (right.reads (by omega) (by omega))
    exact (chains.toReads positive low).legible positive (by omega) (fun _ => chains)

end Legible

mutual

theorem Phrase.legible (phrase : Phrase) : Legible phrase.rank phrase.print phrase.meaning := by
  cases phrase with
  | placeholder name => exact (Suffixed.placeholder name).legible
  | identifier name ordinary => exact (Suffixed.identifier name ordinary).legible
  | number numeral => exact (Suffixed.number numeral).legible
  | string quotation => exact (Suffixed.string quotation).legible
  | thisObject => exact Suffixed.thisObject.legible
  | array elements => exact (Suffixed.array (printAll_reads elements)).legible
  | unary op offered argument => exact argument.legible.unary offered
  | binary op left right =>
    rw [meaning_binary]
    exact left.legible.binary right.legible
  | member object name => exact (object.legible.suffixed.member name).legible
  | computed object property =>
    exact (object.legible.suffixed.computed (property.legible.whole property.rank_pos)).legible
  | call callee arguments =>
    exact (callee.legible.suffixed.call (printAll_reads arguments)).legible

theorem printAll_reads (phrases : List Phrase) :
    List.Forall₂ (Reads 1) (printAll phrases) (meanings phrases) := by
  cases phrases with
  | nil => exact .nil
  | cons phrase phrases =>
    exact .cons (phrase.legible.whole phrase.rank_pos) (printAll_reads phrases)

end

/-- What may come after a statement. -/
inductive Ends : List Char → Prop where
  | nothing : Ends []
  | semicolon : Ends (';' :: rest)

theorem Ends.follows (ends : Ends rest) : Follows rank rest := by
  cases ends with
  | nothing => exact .nothing
  | semicolon => exact .closer (by decide)

theorem Ends.skipSpaces_eq (ends : Ends rest) : skipSpaces rest = rest := by
  cases ends <;> rfl

theorem Ends.expression?_eq_none (ends : Ends rest) : expression? rest = none := by
  cases ends with
  | nothing => exact binary?_nil _
  | semicolon => exact binary?_closer (by decide) _ _

theorem keyword?_return {rest : List Char} (ends : endsWord rest = true) :
    keyword? "return" (['r', 'e', 't', 'u', 'r', 'n'] ++ rest) = some rest := by
  have taken : take? "return" (['r', 'e', 't', 'u', 'r', 'n'] ++ rest) = some rest := rfl
  rw [keyword?, taken]
  exact if_pos ends

theorem Phrase.expression?_print (phrase : Phrase) (ends : Ends rest) :
    expression? (phrase.print ++ rest) = some (phrase.meaning, rest) :=
  (phrase.legible.whole phrase.rank_pos).reads rest ends.follows

namespace Sentence

theorem statement?_print (sentence : Sentence) (ends : Ends rest) :
    statement? (sentence.print ++ rest) = some (sentence.meaning, rest) := by
  have apart : Apart rest := (ends.follows : Follows 1 rest).apart
  cases sentence with
  | expression value =>
    have leads := (value.legible.whole value.rank_pos).toLeads
    rw [statement?, print, leads.ordinary rest apart, value.expression?_print ends]
    rfl
  | returning argument =>
    cases argument with
    | none =>
      rw [statement?, print, keyword?_return apart.word]
      simp only [ends.skipSpaces_eq, ends.expression?_eq_none]
      rfl
    | some argument =>
      have leads := (argument.legible.whole argument.rank_pos).toLeads
      have word : endsWord (' ' :: (argument.print ++ rest)) = true := rfl
      have split : print (.returning (some argument)) ++ rest =
          ['r', 'e', 't', 'u', 'r', 'n'] ++ ' ' :: (argument.print ++ rest) := by simp [print]
      rw [statement?, split, keyword?_return word]
      simp only [skipSpaces_space, leads.skipSpaces_append, argument.expression?_print ends]
      rfl

theorem skipSpaces_print (sentence : Sentence) (rest : List Char) :
    skipSpaces (sentence.print ++ rest) = sentence.print ++ rest := by
  cases sentence with
  | expression value => exact (value.legible.whole value.rank_pos).skipSpaces_append rest
  | returning argument => cases argument <;> exact skipSpaces_cons (by decide) _

end Sentence

/-- Every sentence after the first with the separator before it. -/
def printMore (sentences : List Sentence) : List Char :=
  (sentences.map Sentence.print).flatMap ([';', ' '] ++ ·)

theorem ends_printMore (sentences : List Sentence) : Ends (printMore sentences) := by
  cases sentences with
  | nil => exact .nothing
  | cons sentence sentences => exact .semicolon

private theorem moreStatements_printMore (sentences : List Sentence) :
    moreStatements (printMore sentences) = (sentences.map Sentence.meaning, []) := by
  induction sentences with
  | nil => simp [printMore, moreStatements]
  | cons sentence sentences ih =>
    have ends := ends_printMore sentences
    have split : printMore (sentence :: sentences) =
        ';' :: ' ' :: (sentence.print ++ printMore sentences) := by simp [printMore]
    rw [split, moreStatements, skipSpaces_space, sentence.skipSpaces_print,
      sentence.statement?_print ends]
    simp only [ends.skipSpaces_eq, ih]
    rw [if_pos (by simp; omega)]
    rfl

/-- A template that was printed is parsed back to what its sentences mean. -/
theorem parse_print (sentences : List Sentence) :
    parse (print sentences) = .ok (sentences.map Sentence.meaning) := by
  have read : statements (print sentences).toList = (sentences.map Sentence.meaning, []) := by
    cases sentences with
    | nil =>
      have none : statement? [] = none := by
        rw [statement?, Ends.nothing.expression?_eq_none]
        rfl
      have empty : (print []).toList = [] := rfl
      rw [empty, statements, skipSpaces, List.dropWhile_nil, none]
      rfl
    | cons sentence sentences =>
      have ends := ends_printMore sentences
      have split : (print (sentence :: sentences)).toList =
          sentence.print ++ printMore sentences := by
        rw [print, String.toList_ofList, List.map_cons, intercalate_cons, printMore]
      rw [split, statements, sentence.skipSpaces_print, sentence.statement?_print ends]
      simp only [ends.skipSpaces_eq, moreStatements_printMore]
      rfl
  rw [parse, read]
  rfl

example : print [.returning (some (.binary (.binary .power)
    (.binary (.binary .power) .thisObject (.member .thisObject ⟨['x'], by decide⟩))
    (.unary .negate (by decide) (.binary (.binary .sub) .thisObject .thisObject)))), .returning none] =
    "return (this ** this.x) ** - (this - this); return" := by decide

end Offside.Template
