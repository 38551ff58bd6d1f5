import Offside.Grammar.Fixed
import Offside.Proofs.SourceLines

/-! How a grammar is driven. Nothing is asked of the grammar: its states and refusals are its own. It is
given the tokens before the first failure one after another, and is asked for a script only if there
was none; each of the four ways to end has a place of its own. -/

namespace Offside

/-- Where a fault at an offset is reported: at the character that starts there, or, where none does, at
the offset itself as far as the source reaches. -/
inductive Source.FaultSpan (source : Source) (offset : Nat) : Span → Prop where
  | character {front back : List Char} {c : Char} (split : source.chars = front ++ c :: back)
      (size : Text.byteLength front = offset) : FaultSpan source offset (source.span offset c.utf8Size)
  | nothing (absent : ∀ front c back, source.chars = front ++ c :: back → Text.byteLength front ≠ offset) :
      FaultSpan source offset (source.span (min offset source.length) 0)

theorem SyntaxError.faultSpan_ofLexing (source : Source) (fault : LexError) :
    source.FaultSpan fault.offset (ofLexing source fault).place.span := by
  unfold ofLexing
  dsimp only
  split
  · rename_i front c back split
    obtain ⟨whole, size⟩ := Text.splitBytes?_eq_some_iff.mp split
    have within : fault.offset ≤ source.length := by
      rw [Source.length, whole, Text.byteLength_append, size]
      exact Nat.le_add_right _ _
    rw [Nat.min_eq_left within]
    exact .character whole size
  · rename_i other
    exact .nothing fun front c back whole size =>
      other front c back (Text.splitBytes?_eq_some_iff.mpr ⟨whole, size⟩)

/-- A fault is reported at one place. -/
theorem Source.FaultSpan.unique {source : Source} {offset : Nat} {span other : Span}
    (first : source.FaultSpan offset span) (second : source.FaultSpan offset other) : span = other := by
  cases first with
  | character split size =>
    cases second with
    | character again same =>
      have fronts := (Text.splitBytes?_eq_some_iff.mpr ⟨split, size⟩).symm.trans
        (Text.splitBytes?_eq_some_iff.mpr ⟨again, same⟩)
      cases fronts
      rfl
    | nothing absent => exact absurd size (absent _ _ _ split)
  | nothing absent =>
    cases second with
    | character again same => exact absurd same (absent _ _ _ again)
    | nothing _ => rfl

namespace Grammar

variable {ε σ : Type} (grammar : Grammar ε σ) (source : Source)

/-- The grammar takes tokens one after another, each with its location, and goes from state to state. -/
inductive Pushes : σ → List Token → σ → Prop where
  | nil (state : σ) : Pushes state [] state
  | cons {state next last : σ} {token : Token} {tokens : List Token}
      (taken : grammar.push state ⟨token, source.position token.start, source.position token.stop⟩ =
        .ok next)
      (rest : Pushes next tokens last) : Pushes state (token :: tokens) last

/-- How the reading of items ends after the tokens that the grammar has taken, and with which answer.
A refusal of the script is put at the last token, or at the given place if there is none. -/
inductive Ending (place : Span) (items : List Item) (pushed : List Token) (state : σ) :
    Except SyntaxError Script.Program → Prop where
  | lexing {fault : LexError} {rest : List Item} {span : Span}
      (next : items = pushed.map .ok ++ .error fault :: rest)
      (spot : source.FaultSpan fault.offset span) :
      Ending place items pushed state (.error ⟨.lexing fault, source, span⟩)
  | refusedToken {token : Token} {rest : List Item} {refused : ε}
      (next : items = pushed.map .ok ++ .ok token :: rest)
      (refuses : grammar.push state ⟨token, source.position token.start, source.position token.stop⟩ =
        .error refused) :
      Ending place items pushed state
        (.error ⟨.grammar (grammar.message refused), source, token.span source⟩)
  | refusedEnd {refused : ε} (all : items = pushed.map .ok)
      (refuses : grammar.finish state = .error refused) :
      Ending place items pushed state (.error ⟨.grammar (grammar.message refused), source,
        (pushed.getLast?.map (Token.span source)).getD place⟩)
  | finished {program : Script.Program} (all : items = pushed.map .ok)
      (accepts : grammar.finish state = .ok program) : Ending place items pushed state (.ok program)

variable {grammar source}

/-- A token that the grammar takes leaves the ending to the items after it. -/
theorem Ending.cons {place : Span} {items : List Item} {token : Token} {pushed : List Token} {state : σ}
    {answer : Except SyntaxError Script.Program}
    (ending : Ending grammar source (token.span source) items pushed state answer) :
    Ending grammar source place (.ok token :: items) (token :: pushed) state answer := by
  cases ending with
  | lexing next spot => exact .lexing (by rw [next]; rfl) spot
  | refusedToken next refuses => exact .refusedToken (by rw [next]; rfl) refuses
  | refusedEnd all refuses =>
    have last : (pushed.getLast?.map (Token.span source)).getD (token.span source) =
        ((token :: pushed).getLast?.map (Token.span source)).getD place := by
      rw [List.getLast?_cons]
      cases pushed.getLast? <;> rfl
    rw [last]
    exact .refusedEnd (by rw [all]; rfl) refuses
  | finished all accepts => exact .finished (by rw [all]; rfl) accepts

variable (grammar source) in
/-- Whatever the items, reading them ends in one of the four ways. -/
theorem feed_ends (items : List Item) (place : Span) (state : σ) :
    ∃ pushed, Pushes grammar source state pushed (grammar.feed source items place state).2 ∧
      Ending grammar source place items pushed (grammar.feed source items place state).2
        (grammar.feed source items place state).1 := by
  induction items generalizing place state with
  | nil =>
    refine ⟨[], ?_⟩
    rw [feed]
    cases asked : grammar.finish state with
    | ok program => exact ⟨.nil state, .finished rfl asked⟩
    | error refused => exact ⟨.nil state, .refusedEnd rfl asked⟩
  | cons item items ih =>
    cases item with
    | error fault =>
      exact ⟨[], .nil state, .lexing rfl (SyntaxError.faultSpan_ofLexing source fault)⟩
    | ok token =>
      rw [feed]
      cases asked : grammar.push state (token.locate source) with
      | error refused => exact ⟨[], .nil state, .refusedToken rfl asked⟩
      | ok next =>
        obtain ⟨pushed, pushes, ending⟩ := ih (token.span source) next
        exact ⟨token :: pushed, .cons asked pushes, ending.cons⟩

/-- Tokens that the grammar takes bring the reading as far as the items after them. -/
theorem Pushes.feed {state last : σ} {pushed : List Token} (pushes : Pushes grammar source state pushed last)
    (rest : List Item) (place : Span) :
    grammar.feed source (pushed.map .ok ++ rest) place state =
      grammar.feed source rest ((pushed.getLast?.map (Token.span source)).getD place) last := by
  induction pushes generalizing place with
  | nil state => rfl
  | @cons state next last token tokens taken _ ih =>
    have pushed : grammar.push state (token.locate source) = .ok next := taken
    rw [List.map_cons, List.cons_append, Grammar.feed, pushed, List.getLast?_cons]
    refine (ih (token.span source)).trans ?_
    cases tokens.getLast? <;> rfl

/-- Each of the four ways to end is the one that reading takes. -/
theorem Ending.feed {place : Span} {items : List Item} {pushed : List Token} {state last : σ}
    {answer : Except SyntaxError Script.Program}
    (ending : Ending grammar source place items pushed last answer)
    (pushes : Pushes grammar source state pushed last) :
    grammar.feed source items place state = (answer, last) := by
  cases ending with
  | @lexing fault rest span next spot =>
    rw [next, pushes.feed, Grammar.feed, spot.unique (SyntaxError.faultSpan_ofLexing source fault)]
    rfl
  | @refusedToken token rest refused next refuses =>
    have asked : grammar.push last (token.locate source) = .error refused := refuses
    rw [next, pushes.feed, Grammar.feed, asked]
    rfl
  | refusedEnd all refuses =>
    rw [all, ← List.append_nil (pushed.map Except.ok), pushes.feed, Grammar.feed, refuses]
    rfl
  | finished all accepts =>
    rw [all, ← List.append_nil (pushed.map Except.ok), pushes.feed, Grammar.feed, accepts]

/-- What a grammar takes does not depend on how it ends. -/
theorem Pushes.withFinish {state last : σ} {pushed : List Token}
    (pushes : Pushes grammar source state pushed last) (finish : σ → Except ε Script.Program) :
    Pushes { grammar with finish } source state pushed last := by
  induction pushes with
  | nil state => exact .nil state
  | cons taken _ ih => exact .cons taken ih

/-- An ending before the end of the items does not depend on how the grammar ends. -/
theorem Ending.withFinish {place : Span} {items : List Item} {pushed : List Token} {state : σ}
    {answer : Except SyntaxError Script.Program}
    (ending : Ending grammar source place items pushed state answer) (early : items ≠ pushed.map .ok)
    (finish : σ → Except ε Script.Program) :
    Ending { grammar with finish } source place items pushed state answer := by
  cases ending with
  | lexing next spot => exact .lexing next spot
  | refusedToken next refuses => exact .refusedToken next refuses
  | refusedEnd all _ | finished all _ => exact absurd all early

variable (grammar source)

/-- The protocol between the reading of a script and a grammar. The grammar is given the tokens before
the first failure, once each and in order; the answer and the state it leaves are those of the one way
in which reading can end after them. Unless all items are tokens that the grammar takes, it is not asked
for a script: how it would finish makes no difference. -/
theorem parse_follows_protocol (items : List Item) :
    (∀ answer state, grammar.parse source items = (answer, state) ↔
      ∃ pushed, Pushes grammar source grammar.start pushed state ∧
        Ending grammar source (source.span source.length 0) items pushed state answer) ∧
    ((¬ ∃ pushed state, items = pushed.map .ok ∧ Pushes grammar source grammar.start pushed state) →
      ∀ finish : σ → Except ε Script.Program,
        ({ grammar with finish } : Grammar ε σ).parse source items = grammar.parse source items) := by
  constructor
  · intro answer state
    constructor
    · intro read
      have ends := feed_ends grammar source items (source.span source.length 0) grammar.start
      rw [parse] at read
      rw [read] at ends
      exact ends
    · rintro ⟨pushed, pushes, ending⟩
      exact ending.feed pushes
  · intro unfinished finish
    obtain ⟨pushed, pushes, ending⟩ :=
      feed_ends grammar source items (source.span source.length 0) grammar.start
    have early : items ≠ pushed.map .ok := fun all => unfinished ⟨pushed, _, all, pushes⟩
    exact (ending.withFinish early finish).feed (pushes.withFinish finish)

/-- Two words, of which a grammar is to take one. -/
def twoWords : Source := .anonymous "a b"

def firstWord : Token := ⟨.identifier, 0, ['a']⟩

def secondWord : Token := ⟨.identifier, 2, ['b']⟩

def takesOne : Grammar Fixed.Refusal (List Located) := fixed { limit := some 1 }

/-- A grammar that takes one token and refuses the next, which is where the error is put. -/
theorem parse_follows_protocol_refused :
    (¬ ∃ pushed state, ([.ok firstWord, .ok secondWord] : List Item) = pushed.map .ok ∧
      Pushes takesOne twoWords [] pushed state) ∧
    ∀ finish, ({ takesOne with finish } : Grammar _ _).parse twoWords [.ok firstWord, .ok secondWord] =
      (.error ⟨.grammar "refused id", twoWords, ⟨0, 2, 1⟩⟩, [⟨firstWord, ⟨1, 0⟩, ⟨1, 1⟩⟩]) := by
  have blocked : ¬ ∃ pushed state, ([.ok firstWord, .ok secondWord] : List Item) = pushed.map .ok ∧
      Pushes takesOne twoWords [] pushed state := by
    rintro ⟨pushed, state, all, pushes⟩
    cases pushes with
    | nil => cases all
    | cons first rest =>
      cases first
      cases rest with
      | nil => cases all
      | cons second _ => cases second
  obtain ⟨reads, early⟩ := parse_follows_protocol takesOne twoWords [.ok firstWord, .ok secondWord]
  have ending : Ending takesOne twoWords ⟨0, 3, 0⟩ [.ok firstWord, .ok secondWord] [firstWord]
      [⟨firstWord, ⟨1, 0⟩, ⟨1, 1⟩⟩] (.error ⟨.grammar "refused id", twoWords, ⟨0, 2, 1⟩⟩) :=
    @Ending.refusedToken _ _ takesOne twoWords _ _ _ _ secondWord [] (.token .identifier) rfl rfl
  have place : firstWord.location twoWords = ⟨⟨1, 0⟩, ⟨1, 1⟩⟩ := by
    rw [Token.location, Source.location, Source.position_eq_walk, Source.position_eq_walk]
    rfl
  have pushes : Pushes takesOne twoWords [] [firstWord] [⟨firstWord, firstWord.location twoWords⟩] :=
    .cons rfl (.nil _)
  refine ⟨blocked, fun finish => (early blocked finish).trans ?_⟩
  rw [place] at pushes
  exact (reads _ _).mpr ⟨[firstWord], pushes, ending⟩

end Grammar

end Offside
