import Offside.Proofs.BlockBalance
import Offside.Proofs.RuleTable

/-! Stages of layout lose nothing but what they are there to drop. Whatever stages run, in whatever
order and however often, the tokens of the text come out as they went in, without those that a stage
drops; an error comes out after them, and only if it went in. -/

namespace Offside

theorem throughError_streamOf (tokens : List Token) (fault : Option LexError) :
    throughError (streamOf tokens fault) = streamOf tokens fault := by
  induction tokens with
  | nil => cases fault <;> rfl
  | cons token tokens ih => rw [streamOf_cons, throughError, ih]

namespace Layout

/-! ### What stages drop -/

/-- The second list is the first without some of its tokens, of which each may be dropped. -/
inductive Thinned (mayDrop : Token → Prop) : List Token → List Token → Prop where
  | nil : Thinned mayDrop [] []
  | keep {token : Token} {tokens kept : List Token} (rest : Thinned mayDrop tokens kept) :
      Thinned mayDrop (token :: tokens) (token :: kept)
  | drop {token : Token} {tokens kept : List Token} (may : mayDrop token)
      (rest : Thinned mayDrop tokens kept) : Thinned mayDrop (token :: tokens) kept

namespace Thinned

variable {first second mayDrop : Token → Prop} {tokens middle kept : List Token}

theorem refl (tokens : List Token) : Thinned mayDrop tokens tokens := by
  induction tokens with
  | nil => exact .nil
  | cons token tokens ih => exact .keep ih

theorem weaken (thinned : Thinned first tokens kept) (implies : ∀ token, first token → second token) :
    Thinned second tokens kept := by
  induction thinned with
  | nil => exact .nil
  | keep _ ih => exact .keep ih
  | drop may _ ih => exact .drop (implies _ may) ih

theorem trans (earlier : Thinned mayDrop tokens middle) (later : Thinned mayDrop middle kept) :
    Thinned mayDrop tokens kept := by
  induction earlier generalizing kept with
  | nil => exact later
  | keep _ ih =>
    cases later with
    | keep rest => exact .keep (ih rest)
    | drop may rest => exact .drop may (ih rest)
  | drop may _ ih => exact .drop may (ih later)

theorem filter (thinned : Thinned mayDrop tokens kept) (p : Token → Bool) :
    Thinned mayDrop (tokens.filter p) (kept.filter p) := by
  induction thinned with
  | nil => exact .nil
  | @keep token _ _ _ ih =>
    by_cases holds : p token = true
    · rw [List.filter_cons_of_pos holds, List.filter_cons_of_pos holds]
      exact .keep ih
    · rw [List.filter_cons_of_neg holds, List.filter_cons_of_neg holds]
      exact ih
  | @drop token _ _ may _ ih =>
    by_cases holds : p token = true
    · rw [List.filter_cons_of_pos holds]
      exact .drop may ih
    · rw [List.filter_cons_of_neg holds]
      exact ih

theorem sublist (thinned : Thinned mayDrop tokens kept) : kept.Sublist tokens := by
  induction thinned with
  | nil => exact .slnil
  | keep _ ih => exact ih.cons_cons _
  | drop _ _ ih => exact ih.cons _

end Thinned

/-- The tokens that the text spells: all but indents and dedents. -/
def written (tokens : List Token) : List Token := tokens.filter fun token => !token.kind.isPseudo

theorem mem_written {token : Token} {tokens : List Token} :
    token ∈ written tokens ↔ token ∈ tokens ∧ token.kind.isPseudo = false := by
  rw [written, List.mem_filter, Bool.not_eq_true']

/-- Trivia is dropped by one stage only, newlines by another, and nothing else by any. -/
def Droppable (stages : List Stage) (token : Token) : Prop :=
  (token.isTrivia = true ∧ .trivia ∈ stages) ∨ (token.kind = .newline ∧ .newlines ∈ stages)

/-- What comes out of stages, beside what went in. -/
structure Conserves (stages : List Stage) (tokens staged : List Token) : Prop where
  thinned : Thinned (Droppable stages) (written tokens) (written staged)
  clean : .trivia ∈ stages → ∀ token ∈ staged, token.isTrivia = false

namespace Conserves

theorem nil (tokens : List Token) : Conserves [] tokens tokens :=
  ⟨.refl _, fun member => absurd member List.not_mem_nil⟩

/-- Pseudo tokens are no trivia, and no stage adds other tokens. -/
private theorem clean_later {stages : List Stage} {tokens staged : List Token}
    (conserves : Conserves stages tokens staged) (clean : ∀ token ∈ tokens, token.isTrivia = false) :
    ∀ token ∈ staged, token.isTrivia = false := by
  intro token member
  cases pseudo : token.kind.isPseudo with
  | false =>
    have spelled := conserves.thinned.sublist.subset (mem_written.mpr ⟨member, pseudo⟩)
    exact clean token (mem_written.mp spelled).1
  | true =>
    rw [Token.isTrivia]
    cases kind : token.kind <;> simp_all [Kind.isPseudo, Kind.isTrivia]

theorem append {first rest : List Stage} {tokens middle staged : List Token}
    (earlier : Conserves first tokens middle) (later : Conserves rest middle staged) :
    Conserves (first ++ rest) tokens staged := by
  refine ⟨?_, fun member => ?_⟩
  · have before : Thinned (Droppable (first ++ rest)) (written tokens) (written middle) :=
      earlier.thinned.weaken fun token => by
        rintro (⟨trivia, member⟩ | ⟨newline, member⟩)
        · exact .inl ⟨trivia, List.mem_append_left rest member⟩
        · exact .inr ⟨newline, List.mem_append_left rest member⟩
    have after : Thinned (Droppable (first ++ rest)) (written middle) (written staged) :=
      later.thinned.weaken fun token => by
        rintro (⟨trivia, member⟩ | ⟨newline, member⟩)
        · exact .inl ⟨trivia, List.mem_append_right first member⟩
        · exact .inr ⟨newline, List.mem_append_right first member⟩
    exact before.trans after
  · rcases List.mem_append.mp member with early | late
    · exact later.clean_later (earlier.clean early)
    · exact later.clean late

end Conserves

/-! ### Each stage -/

theorem strip_streamOf (tokens : List Token) (fault : Option LexError) :
    strip (streamOf tokens fault) =
      streamOf (tokens.filter fun token => !token.isTrivia) fault := by
  induction tokens with
  | nil => cases fault <;> rfl
  | cons token tokens ih =>
    rw [streamOf_cons, strip, ih]
    cases trivia : token.isTrivia with
    | true => simp [trivia]
    | false => simp [trivia, streamOf_cons]

private theorem thinned_filter {mayDrop : Token → Prop} (p : Token → Bool) (tokens : List Token)
    (may : ∀ token, p token = false → mayDrop token) : Thinned mayDrop tokens (tokens.filter p) := by
  induction tokens with
  | nil => exact .nil
  | cons token tokens ih =>
    by_cases holds : p token = true
    · rw [List.filter_cons_of_pos holds]
      exact .keep ih
    · rw [List.filter_cons_of_neg holds]
      exact .drop (may token (Bool.eq_false_iff.mpr holds)) ih

theorem sift_streamOf (before : Option Kind) (opened : List Bracket) (tokens : List Token)
    (fault : Option LexError) :
    ∃ kept, sift before opened (streamOf tokens fault) = streamOf kept fault ∧
      Thinned (fun token => token.kind = .newline) tokens kept := by
  induction tokens generalizing before opened with
  | nil => cases fault <;> exact ⟨[], rfl, .nil⟩
  | cons token tokens ih =>
    rw [streamOf_cons, sift]
    split
    · rename_i newline
      obtain ⟨kept, same, thinned⟩ := ih (some token.kind) opened
      rw [same]
      split
      · exact ⟨kept, rfl, .drop newline thinned⟩
      · exact ⟨token :: kept, rfl, .keep thinned⟩
    · obtain ⟨kept, same, thinned⟩ := ih (some token.kind) (trackBracket token.kind opened)
      rw [same]
      exact ⟨token :: kept, rfl, .keep thinned⟩

theorem written_marks {marks : List Token} (tokens : List Token)
    (pseudo : ∀ mark ∈ marks, mark.kind = .indent ∨ mark.kind = .dedent) :
    written (marks ++ tokens) = written tokens := by
  have none : marks.filter (fun token => !token.kind.isPseudo) = [] := by
    rw [List.filter_eq_nil_iff]
    intro mark member
    rcases pseudo mark member with same | same <;> simp [same, Kind.isPseudo]
  rw [written, List.filter_append, none, List.nil_append, written]

/-- Marks in front of a token add nothing to the tokens that the text spells. -/
theorem written_marked {marks marked tokens : List Token} (token : Token)
    (pseudo : ∀ mark ∈ marks, mark.kind = .indent ∨ mark.kind = .dedent)
    (same : written marked = written tokens) :
    written (marks ++ token :: marked) = written (token :: tokens) := by
  rw [written_marks _ pseudo]
  change written ([token] ++ marked) = written ([token] ++ tokens)
  rw [written, List.filter_append, written, List.filter_append]
  exact congrArg _ same

theorem nest_streamOf (indenters : List Kind) (before : Option Token) (levels : List Level)
    (tokens : List Token) (fault : Option LexError) :
    ∃ marked, nest indenters before levels (streamOf tokens fault) = streamOf marked fault ∧
      written marked = written tokens := by
  induction tokens generalizing before levels with
  | nil =>
    cases fault with
    | some fault => exact ⟨[], rfl, rfl⟩
    | none =>
      let dedents := List.replicate (openBlocks levels)
        (Token.pseudo .dedent ((before.map Token.stop).getD 0))
      refine ⟨dedents, ?_, ?_⟩
      · simp [dedents, streamOf, nest]
      · rw [← List.append_nil dedents]
        exact written_marks [] fun mark member => .inr ((List.mem_replicate.mp member).2 ▸ rfl)
  | cons token tokens ih =>
    obtain ⟨between, shifted, -⟩ := marksBefore_step indenters before token levels
    obtain ⟨marked, same, kept⟩ := ih (some token) (marksBefore indenters before token levels).2
    refine ⟨(marksBefore indenters before token levels).1 ++ token :: marked, ?_, ?_⟩
    · rw [streamOf_cons, nest]
      dsimp only
      rw [same]
      simp [streamOf]
    · exact written_marked token shifted.pseudo kept

theorem conserves_trivia (tokens : List Token) :
    Conserves [.trivia] tokens (tokens.filter fun token => !token.isTrivia) := by
  constructor
  · apply Thinned.filter
    apply thinned_filter
    intro token trivia
    exact .inl ⟨by simpa using trivia, List.mem_singleton_self _⟩
  · intro _ token member
    simpa using (List.mem_filter.mp member).2

theorem conserves_newlines {tokens kept : List Token}
    (thinned : Thinned (fun token => token.kind = .newline) tokens kept) :
    Conserves [.newlines] tokens kept := by
  constructor
  · apply Thinned.filter
    exact thinned.weaken fun token newline => .inr ⟨newline, List.mem_singleton_self _⟩
  · intro member
    exact absurd member (by decide)

theorem conserves_blocks {tokens marked : List Token} (same : written marked = written tokens) :
    Conserves [.blocks] tokens marked := by
  constructor
  · rw [same]
    exact .refl _
  · intro member
    exact absurd member (by decide)

private theorem Stage.effect_conserves (indenters : List Kind) (stage : Stage) (tokens : List Token)
    (fault : Option LexError) :
    ∃ staged, stage.effect indenters (streamOf tokens fault) = streamOf staged fault ∧
      Conserves [stage] tokens staged := by
  cases stage with
  | trivia => exact ⟨_, strip_streamOf tokens fault, conserves_trivia tokens⟩
  | newlines =>
    obtain ⟨kept, same, thinned⟩ := sift_streamOf none [] tokens fault
    refine ⟨kept, ?_, conserves_newlines thinned⟩
    rw [effect, throughError_streamOf, same]
  | blocks =>
    obtain ⟨marked, same, kept⟩ := nest_streamOf indenters none [] tokens fault
    refine ⟨marked, ?_, conserves_blocks kept⟩
    rw [effect, throughError_streamOf, same]

theorem runStages_streamOf (options : Options) (stages : List Stage) (tokens : List Token)
    (fault : Option LexError) :
    ∃ staged, runStages options stages (streamOf tokens fault) = streamOf staged fault ∧
      Conserves stages tokens staged := by
  rw [runStages_eq]
  induction stages generalizing tokens with
  | nil => exact ⟨tokens, rfl, .nil tokens⟩
  | cons stage stages ih =>
    obtain ⟨middle, first, earlier⟩ := stage.effect_conserves options.indenters tokens fault
    obtain ⟨staged, rest, later⟩ := ih middle
    refine ⟨staged, ?_, earlier.append later⟩
    rw [List.foldl_cons, first, rest]

/-! ### Room for the windows -/

theorem Options.reserve_eq (options : Options) :
    options.reserve =
      if max options.window View.leastWindow * Recent.itemSize ≤ Memory.largest then .ok ()
      else .error ⟨max options.window View.leastWindow, Recent.itemSize⟩ := rfl

theorem stackWithin_cons (options : Options) (stage : Stage) (stages : List Stage) (flow : Flow) :
    stackWithin options (stage :: stages) flow =
      match options.reserve with
      | .ok _ => stackWithin options stages (stage.onto options flow)
      | .error shortage => .error shortage := by
  have step : stackWithin options (stage :: stages) flow =
      (options.reserve.map fun _ => stage.onto options flow) >>= stackWithin options stages := rfl
  rw [step]
  cases options.reserve <;> rfl

theorem stackWithin_of_room {options : Options} (room : options.reserve = .ok ())
    (stages : List Stage) (flow : Flow) :
    stackWithin options stages flow = .ok (stack options stages flow) := by
  induction stages generalizing flow with
  | nil => rfl
  | cons stage stages ih =>
    rw [stackWithin_cons, room]
    exact ih (stage.onto options flow)

/-- Stages can be set one on another if memory has room for their windows, or if there are none. -/
theorem stackWithin_eq (options : Options) (stages : List Stage) (flow : Flow) :
    stackWithin options stages flow =
      if stages = [] ∨ max options.window View.leastWindow * Recent.itemSize ≤ Memory.largest then
        .ok (stack options stages flow)
      else .error ⟨max options.window View.leastWindow, Recent.itemSize⟩ := by
  have reserve := options.reserve_eq
  by_cases room : max options.window View.leastWindow * Recent.itemSize ≤ Memory.largest
  · rw [if_pos room] at reserve
    rw [if_pos (.inr room), stackWithin_of_room reserve]
  · rw [if_neg room] at reserve
    cases stages with
    | nil => rfl
    | cons stage stages =>
      have refused : ¬ (stage :: stages = [] ∨
          max options.window View.leastWindow * Recent.itemSize ≤ Memory.largest) :=
        not_or.mpr ⟨List.cons_ne_nil _ _, room⟩
      rw [if_neg refused, stackWithin_cons, reserve]

theorem runStagesWithin_eq {options : Options} (room : options.reserve = .ok ())
    (stages : List Stage) (items : List Item) :
    runStagesWithin options stages items = .ok (runStages options stages items) := by
  rw [runStagesWithin, stackWithin_of_room room]
  rfl

/-- Whatever stages are set one on another over the lexer of a text, pulling at the last of them yields
the tokens of the text in their order, with indents and dedents among them, and without trivia or
newlines that a stage for them dropped. An error comes last, once, exactly if lexing ended in it, and
after the end come nothing but ends. At every pull, what the stages hold between them is what is still
to come. They are set so exactly if there are none or memory has room for their windows. -/
theorem stack_conserves (options : Options) (stages : List Stage) (source : Source) (offset : Nat) :
    ∃ (tokens staged : List Token) (fault : Option LexError),
      (Lexer.ofSource source offset).items = streamOf tokens fault ∧
      (∀ n, pulled Flow.next n (stack options stages ⟨Lexer.ofSource source offset⟩) =
        (streamOf staged fault)[n]?) ∧
      (∀ n, Supply.items (Supply.after n (stack options stages ⟨Lexer.ofSource source offset⟩)) =
        (streamOf staged fault).drop n) ∧
      Thinned (Droppable stages) tokens (written staged) ∧
      (.trivia ∈ stages → ∀ token ∈ staged, token.isTrivia = false) ∧
      stackWithin options stages ⟨Lexer.ofSource source offset⟩ =
        if stages = [] ∨ max options.window View.leastWindow * Recent.itemSize ≤ Memory.largest then
          .ok (stack options stages ⟨Lexer.ofSource source offset⟩)
        else .error ⟨max options.window View.leastWindow, Recent.itemSize⟩ := by
  obtain ⟨tokens, fault, split, spelled⟩ :=
    (Lexer.drain_run (Lexer.ofSource source offset)).stream Rule.plain_table
  obtain ⟨staged, same, conserves⟩ := runStages_streamOf options stages tokens fault
  have all : written tokens = tokens :=
    List.filter_eq_self.mpr fun token member => by rw [spelled token member]; rfl
  have items : (Lexer.ofSource source offset).items = streamOf tokens fault := split
  have yields : Supply.items (stack options stages ⟨Lexer.ofSource source offset⟩) =
      streamOf staged fault := by
    rw [items_stack_eq_runStages, Flow.items_mk, ← same, ← items]
    rfl
  refine ⟨tokens, staged, fault, items, fun n => ?_, fun n => ?_, ?_, conserves.clean,
    stackWithin_eq options stages _⟩
  · rw [← yields]
    exact Supply.pulled_eq n _
  · rw [Supply.items_after, yields]
  · rw [← all]
    exact conserves.thinned

/-- A window of `2 ^ 63` tokens has no room in memory, and then not even a single stage can be set on
a lexer, which a window of no tokens lets through. -/
theorem huge_window_unstaged :
    stackWithin { window := 9223372036854775808 } [.trivia] ⟨Lexer.ofSource (.anonymous "a") 0⟩ =
      .error ⟨9223372036854775808, 32⟩ ∧
    stackWithin { window := 0 } [.trivia] ⟨Lexer.ofSource (.anonymous "a") 0⟩ =
      .ok (stack { window := 0 } [.trivia] ⟨Lexer.ofSource (.anonymous "a") 0⟩) := by
  constructor
  · exact (stackWithin_eq ..).trans (if_neg (by decide))
  · exact (stackWithin_eq ..).trans (if_pos (by decide))

end Layout

end Offside
