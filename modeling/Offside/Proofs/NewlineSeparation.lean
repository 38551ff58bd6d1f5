import Offside.Proofs.LayoutStages
import Offside.Proofs.WordLexing

/-! Newlines that are kept, and the tokens around them. What comes after a newline can start a line,
and no two newlines are kept side by side. But whether a newline is kept depends on the token that was
read before it, and that may be a newline that was dropped: so the second of two newlines that a
comment divides is kept even at the start of the text, or after a bracket or a comma. This is the only
way in which a newline can fail to separate two tokens. -/

namespace Offside.Layout

open View (kindAt)

/-- The items end in a token after which a newline ends something. -/
def EndsLine (front : List Item) : Prop :=
  ∃ token, front.getLast? = some (.ok token) ∧
    token.kind ∉ [.opening .square, .opening .curly, .comma, .newline]

/-- The items start with a token before which a newline ends something. -/
def StartsLine (after : List Item) : Prop :=
  ∃ token, after.head? = some (.ok token) ∧
    token.kind ∉ [.closing .square, .closing .curly, .comma, .newline]

/-- Every newline stands between two tokens that it separates. -/
def Separated (items : List Item) : Prop :=
  ∀ front newline after, items = front ++ .ok newline :: after → newline.kind = .newline →
    EndsLine front ∧ StartsLine after

/-- The last token that is not a newline. -/
def anchor (tokens : List Token) : Option Token :=
  (tokens.filter fun token => token.kind != .newline).getLast?

/-- The brackets that are open after some tokens, innermost first. -/
def openedAfter (opened : List Bracket) (tokens : List Token) : List Bracket :=
  tokens.foldl (fun opened token => trackBracket token.kind opened) opened

/-- Somewhere there are two newlines in a row and a token that can start a line, but in front of the
newlines nothing, or a token that ends no line. The innermost bracket that is open there is no
parenthesis: inside one, all newlines are dropped. -/
def Doubled (items : List Item) : Prop :=
  ∃ (before : List Token) (first second next : Token) (rest : List Item),
    items = before.map .ok ++ .ok first :: .ok second :: .ok next :: rest ∧
    first.kind = .newline ∧ second.kind = .newline ∧ next.kind ∉ noNewlineBefore ∧
    (openedAfter [] before).head? ≠ some .round ∧
    ∀ token, anchor before = some token → token.kind ∈ noNewlineAfter

theorem anchor_cons_newline {token : Token} (newline : token.kind = .newline)
    (tokens : List Token) : anchor (token :: tokens) = anchor tokens := by
  simp [anchor, newline]

theorem anchor_cons {token : Token} (other : token.kind ≠ .newline) (tokens : List Token) :
    anchor (token :: tokens) = some ((anchor tokens).getD token) := by
  rw [anchor, List.filter_cons_of_pos (by simpa using other), List.getLast?_cons]
  rfl

theorem anchor_append_newline (tokens : List Token) {token : Token}
    (newline : token.kind = .newline) : anchor (tokens ++ [token]) = anchor tokens := by
  simp [anchor, newline]

private theorem anchor_append (tokens : List Token) {token : Token}
    (other : token.kind ≠ .newline) :
    anchor (tokens ++ [token]) = some token := by
  simp [anchor, other]

theorem kind_of_anchor {tokens : List Token} {token : Token} (last : anchor tokens = some token) :
    token.kind ≠ .newline := by
  have member := List.mem_of_getLast? last
  simpa using (List.mem_filter.mp member).2

theorem eq_some_of_map_ok {found : Option Token} {token : Token}
    (same : found.map (Except.ok : Token → Item) = some (.ok token)) : found = some token := by
  obtain ⟨other, rfl, equal⟩ := Option.map_eq_some_iff.mp same
  cases equal
  rfl

/-- A newline is kept between two kinds that allow it, outside parentheses. -/
theorem isElided_eq_false_iff (before after : Option Kind) (opened : List Bracket) :
    isElided before after opened = false ↔
      (∃ kind, before = some kind ∧ kind ∉ noNewlineAfter) ∧
      (∃ kind, after = some kind ∧ kind ∉ noNewlineBefore) ∧ opened.head? ≠ some .round := by
  cases before with
  | none => simp [isElided]
  | some before =>
    cases after with
    | none => simp [isElided]
    | some after => simp [isElided, and_assoc]

theorem ne_newline_of_allowed {kind : Kind} (allowed : kind ∉ noNewlineBefore) : kind ≠ .newline := by
  rintro rfl
  exact absurd (by decide) allowed

theorem kindAt_zero {items : List Item} {kind : Kind} (starts : kindAt items 0 = some kind) :
    ∃ token rest, items = .ok token :: rest ∧ token.kind = kind := by
  cases items with
  | nil => cases starts
  | cons item rest =>
    cases item with
    | error fault => cases starts
    | ok token => exact ⟨token, rest, rfl, Option.some.inj starts⟩

theorem sift_kept {before : Option Kind} {opened : List Bracket} {token : Token} {items : List Item}
    (kept : token.kind = .newline → isElided before (kindAt items 0) opened = false) :
    sift before opened (.ok token :: items) =
      .ok token :: sift (some token.kind) (trackBracket token.kind opened) items := by
  rw [sift]
  split
  · rename_i newline
    rw [kept newline, if_neg Bool.false_ne_true, newline]
    rfl
  · rfl

/-- A token is passed over only if it is a newline that ends nothing. -/
theorem sift_cons_cases (before : Option Kind) (opened : List Bracket) (token : Token)
    (items : List Item) :
    (token.kind = .newline ∧
      sift before opened (.ok token :: items) = sift (some token.kind) opened items) ∨
    ((token.kind = .newline → isElided before (kindAt items 0) opened = false) ∧
      sift before opened (.ok token :: items) =
        .ok token :: sift (some token.kind) (trackBracket token.kind opened) items) := by
  by_cases elided : token.kind = .newline ∧ isElided before (kindAt items 0) opened = true
  · refine .inl ⟨elided.1, ?_⟩
    rw [sift, if_pos elided.1, if_pos elided.2]
  · have stays : token.kind = .newline → isElided before (kindAt items 0) opened = false := by
      intro newline
      exact Bool.eq_false_iff.mpr fun holds => elided ⟨newline, holds⟩
    exact .inr ⟨stays, sift_kept stays⟩

theorem lastKind_cons (token : Token) (tokens : List Token) (before : Option Kind) :
    (((token :: tokens).getLast?).map Token.kind).or before =
      (tokens.getLast?.map Token.kind).or (some token.kind) := by
  rw [List.getLast?_cons]
  cases tokens.getLast? <;> rfl

theorem openedAfter_newline {token : Token} (newline : token.kind = .newline)
    (opened : List Bracket) (tokens : List Token) :
    openedAfter opened (token :: tokens) = openedAfter opened tokens := by
  rw [openedAfter, List.foldl_cons, newline]
  rfl

theorem openedAfter_append_newline (opened : List Bracket) (tokens : List Token) {token : Token}
    (newline : token.kind = .newline) :
    openedAfter opened (tokens ++ [token]) = openedAfter opened tokens := by
  rw [openedAfter, List.foldl_append, List.foldl_cons, newline]
  rfl

/-- A kept newline was not elided where it stands among the items. -/
theorem sift_newline {before : Option Kind} {opened : List Bracket} {items front after : List Item}
    {newline : Token} (split : sift before opened items = front ++ .ok newline :: after)
    (kind : newline.kind = .newline) :
    ∃ (tokens : List Token) (rest : List Item),
      items = tokens.map .ok ++ .ok newline :: rest ∧
      isElided ((tokens.getLast?.map Token.kind).or before) (kindAt rest 0)
        (openedAfter opened tokens) = false ∧
      after = sift (some .newline) (openedAfter opened tokens) rest := by
  induction items generalizing before opened front with
  | nil => cases front <;> cases split
  | cons item items ih =>
    cases item with
    | error fault =>
      rw [sift] at split
      cases front with
      | nil => cases split
      | cons other front => cases front <;> cases split
    | ok token =>
      rcases sift_cons_cases before opened token items with ⟨elided, same⟩ | ⟨stays, same⟩
      · rw [same] at split
        obtain ⟨tokens, rest, rfl, kept, left⟩ := ih split
        refine ⟨token :: tokens, rest, rfl, ?_, ?_⟩
        · rw [lastKind_cons, openedAfter_newline elided]
          exact kept
        · rw [openedAfter_newline elided]
          exact left
      · rw [same] at split
        cases front with
        | nil =>
          obtain ⟨same, rest⟩ := List.cons.inj split
          cases same
          refine ⟨[], items, rfl, stays kind, ?_⟩
          rw [← rest, kind]
          rfl
        | cons first front =>
          obtain ⟨-, later⟩ := List.cons.inj split
          obtain ⟨tokens, rest, rfl, kept, left⟩ := ih later
          refine ⟨token :: tokens, rest, rfl, ?_, left⟩
          rw [lastKind_cons]
          exact kept

/-- What stands before some items leaves them to be sifted as they are. If they start with a newline,
what is kept before them ends in the last token that is not a newline. -/
theorem sift_append (before : Option Kind) (opened : List Bracket) (tokens : List Token)
    (items : List Item) :
    ∃ kept : List Token,
      sift before opened (tokens.map .ok ++ items) = kept.map .ok ++
        sift ((tokens.getLast?.map Token.kind).or before) (openedAfter opened tokens) items ∧
      (kindAt items 0 = some .newline → kept.getLast? = anchor tokens) := by
  induction tokens generalizing before opened with
  | nil => exact ⟨[], rfl, fun _ => rfl⟩
  | cons token tokens ih =>
    rw [List.map_cons, List.cons_append, lastKind_cons]
    rcases sift_cons_cases before opened token (tokens.map .ok ++ items) with
      ⟨elided, here⟩ | ⟨stays, here⟩
    · obtain ⟨kept, same, last⟩ := ih (some token.kind) opened
      refine ⟨kept, ?_, fun newline => ?_⟩
      · rw [here, same, openedAfter_newline elided]
      · rw [anchor_cons_newline elided]
        exact last newline
    · obtain ⟨kept, same, last⟩ := ih (some token.kind) (trackBracket token.kind opened)
      refine ⟨token :: kept, ?_, fun newline => ?_⟩
      · rw [here, same]
        rfl
      · rw [List.getLast?_cons, last newline]
        by_cases other : token.kind = .newline
        · -- This newline is kept, so that what follows it is no newline.
          obtain ⟨-, ⟨next, follows, allowed⟩, -⟩ :=
            (isElided_eq_false_iff _ _ _).mp (stays other)
          have differs := ne_newline_of_allowed allowed
          cases tokens with
          | nil => exact absurd (Option.some.inj (follows.symm.trans newline)) differs
          | cons second tokens =>
            have same : second.kind = next := Option.some.inj follows
            rw [anchor_cons_newline other, anchor_cons (same ▸ differs)]
            rfl
        · rw [anchor_cons other]

/-- The token before a kept newline is the last one in front of it that is not a newline. -/
theorem sift_newline_anchor {items front after : List Item} {newline : Token}
    (split : sift none [] items = front ++ .ok newline :: after) (kind : newline.kind = .newline) :
    ∃ (tokens : List Token) (rest : List Item),
      items = tokens.map .ok ++ .ok newline :: rest ∧
      isElided (tokens.getLast?.map Token.kind) (kindAt rest 0) (openedAfter [] tokens) = false ∧
      front.getLast? = (anchor tokens).map .ok ∧
      after = sift (some .newline) (openedAfter [] tokens) rest := by
  obtain ⟨tokens, rest, rfl, stays, left⟩ := sift_newline split kind
  rw [Option.or_none] at stays
  obtain ⟨kept, same, last⟩ := sift_append none [] tokens (.ok newline :: rest)
  rw [Option.or_none, sift_kept fun _ => stays, kind] at same
  have fronts : front = kept.map .ok := by
    rw [left] at split
    exact List.append_cancel_right (split.symm.trans same)
  refine ⟨tokens, rest, rfl, stays, ?_, left⟩
  rw [fronts, List.getLast?_map, last (congrArg some kind)]

/-- After a kept newline comes a token that can start a line. -/
private theorem startsLine_sift {opened : List Bracket} {rest : List Item} {kind : Kind}
    (follows : kindAt rest 0 = some kind) (allowed : kind ∉ noNewlineBefore) :
    StartsLine (sift (some .newline) opened rest) := by
  obtain ⟨token, items, rfl, rfl⟩ := kindAt_zero follows
  have other := ne_newline_of_allowed allowed
  refine ⟨token, ?_, ?_⟩
  · rw [sift_kept fun newline => absurd newline other]
    rfl
  · simp only [noNewlineBefore, List.mem_cons, List.not_mem_nil, or_false, not_or] at allowed ⊢
    tauto

/-- Every kept newline has a token after it that can start a line, and no newline before it. -/
theorem sift_spaced {items front after : List Item} {newline : Token}
    (split : sift none [] items = front ++ .ok newline :: after) (kind : newline.kind = .newline) :
    StartsLine after ∧ ∀ token, front.getLast? = some (.ok token) → token.kind ≠ .newline := by
  obtain ⟨tokens, rest, rfl, stays, last, rfl⟩ := sift_newline_anchor split kind
  obtain ⟨-, ⟨next, follows, allowed⟩, -⟩ := (isElided_eq_false_iff _ _ _).mp stays
  refine ⟨startsLine_sift follows allowed, fun token found => ?_⟩
  rw [last] at found
  exact kind_of_anchor (eq_some_of_map_ok found)

/-- Of two newlines in a row the second is kept, whatever stands in front of the first. -/
private theorem not_separated_of_doubled {items : List Item} (doubled : Doubled items) :
    ¬ Separated (sift none [] items) := by
  obtain ⟨before, first, second, next, rest, rfl, one, two, allowed, outside, pointless⟩ := doubled
  intro separated
  obtain ⟨kept, same, last⟩ := sift_append none [] (before ++ [first])
    (.ok second :: .ok next :: rest)
  have stays : isElided (some .newline) (some next.kind) (openedAfter [] before) = false :=
    (isElided_eq_false_iff _ _ _).mpr ⟨⟨_, rfl, by decide⟩, ⟨_, rfl, allowed⟩, outside⟩
  rw [List.map_append, List.append_assoc, List.getLast?_concat, Option.map_some, one, Option.some_or,
    openedAfter_append_newline [] before one, sift_kept fun _ => stays] at same
  obtain ⟨⟨token, ends, line⟩, -⟩ := separated (kept.map .ok) second _ same two
  rw [List.getLast?_map, last (congrArg some two), anchor_append_newline before one] at ends
  have bad := pointless token (eq_some_of_map_ok ends)
  simp only [noNewlineAfter, List.mem_cons, List.not_mem_nil, or_false, not_or] at bad line
  tauto

private theorem separated_of_not_doubled {items : List Item} (single : ¬ Doubled items) :
    Separated (sift none [] items) := by
  intro front newline after split kind
  have spaced := sift_spaced split kind
  obtain ⟨tokens, rest, rfl, stays, last, -⟩ := sift_newline_anchor split kind
  refine ⟨?_, spaced.1⟩
  obtain ⟨⟨back, ends, fits⟩, ⟨ahead, follows, allowed⟩, outside⟩ :=
    (isElided_eq_false_iff _ _ _).mp stays
  obtain ⟨final, closing, rfl⟩ := Option.map_eq_some_iff.mp ends
  obtain ⟨init, rfl⟩ := List.getLast?_eq_some_iff.mp closing
  -- The token that is read before the newline is the one that stands before it, or a newline too.
  obtain ⟨token, anchored, fitting⟩ : ∃ token, anchor (init ++ [final]) = some token ∧
      token.kind ∉ noNewlineAfter := by
    by_cases again : final.kind = .newline
    · rw [anchor_append_newline init again]
      obtain ⟨next, others, rfl, rfl⟩ := kindAt_zero follows
      by_contra none
      refine single ⟨init, final, newline, next, others, ?_, again, kind, allowed, ?_, ?_⟩
      · simp
      · rwa [openedAfter_append_newline [] init again] at outside
      · intro token anchored
        by_contra fits
        exact none ⟨token, anchored, fits⟩
    · exact ⟨final, anchor_append init again, fits⟩
  refine ⟨token, ?_, ?_⟩
  · rw [last, anchored, Option.map_some]
  · have other := kind_of_anchor anchored
    simp only [noNewlineAfter, List.mem_cons, List.not_mem_nil, or_false, not_or] at fitting ⊢
    tauto

/-- In what is left of a text without trivia and idle newlines, every newline has a token after it that
can start a line, and no newline before it. Every newline separates two tokens exactly if nowhere
outside parentheses two newlines in a row come after nothing, or after a token that ends no line. -/
theorem newlines_separated_iff (window : Nat) (source : Source) (offset : Nat) :
    (∀ front newline after,
      dropNewlines window (dropTrivia (Lexer.ofSource source offset).items) =
        front ++ .ok newline :: after → newline.kind = .newline →
      StartsLine after ∧ ∀ token, front.getLast? = some (.ok token) → token.kind ≠ .newline) ∧
    (Separated (dropNewlines window (dropTrivia (Lexer.ofSource source offset).items)) ↔
      ¬ Doubled (dropTrivia (Lexer.ofSource source offset).items)) := by
  rw [dropNewlines_eq_sift, dropTrivia_eq_strip, throughError_strip]
  refine ⟨fun front newline after split kind => sift_spaced split kind, ?_, ?_⟩
  · intro separated doubled
    exact not_separated_of_doubled doubled separated
  · exact separated_of_not_doubled

/-- A newline, a comment, a newline and a word show two newlines in a row. -/
private theorem shown_commentFirst : Lexer.shown 0 ['\n', '#', '\n', 'a'] =
    [.ok ⟨.newline, 0, ['\n']⟩, .ok ⟨.newline, 2, ['\n']⟩, .ok ⟨.identifier, 3, ['a']⟩] := by
  have first : Lexer.shown 0 (['\n'] ++ ['#', '\n', 'a']) =
      .ok ⟨.newline, 0, ['\n']⟩ :: Lexer.shown 1 ['#', '\n', 'a'] := by
    have stops : Stops Text.isBlank ['#', '\n', 'a'] := by simp [Stops]; decide
    exact Lexer.shown_token (List.cons_ne_nil _ _)
      (Lexer.firstToken_newline (List.forall_mem_nil _) stops 0) rfl
  have comment : Lexer.shown 1 (['#'] ++ ['\n', 'a']) = Lexer.shown 2 ['\n', 'a'] :=
    Lexer.shown_trivia (List.cons_ne_nil _ _)
      (Lexer.firstToken_comment List.not_mem_nil (by simp [Stops]) 1) rfl
  have second : Lexer.shown 2 (['\n'] ++ ['a']) =
      .ok ⟨.newline, 2, ['\n']⟩ :: Lexer.shown 3 ['a'] := by
    have stops : Stops Text.isBlank ['a'] := by simp [Stops]; decide
    exact Lexer.shown_token (List.cons_ne_nil _ _)
      (Lexer.firstToken_newline (List.forall_mem_nil _) stops 2) rfl
  have word : Lexer.shown 3 (['a'] ++ []) = .ok ⟨.identifier, 3, ['a']⟩ :: Lexer.shown 4 [] :=
    Lexer.shown_token (List.cons_ne_nil _ _)
      (Lexer.firstToken_identifier (by decide) (List.forall_mem_nil _) (by decide) (by simp [Stops]) 3)
      rfl
  calc Lexer.shown 0 ['\n', '#', '\n', 'a']
    _ = .ok ⟨.newline, 0, ['\n']⟩ :: Lexer.shown 1 ['#', '\n', 'a'] := first
    _ = .ok ⟨.newline, 0, ['\n']⟩ :: Lexer.shown 2 ['\n', 'a'] := congrArg _ comment
    _ = .ok ⟨.newline, 0, ['\n']⟩ :: .ok ⟨.newline, 2, ['\n']⟩ :: Lexer.shown 3 ['a'] :=
      congrArg _ second
    _ = .ok ⟨.newline, 0, ['\n']⟩ :: .ok ⟨.newline, 2, ['\n']⟩ :: .ok ⟨.identifier, 3, ['a']⟩ ::
        Lexer.shown 4 [] := congrArg (fun items => _ :: _ :: items) word
    _ = _ := by rw [Lexer.shown_nil]

/-- A comment on the first line leaves a newline at the start of the text. -/
theorem comment_first_not_separated :
    ¬ Separated (dropNewlines 10 (dropTrivia (Lexer.ofSource (.anonymous "\n#\na") 0).items)) := by
  have shown : dropTrivia (Lexer.ofSource (.anonymous "\n#\na") 0).items =
      [.ok ⟨.newline, 0, ['\n']⟩, .ok ⟨.newline, 2, ['\n']⟩, .ok ⟨.identifier, 3, ['a']⟩] := by
    rw [Lexer.ofSource_zero, dropTrivia_eq_strip]
    exact shown_commentFirst
  rw [shown, dropNewlines_eq_sift]
  intro separated
  obtain ⟨⟨token, before, -⟩, -⟩ := separated [] ⟨.newline, 2, ['\n']⟩ _ rfl rfl
  cases before

end Offside.Layout
