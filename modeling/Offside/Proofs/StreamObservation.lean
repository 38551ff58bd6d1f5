import Offside.Proofs.StageConservation
import Offside.Proofs.ViewRefinement

/-! What can be told from a stream of tokens. How much each stage remembers cannot: a stage asks for no
token but the one before the current one, and every window has room for that. Nor can what is still to
come: a stage that looks ahead looks no further than the next token. -/

namespace Offside

namespace Layout

/-! ### Windows -/

theorem items_window (first second : Nat) (indenters : List Kind) (source : Source) (offset : Nat) :
    items ⟨first, indenters⟩ source offset = items ⟨second, indenters⟩ source offset := by
  rw [items_eq_nest, items_eq_nest]

namespace Stream

theorem items_eq_unread (stream : Stream) : Supply.items stream = stream.unread := by
  have step (stream : Stream) : stream.next.1 = stream.unread.head? ∧ True ∧
      stream.next.2.unread = stream.unread.tail := by
    obtain ⟨first, rest⟩ := Supply.items_next stream.inner
    rw [unread, ← first, ← rest, next]
    split <;> rename_i pull <;> rw [pull] <;> exact ⟨rfl, trivial, rfl⟩
  exact Supply.items_eq_of_step (fun _ => True) unread (fun stream _ => step stream) trivial

/-- A stream that stands at a place of a list: it is to yield the items from there on, and its history
holds the latest tokens before it. -/
structure StandsAt (items : List Item) (place : Nat) (stream : Stream) : Prop where
  unread : stream.unread = items.drop place
  history : stream.history.items = (View.passed items place).take stream.history.capacity

theorem standsAt_ofSource (options : Options) (source : Source) (offset : Nat) :
    StandsAt (items options source offset) 0 (ofSource options source offset) where
  unread := List.drop_zero.symm
  history := by simp [ofSource, View.passed]

/-- Only a token that is yielded goes into the history. -/
private theorem history_next (stream : Stream) :
    (∃ token, stream.next.1 = some (.ok token) ∧
      stream.next.2.history = stream.history.push token) ∨
      (∀ token, stream.next.1 ≠ some (.ok token)) ∧ stream.next.2.history = stream.history := by
  unfold next
  split
  · exact .inl ⟨_, rfl, rfl⟩
  · exact .inr ⟨nofun, rfl⟩
  · exact .inr ⟨nofun, rfl⟩

namespace StandsAt

variable {items : List Item} {place : Nat} {stream : Stream}

theorem next_fst (stands : StandsAt items place stream) : stream.next.1 = items[place]? := by
  have first := (Supply.items_next stream).1
  rw [items_eq_unread, stands.unread, List.head?_drop] at first
  exact first

theorem next_snd (stands : StandsAt items place stream) :
    StandsAt items (place + 1) stream.next.2 ∧
      stream.next.2.history.capacity = stream.history.capacity := by
  have rest := (Supply.items_next stream).2
  rw [items_eq_unread, items_eq_unread, stands.unread, List.tail_drop] at rest
  rcases history_next stream with ⟨token, yielded, pushed⟩ | ⟨nothing, same⟩
  · have found : items[place]? = some (.ok token) := stands.next_fst.symm.trans yielded
    have remembered := View.items_push_take stands.history token
    have room : stream.next.2.history.capacity = stream.history.capacity := by
      rw [pushed, Recent.capacity_push]
    refine ⟨⟨rest, ?_⟩, room⟩
    rw [room, pushed, remembered, View.passed_succ_token found]
  · have other : ∀ token, items[place]? ≠ some (.ok token) := by
      rw [← stands.next_fst]
      exact nothing
    refine ⟨⟨rest, ?_⟩, by rw [same]⟩
    rw [same, View.passed_succ_other other, stands.history]

theorem after (stands : StandsAt items place stream) (n : Nat) :
    StandsAt items (place + n) (Supply.after n stream) ∧
      (Supply.after n stream).history.capacity = stream.history.capacity := by
  induction n generalizing place stream with
  | zero => exact ⟨stands, rfl⟩
  | succ n ih =>
    obtain ⟨moved, room⟩ := stands.next_snd
    obtain ⟨reached, same⟩ := ih moved
    rw [Nat.add_assoc, Nat.add_comm 1 n] at reached
    exact ⟨reached, same.trans room⟩

theorem pulled (stands : StandsAt items place stream) (n : Nat) :
    pulled Stream.next n stream = items[place + n]? := by
  have pulls : Offside.pulled Stream.next n stream = (Supply.items stream)[n]? :=
    Supply.pulled_eq n stream
  rw [pulls, items_eq_unread, stands.unread, List.getElem?_drop]

end StandsAt

theorem create_eq (options : Options) (source : Source) (offset : Nat) :
    create options source offset =
      if max options.window View.leastWindow * Recent.itemSize ≤ Memory.largest then
        .ok (ofSource options source offset)
      else .error ⟨max options.window View.leastWindow, Recent.itemSize⟩ := by
  rw [create, options.reserve_eq]
  split <;> rfl

/-- The streams of a source with all windows yield the same items, pull by pull, and after any number
of pulls the history of each holds the tokens that were yielded, the latest first, as many as its
window has room for. These are the streams that are made, as long as memory has room for the window;
with a larger one none is. -/
theorem window_unobservable (source : Source) (offset : Nat) (indenters : List Kind) :
    ∃ yielded : List Item, ∀ window : Nat,
      create ⟨window, indenters⟩ source offset =
        (if max window View.leastWindow * Recent.itemSize ≤ Memory.largest then
          .ok (ofSource ⟨window, indenters⟩ source offset)
        else .error ⟨max window View.leastWindow, Recent.itemSize⟩) ∧
      (∀ n, pulled Stream.next n (ofSource ⟨window, indenters⟩ source offset) = yielded[n]?) ∧
      ∀ n, (Supply.after n (ofSource ⟨window, indenters⟩ source offset)).history.items =
        (View.passed yielded n).take window := by
  refine ⟨items ⟨0, indenters⟩ source offset, fun window => ?_⟩
  have same := items_window window 0 indenters source offset
  refine ⟨create_eq _ source offset, fun n => ?_, fun n => ?_⟩
  · rw [(standsAt_ofSource _ source offset).pulled, same, Nat.zero_add]
  · obtain ⟨stands, room⟩ := (standsAt_ofSource ⟨window, indenters⟩ source offset).after n
    rw [stands.history, room, same, Nat.zero_add]
    rfl

/-- A window of `2 ^ 63` tokens can be told from one of none: there is no stream with it. -/
theorem huge_window_observed :
    create ⟨9223372036854775808, []⟩ (.anonymous "a") 0 = .error ⟨9223372036854775808, 32⟩ ∧
    create ⟨0, []⟩ (.anonymous "a") 0 = .ok (ofSource ⟨0, []⟩ (.anonymous "a") 0) := by
  constructor
  · exact (create_eq ..).trans (if_neg (by decide))
  · exact (create_eq ..).trans (if_pos (by decide))

end Stream

/-! ### What follows -/

private theorem throughError_append (tokens : List Token) (items : List Item) :
    throughError (tokens.map .ok ++ items) = tokens.map .ok ++ throughError items := by
  induction tokens with
  | nil => rfl
  | cons token tokens ih =>
    rw [List.map_cons, List.cons_append, throughError, ih]
    rfl

/-- What a stage makes of some tokens and one more does not depend on what follows: it is the tokens in
front, then the one more, whatever comes then. -/
def Fixes (run : List Item → List Item) (tokens : List Token) (last : Token) (front : List Token) :
    Prop :=
  ∀ rest : List Item, ∃ after : List Item,
    run (tokens.map .ok ++ .ok last :: rest) = front.map .ok ++ .ok last :: after

theorem Fixes.throughError {run : List Item → List Item} {tokens front : List Token} {last : Token}
    (fixes : Fixes run tokens last front) :
    Fixes (fun items => run (throughError items)) tokens last front := by
  intro rest
  obtain ⟨after, same⟩ := fixes (Offside.throughError rest)
  refine ⟨after, ?_⟩
  rw [← same]
  change run (Offside.throughError _) = _
  rw [throughError_append, Offside.throughError]

private theorem fixes_strip (tokens : List Token) {last : Token} (solid : last.isTrivia = false) :
    Fixes strip tokens last (tokens.filter fun token => !token.isTrivia) := by
  intro rest
  refine ⟨strip rest, ?_⟩
  induction tokens with
  | nil => simp [strip, solid]
  | cons token tokens ih =>
    rw [List.map_cons, List.cons_append, strip, ih]
    cases trivia : token.isTrivia with
    | true => simp [trivia]
    | false => simp [trivia]

/-- The kind of the next token is known where there is one. -/
private theorem kindAt_append (tokens : List Token) (last : Token) (rest : List Item) :
    View.kindAt (tokens.map .ok ++ .ok last :: rest) 0 = some (tokens.head?.getD last).kind := by
  cases tokens <;> rfl

private theorem fixes_sift (before : Option Kind) (opened : List Bracket) (tokens : List Token)
    {last : Token} (other : last.kind ≠ .newline) :
    ∃ kept, Thinned (fun token => token.kind = .newline) tokens kept ∧
      Fixes (sift before opened) tokens last kept := by
  induction tokens generalizing before opened with
  | nil =>
    refine ⟨[], .nil, fun rest => ⟨sift (some last.kind) (trackBracket last.kind opened) rest, ?_⟩⟩
    rw [List.map_nil, List.nil_append, sift, if_neg other]
    rfl
  | cons token tokens ih =>
    have step (rest : List Item) := kindAt_append tokens last rest
    by_cases newline : token.kind = .newline
    · obtain ⟨kept, thinned, fixes⟩ := ih (some token.kind) opened
      cases elided : isElided before (some (tokens.head?.getD last).kind) opened with
      | true =>
        refine ⟨kept, .drop newline thinned, fun rest => ?_⟩
        obtain ⟨after, same⟩ := fixes rest
        exact ⟨after, by rw [List.map_cons, List.cons_append, sift, if_pos newline, step, elided,
          if_pos rfl, same]⟩
      | false =>
        refine ⟨token :: kept, .keep thinned, fun rest => ?_⟩
        obtain ⟨after, same⟩ := fixes rest
        exact ⟨after, by rw [List.map_cons, List.cons_append, sift, if_pos newline, step, elided,
          if_neg Bool.false_ne_true, same]; rfl⟩
    · obtain ⟨kept, thinned, fixes⟩ := ih (some token.kind) (trackBracket token.kind opened)
      refine ⟨token :: kept, .keep thinned, fun rest => ?_⟩
      obtain ⟨after, same⟩ := fixes rest
      exact ⟨after, by rw [List.map_cons, List.cons_append, sift, if_neg newline, same]; rfl⟩

private theorem fixes_nest (indenters : List Kind) (before : Option Token) (levels : List Level)
    (tokens : List Token) (last : Token) :
    ∃ marked, written marked = written tokens ∧
      Fixes (nest indenters before levels) tokens last marked := by
  induction tokens generalizing before levels with
  | nil =>
    obtain ⟨between, shifted, -⟩ := marksBefore_step indenters before last levels
    refine ⟨(marksBefore indenters before last levels).1, ?_, fun rest => ⟨_, rfl⟩⟩
    have none := written_marks [] shifted.pseudo
    rwa [List.append_nil] at none
  | cons token tokens ih =>
    obtain ⟨between, shifted, -⟩ := marksBefore_step indenters before token levels
    obtain ⟨marked, same, fixes⟩ := ih (some token) (marksBefore indenters before token levels).2
    refine ⟨(marksBefore indenters before token levels).1 ++ token :: marked,
      written_marked token shifted.pseudo same, fun rest => ?_⟩
    obtain ⟨after, here⟩ := fixes rest
    refine ⟨after, ?_⟩
    rw [List.map_cons, List.cons_append, nest]
    dsimp only
    rw [here]
    simp

private theorem Stage.effect_fixes (indenters : List Kind) (stage : Stage) (tokens : List Token)
    {last : Token}
    (solid : last.isTrivia = false) (other : last.kind ≠ .newline) :
    ∃ front, Conserves [stage] tokens front ∧ Fixes (stage.effect indenters) tokens last front := by
  cases stage with
  | trivia => exact ⟨_, conserves_trivia tokens, fixes_strip tokens solid⟩
  | newlines =>
    obtain ⟨kept, thinned, fixes⟩ := fixes_sift none [] tokens other
    exact ⟨kept, conserves_newlines thinned, fixes.throughError⟩
  | blocks =>
    obtain ⟨marked, same, fixes⟩ := fixes_nest indenters none [] tokens last
    exact ⟨marked, conserves_blocks same, fixes.throughError⟩

/-- Whatever stages run over some tokens and what follows them, the stages put out the same up to the
last of the tokens, if that is neither trivia nor a newline: in front of it stand the tokens before it,
with pseudo tokens among them and without those that a stage dropped, and what follows does not matter,
be it tokens, an error or nothing. -/
theorem runStages_causal (options : Options) (stages : List Stage) (tokens : List Token) (last : Token)
    (solid : last.isTrivia = false) (other : last.kind ≠ .newline) :
    ∃ front : List Token, Conserves stages tokens front ∧
      ∀ rest : List Item, ∃ after : List Item,
        runStages options stages (tokens.map .ok ++ .ok last :: rest) =
          front.map .ok ++ .ok last :: after := by
  simp only [runStages_eq]
  induction stages generalizing tokens with
  | nil => exact ⟨tokens, .nil tokens, fun rest => ⟨rest, rfl⟩⟩
  | cons stage stages ih =>
    obtain ⟨middle, conserves, fixes⟩ := stage.effect_fixes options.indenters tokens solid other
    obtain ⟨front, later, continued⟩ := ih middle
    refine ⟨front, conserves.append later, fun rest => ?_⟩
    obtain ⟨between, first⟩ := fixes rest
    obtain ⟨after, second⟩ := continued between
    refine ⟨after, ?_⟩
    rw [← second, ← first]
    rfl

/-- A keyword that opens a block, a comment and a newline. -/
def opened : List Token :=
  [⟨.keyword .doWord, 0, ['d', 'o']⟩, ⟨.comment, 2, ['#']⟩, ⟨.newline, 3, ['\n', ' ']⟩]

/-- The first word of a block shows the same tokens before it whether the block ends there or in an
error. -/
theorem runStages_causal_opened :
    Token.isTrivia ⟨.identifier, 5, ['a']⟩ = false ∧ Kind.identifier ≠ .newline ∧
    ∃ front : List Token, Conserves [.trivia, .newlines, .blocks] opened front ∧
      (∃ after, runStages {} [.trivia, .newlines, .blocks]
        (opened.map .ok ++ [.ok ⟨.identifier, 5, ['a']⟩]) =
          front.map .ok ++ .ok ⟨.identifier, 5, ['a']⟩ :: after) ∧
      ∃ after, runStages {} [.trivia, .newlines, .blocks]
        (opened.map .ok ++ [.ok ⟨.identifier, 5, ['a']⟩, .error (.noRule 6)]) =
          front.map .ok ++ .ok ⟨.identifier, 5, ['a']⟩ :: after := by
  obtain ⟨front, conserves, same⟩ := runStages_causal {} [.trivia, .newlines, .blocks] opened
    ⟨.identifier, 5, ['a']⟩ rfl (by decide)
  exact ⟨rfl, by decide, front, conserves, same [], same [.error (.noRule 6)]⟩

end Layout

end Offside
