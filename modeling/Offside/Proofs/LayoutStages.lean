import Offside.Layout
import Offside.Proofs.TokenCursor

/-! The stages of layout as functions on lists. Each stage reads its supply through a view, but of the
view it uses only the token before the current one and the kind of the one after it. What a stage still
has to yield is told by what it holds: its view, what is open there, and what is pending. Every pull
takes the first of that, so that a stage yields a function of what it reads. -/

namespace Offside.Layout

open View (kindAt)

variable {σ : Type}

/-! ### Trivia -/

/-- Drops the trivia of a list of items. -/
def strip : List Item → List Item
  | [] => []
  | .error fault :: _ => [.error fault]
  | .ok token :: items => if token.isTrivia then strip items else .ok token :: strip items

private theorem strip_throughError (items : List Item) :
    strip (throughError items) = strip items := by
  induction items with
  | nil => rfl
  | cons item items ih =>
    cases item with
    | error fault => rfl
    | ok token => rw [throughError, strip, strip, ih]

theorem throughError_strip (items : List Item) : throughError (strip items) = strip items := by
  induction items with
  | nil => rfl
  | cons item items ih =>
    cases item with
    | error fault => rfl
    | ok token =>
      rw [strip]
      split
      · exact ih
      · rw [throughError, ih]

namespace Trivia

variable [Supply σ]

theorem next_step {stage : Trivia σ} (sound : stage.view.Sound) :
    stage.next.1 = (strip stage.view.pending).head? ∧ stage.next.2.view.Sound ∧
      strip stage.next.2.view.pending = (strip stage.view.pending).tail := by
  fun_induction next stage with
  | case1 stage last pull =>
    cases View.pulls_of_next sound pull with
    | dry pending left soundLast =>
      rw [pending, left]
      exact ⟨rfl, soundLast, rfl⟩
  | case2 stage fault later pull =>
    cases View.pulls_of_next sound pull with
    | fault pending left soundLater =>
      rw [pending, left]
      exact ⟨rfl, soundLater, rfl⟩
  | case3 stage token later pull trivia ih =>
    cases View.pulls_of_next sound pull with
    | token pending soundLater =>
      rw [pending, strip, if_pos trivia]
      exact ih soundLater
  | case4 stage token later pull solid =>
    cases View.pulls_of_next sound pull with
    | token pending soundLater =>
      rw [pending, strip, if_neg solid]
      exact ⟨rfl, soundLater, rfl⟩

theorem items_eq_left {stage : Trivia σ} (sound : stage.view.Sound) :
    Supply.items stage = strip stage.view.pending :=
  Supply.items_eq_of_step (fun stage : Trivia σ => stage.view.Sound)
    (fun stage => strip stage.view.pending) (fun _ sound => next_step sound) sound

/-- The stage yields what it reads, without the trivia. -/
theorem items_onto (inner : σ) (window : Nat) :
    Supply.items (onto inner window) = strip (Supply.items inner) := by
  have sound : (onto inner window).view.Sound := View.sound_onto inner window
  have run := items_eq_left sound
  change _ = strip (View.onto inner window).pending at run
  rw [View.pending_onto, strip_throughError] at run
  exact run

end Trivia

theorem dropTrivia_eq_strip (items : List Item) : dropTrivia items = strip items := by
  rw [dropTrivia, Trivia.items_onto, Supply.items_list]

/-! ### Newlines -/

/-- Drops the newlines that end nothing. `before` is the kind of the token before the items. -/
def sift (before : Option Kind) (opened : List Bracket) : List Item → List Item
  | [] => []
  | .error fault :: _ => [.error fault]
  | .ok token :: items =>
    if token.kind = .newline then
      if isElided before (kindAt items 0) opened then sift (some token.kind) opened items
      else .ok token :: sift (some token.kind) opened items
    else .ok token :: sift (some token.kind) (trackBracket token.kind opened) items

theorem throughError_sift (before : Option Kind) (opened : List Bracket) (items : List Item) :
    throughError (sift before opened items) = sift before opened items := by
  induction items generalizing before opened with
  | nil => rfl
  | cons item items ih =>
    cases item with
    | error fault => rfl
    | ok token =>
      rw [sift]
      split
      · split
        · exact ih _ _
        · rw [throughError, ih]
      · rw [throughError, ih]

/-- A token that was handed out is the last one, and the one before it is the one that was last. -/
theorem lookBack_after {view later : View σ} {token : Token} (sound : view.Sound)
    (handed : later.behind = view.behind.push token) :
    later.lookBack 0 = some token.kind ∧ later.lookBack 1 = view.lookBack 0 := by
  have room : 2 ≤ view.behind.capacity := sound.window
  simp only [View.lookBack, handed]
  rw [Recent.peek_push_zero token view.behind (by omega),
    Recent.peek_push_succ token view.behind 0 (by omega)]
  exact ⟨rfl, rfl⟩

namespace Newlines

variable [Supply σ]

/-- What the stage is still to yield. -/
def left (stage : Newlines σ) : List Item :=
  sift (stage.view.lookBack 0) stage.opened stage.view.pending

/-- After a newline the stage looks ahead, and then stands where it stood. -/
theorem left_lookAhead {view later : View σ} {token : Token} (sound : view.Sound)
    (soundLater : later.Sound) (handed : later.behind = view.behind.push token)
    (opened : List Bracket) :
    (later.lookAhead 0).1 = kindAt later.pending 0 ∧ (later.lookAhead 0).2.Sound ∧
      left ⟨(later.lookAhead 0).2, opened⟩ = sift (some token.kind) opened later.pending := by
  obtain ⟨soundFilled, pending, behind⟩ := View.fill_keeps 1 soundLater
  have last : (later.fill 1).lookBack 0 = some token.kind := by
    rw [← (lookBack_after sound handed).1]
    exact congrArg (fun behind : Recent Token => (behind.peek 0).map Token.kind) behind
  refine ⟨View.lookAhead_fst 0 soundLater, soundFilled, ?_⟩
  change sift ((later.fill 1).lookBack 0) opened (later.fill 1).pending = _
  rw [last, pending]

theorem next_step {stage : Newlines σ} (sound : stage.view.Sound) :
    stage.next.1 = stage.left.head? ∧ stage.next.2.view.Sound ∧
      stage.next.2.left = stage.left.tail := by
  fun_induction next stage with
  | case1 stage last pull =>
    cases View.pulls_of_next sound pull with
    | dry pending rest soundLast =>
      rw [left, left, pending, rest]
      exact ⟨rfl, soundLast, rfl⟩
  | case2 stage fault later pull =>
    cases View.pulls_of_next sound pull with
    | fault pending rest soundLater =>
      rw [left, left, pending, rest]
      exact ⟨rfl, soundLater, rfl⟩
  | case3 stage token later pull newline looked elided ih =>
    cases View.pulls_of_next sound pull with
    | token pending soundLater handed =>
      obtain ⟨ahead, soundFilled, same⟩ := left_lookAhead sound soundLater handed stage.opened
      rw [ahead, (lookBack_after sound handed).2] at elided
      have here : stage.left = sift (some token.kind) stage.opened later.pending := by
        rw [left, pending, sift, if_pos newline, if_pos elided]
      rw [here, ← same]
      exact ih soundFilled
  | case4 stage token later pull newline looked kept =>
    cases View.pulls_of_next sound pull with
    | token pending soundLater handed =>
      obtain ⟨ahead, soundFilled, same⟩ := left_lookAhead sound soundLater handed stage.opened
      rw [ahead, (lookBack_after sound handed).2] at kept
      have here : stage.left = .ok token :: sift (some token.kind) stage.opened later.pending := by
        rw [left, pending, sift, if_pos newline, if_neg kept]
      rw [here]
      exact ⟨rfl, soundFilled, same⟩
  | case5 stage token later pull other =>
    cases View.pulls_of_next sound pull with
    | token pending soundLater handed =>
      have here : stage.left =
          .ok token :: sift (some token.kind) (trackBracket token.kind stage.opened) later.pending := by
        rw [left, pending, sift, if_neg other]
      refine ⟨by rw [here]; rfl, soundLater, ?_⟩
      rw [here, left, (lookBack_after sound handed).1]
      rfl

theorem items_eq_left {stage : Newlines σ} (sound : stage.view.Sound) :
    Supply.items stage = stage.left :=
  Supply.items_eq_of_step (fun stage : Newlines σ => stage.view.Sound) left
    (fun _ sound => next_step sound) sound

/-- The stage yields what it reads, without the newlines that end nothing. -/
theorem items_onto (inner : σ) (window : Nat) :
    Supply.items (onto inner window) = sift none [] (throughError (Supply.items inner)) := by
  have sound : (onto inner window).view.Sound := View.sound_onto inner window
  have run := items_eq_left sound
  change _ = sift none [] (View.onto inner window).pending at run
  rw [View.pending_onto] at run
  exact run

end Newlines

theorem dropNewlines_eq_sift (window : Nat) (items : List Item) :
    dropNewlines window items = sift none [] (throughError items) := by
  rw [dropNewlines, Newlines.items_onto, Supply.items_list]

/-! ### Blocks -/

/-- What a token does to the open levels, and the pseudo tokens in front of it. They stand at the end
of the token before it. -/
def marksBefore (indenters : List Kind) (before : Option Token) (token : Token)
    (levels : List Level) : List Token × List Level :=
  let position := (before.getD token).stop
  match token.kind with
  | .opening .curly => ([], .brace :: levels)
  | .closing .curly =>
    if levels.contains .brace then
      let (closed, left) := closeBrace levels
      (List.replicate closed (.pseudo .dedent position), left)
    else ([], levels)
  | .newline =>
    let width := indentWidth token.lexeme
    if (before.map Token.kind).any indenters.contains then
      ([.pseudo .indent position], .indented width :: levels)
    else
      let (closed, left) := closeWider width levels
      (List.replicate closed (.pseudo .dedent position), left)
  | _ => ([], levels)

/-- Marks the blocks of a list of items. `before` is the token before them. -/
def nest (indenters : List Kind) (before : Option Token) (levels : List Level) :
    List Item → List Item
  | [] => List.replicate (openBlocks levels)
      (.ok (.pseudo .dedent ((before.map Token.stop).getD 0)))
  | .error fault :: _ => [.error fault]
  | .ok token :: items =>
    let (marks, left) := marksBefore indenters before token levels
    marks.map .ok ++ .ok token :: nest indenters (some token) left items

private theorem mark_eq_marksBefore (indenters : List Kind) {view later : View σ} {token : Token}
    (sound : view.Sound) (running : later.ended = false)
    (handed : later.behind = view.behind.push token) (levels : List Level) :
    mark indenters token later levels =
      marksBefore indenters (view.behind.peek 0) token levels := by
  have room : 2 ≤ view.behind.capacity := sound.window
  have position : later.lastPosition = ((view.behind.peek 0).getD token).stop := by
    simp only [View.lastPosition, View.isExhausted, running, Bool.false_and, Bool.false_eq_true,
      ↓reduceIte, handed]
    rw [Recent.peek_push_zero token view.behind (by omega),
      Recent.peek_push_succ token view.behind 0 (by omega)]
    cases view.behind.peek 0 <;> rfl
  have previous : later.lookBack 1 = (view.behind.peek 0).map Token.kind :=
    (lookBack_after sound handed).2
  simp only [mark, View.pseudoToken, Option.getD_none, position, previous]
  rfl

namespace Blocks

/-- The stage does not look ahead: it knows that its supply has ended only when it is finished. -/
structure Sound (stage : Blocks σ) : Prop where
  view : stage.view.Sound
  running : stage.finished = false → stage.view.ended = false

private theorem sound_ofView {view : View σ} (sound : view.Sound) (running : view.ended = false)
    (indenters : List Kind) (levels : List Level) : (ofView indenters view levels).Sound :=
  ⟨sound, fun _ => running⟩

theorem sound_of_finished {stage : Blocks σ} (view : stage.view.Sound)
    (done : stage.finished = true) : stage.Sound :=
  ⟨view, by simp [done]⟩

variable [Supply σ]

/-- What the stage is still to yield: the tokens that are pending, and then what it is still to read. -/
def left (stage : Blocks σ) : List Item :=
  stage.pending.items.map .ok ++
    if stage.finished then []
    else nest stage.indenters (stage.view.behind.peek 0) stage.levels stage.view.pending

theorem release_step {stage : Blocks σ}
    (ready : stage.pending.items ≠ [] ∨ stage.finished = true) :
    stage.release.1 = stage.left.head? ∧ stage.release.2.left = stage.left.tail := by
  obtain ⟨view, indenters, levels, ⟨pending⟩, finished⟩ := stage
  cases pending with
  | cons token pending => exact ⟨rfl, rfl⟩
  | nil =>
    rcases ready with waits | rfl
    · exact absurd rfl waits
    · exact ⟨rfl, rfl⟩

private theorem left_finish {stage : Blocks σ} {last : View σ} (empty : stage.pending.items = [])
    (running : stage.finished = false) (pending : stage.view.pending = [])
    (behind : last.behind = stage.view.behind) (exhausted : last.isExhausted = true) :
    (stage.finish last).left = stage.left := by
  have position : last.pseudoToken .dedent none =
      .pseudo .dedent (((stage.view.behind.peek 0).map Token.stop).getD 0) := by
    simp only [View.pseudoToken, View.lastPosition, exhausted, behind, ↓reduceIte, Option.getD_none,
      Option.or_self]
  simp [left, finish, empty, running, pending, nest, position]

private theorem left_take {stage : Blocks σ} {token : Token} {later : View σ} (sound : stage.Sound)
    (empty : stage.pending.items = []) (running : stage.finished = false)
    (pending : stage.view.pending = .ok token :: later.pending)
    (handed : later.behind = stage.view.behind.push token) (goesOn : later.ended = false) :
    (stage.take token later).left = stage.left := by
  have marked := mark_eq_marksBefore stage.indenters sound.view goesOn handed stage.levels
  have last : later.behind.peek 0 = some token := by
    rw [handed]
    exact Recent.peek_push_zero token _ (Nat.lt_of_lt_of_le Nat.two_pos sound.view.window)
  simp [left, take, empty, running, pending, nest, marked, last]

theorem next_step {stage : Blocks σ} (sound : stage.Sound) :
    stage.next.1 = stage.left.head? ∧ stage.next.2.Sound ∧ stage.next.2.left = stage.left.tail := by
  unfold next
  split
  · rename_i waits
    obtain ⟨first, rest⟩ := release_step (.inl (by simpa [Queue.isEmpty] using waits))
    exact ⟨first, ⟨sound.view, sound.running⟩, rest⟩
  · rename_i none
    have empty : stage.pending.items = [] := by simpa [Queue.isEmpty] using none
    split
    · rename_i done
      have nothing : stage.left = [] := by simp [left, empty, done]
      exact ⟨by rw [nothing]; rfl, sound, by rw [nothing]; rfl⟩
    · rename_i unfinished
      have running : stage.finished = false := Bool.eq_false_iff.mpr unfinished
      split
      · rename_i last pull
        cases View.pulls_of_next sound.view pull with
        | dry pending _ soundLast behind exhausted =>
          rw [← left_finish empty running pending behind exhausted]
          have done : (stage.finish last).finished = true := rfl
          obtain ⟨first, rest⟩ := release_step (.inr done)
          exact ⟨first, sound_of_finished soundLast rfl, rest⟩
      · rename_i fault later pull
        cases View.pulls_of_next sound.view pull with
        | fault pending _ soundLater =>
          have here : stage.left = [.error fault] := by simp [left, empty, running, pending, nest]
          rw [here]
          exact ⟨rfl, sound_of_finished soundLater rfl, by simp [left, empty]⟩
      · rename_i token later pull
        cases View.pulls_of_next sound.view pull with
        | token pending soundLater handed goesOn =>
          have ahead := goesOn (sound.running running)
          rw [← left_take sound empty running pending handed ahead]
          have waits : (stage.take token later).pending.items ≠ [] := by simp [take]
          obtain ⟨first, rest⟩ := release_step (.inl waits)
          exact ⟨first, ⟨soundLater, fun _ => ahead⟩, rest⟩

theorem items_eq_left {stage : Blocks σ} (sound : stage.Sound) : Supply.items stage = stage.left :=
  Supply.items_eq_of_step Sound left (fun _ sound => next_step sound) sound

/-- The stage yields what it reads, with the blocks marked. -/
theorem items_onto (inner : σ) (window : Nat) (indenters : List Kind) :
    Supply.items (onto inner window indenters) =
      nest indenters none [] (throughError (Supply.items inner)) := by
  have run := items_eq_left (sound_ofView (View.sound_onto inner window) rfl indenters [])
  change _ = nest indenters none [] (View.onto inner window).pending at run
  rw [View.pending_onto] at run
  exact run

end Blocks

theorem markBlocks_eq_nest (window : Nat) (indenters : List Kind) (items : List Item) :
    markBlocks window indenters items = nest indenters none [] (throughError items) := by
  have run := Blocks.items_onto items window indenters
  rw [Supply.items_list] at run
  exact run

/-! ### Stages one on another -/

theorem Flow.items_mk [Supply σ] (supply : σ) : Supply.items (Flow.mk supply) = Supply.items supply := by
  generalize listed : Supply.items supply = items
  induction items generalizing supply with
  | nil =>
    obtain ⟨first, -⟩ := Supply.items_next supply
    rw [listed] at first
    have step : Supply.next (Flow.mk supply) = (none, ⟨(Supply.next supply).2⟩) := Prod.ext first rfl
    exact Supply.items_of_next_none step
  | cons item items ih =>
    obtain ⟨first, rest⟩ := Supply.items_next supply
    rw [listed] at first rest
    have step : Supply.next (Flow.mk supply) = (some item, ⟨(Supply.next supply).2⟩) :=
      Prod.ext first rfl
    rw [Supply.items_of_next_some step, ih _ rest]

/-- What a stage makes of the items that it reads. Its window makes no difference. -/
def Stage.effect (indenters : List Kind) : Stage → List Item → List Item
  | trivia, items => strip items
  | newlines, items => sift none [] (throughError items)
  | blocks, items => nest indenters none [] (throughError items)

theorem Stage.items_onto (options : Options) (stage : Stage) (flow : Flow) :
    Supply.items (stage.onto options flow) = stage.effect options.indenters (Supply.items flow) := by
  have same : Supply.items flow = Supply.items flow.state := Flow.items_mk flow.state
  rw [same]
  cases stage with
  | trivia => rw [onto, Flow.items_mk, Trivia.items_onto, effect]
  | newlines => rw [onto, Flow.items_mk, Newlines.items_onto, effect]
  | blocks => rw [onto, Flow.items_mk, Blocks.items_onto, effect]

private theorem stack_cons (options : Options) (stage : Stage) (stages : List Stage) (flow : Flow) :
    stack options (stage :: stages) flow = stack options stages (stage.onto options flow) := rfl

/-- Stages that are set one on another yield what they make of the items one after another. -/
theorem items_stack (options : Options) (stages : List Stage) (flow : Flow) :
    Supply.items (stack options stages flow) =
      stages.foldl (fun items stage => stage.effect options.indenters items) (Supply.items flow) := by
  induction stages generalizing flow with
  | nil => rfl
  | cons stage stages ih => rw [stack_cons, ih, stage.items_onto, List.foldl_cons]

theorem runStages_eq (options : Options) (stages : List Stage) (items : List Item) :
    runStages options stages items =
      stages.foldl (fun items stage => stage.effect options.indenters items) items := by
  rw [runStages, items_stack, Flow.items_mk, Supply.items_list]

theorem items_stack_eq_runStages (options : Options) (stages : List Stage) (flow : Flow) :
    Supply.items (stack options stages flow) = runStages options stages (Supply.items flow) := by
  rw [items_stack, runStages_eq]

theorem items_eq_nest (options : Options) (source : Source) (offset : Nat) :
    items options source offset =
      nest options.indenters none [] (sift none [] (strip (Lexer.ofSource source offset).items)) := by
  rw [items, LaidOut.ofSource, Blocks.items_onto, Newlines.items_onto, Trivia.items_onto,
    throughError_strip, throughError_sift]
  rfl

theorem items_eq_runStages (options : Options) (source : Source) (offset : Nat) :
    items options source offset =
      runStages options [.trivia, .newlines, .blocks] (Lexer.ofSource source offset).items := by
  rw [items_eq_nest, runStages_eq, ← throughError_sift, ← throughError_strip]
  rfl

end Offside.Layout
