import Offside.Proofs.BlockBalance

/-! Which blocks a newline closes. A newline that opens no block closes the innermost blocks as long
as they are wider than it. A wider block further out stays open when one that is no wider stands
inside it, and such a block can be opened, since the line after a keyword may have any width. Where
no block is opened narrower than one around it, every newline closes all that are wider. -/

namespace Offside.Layout

/-- The widths of the blocks that are open above the innermost brace, innermost first. -/
def openWidths : List Level → List Nat
  | .indented width :: outer => width :: openWidths outer
  | _ => []

/-- The stage reads tokens one after the other, from a view and the levels that are open there. -/
inductive ReadsOn {σ : Type} [Supply σ] (indenters : List Kind) :
    View σ → List Level → List Token → View σ → List Level → Prop where
  | start : ReadsOn indenters view levels [] view levels
  | next (reads : ReadsOn indenters view levels tokens middle between)
      (step : middle.next = (some (.ok token), later)) :
      ReadsOn indenters view levels (tokens ++ [token]) later (mark indenters token later between).2

/-- The stage reads a newline of some width: after which kind of token, and which levels are open
before and after it. -/
structure ReadsNewline (window : Nat) (indenters : List Kind) (items : List Item)
    (last : Option Kind) (width : Nat) (levels left : List Level) : Prop where
  run : ∃ tokens view newline later,
    ReadsOn indenters (View.onto items window) [] tokens view levels ∧
    view.next = (some (.ok newline), later) ∧ newline.kind = .newline ∧
    indentWidth newline.lexeme = width ∧ tokens.getLast?.map Token.kind = last ∧
    (mark indenters newline later levels).2 = left

/-- After every newline that opens no block, no open block above the innermost brace is wider. -/
def ClosesWider (window : Nat) (indenters : List Kind) (items : List Item) : Prop :=
  ∀ last width levels left, ReadsNewline window indenters items last width levels left →
    (∀ kind ∈ last, kind ∉ indenters) → ∀ block ∈ openWidths left, block ≤ width

/-- Somewhere a newline that opens no block is narrower than an open block, but not narrower than
one inside it. -/
def Straddled (window : Nat) (indenters : List Kind) (items : List Item) : Prop :=
  ∃ last width levels left, ReadsNewline window indenters items last width levels left ∧
    (∀ kind ∈ last, kind ∉ indenters) ∧
    ∃ inner outer, [inner, outer].Sublist (openWidths levels) ∧ inner ≤ width ∧ width < outer

/-- No block is opened narrower than one that is open around it. -/
def OpensWider (window : Nat) (indenters : List Kind) (items : List Item) : Prop :=
  ∀ last width levels left, ReadsNewline window indenters items last width levels left →
    (∃ kind ∈ last, kind ∈ indenters) → ∀ block ∈ openWidths levels, block ≤ width

private theorem openWidths_closeWider (width : Nat) (levels : List Level) :
    openWidths (closeWider width levels).2 =
      (openWidths levels).dropWhile fun block => width < block := by
  induction levels with
  | nil => rfl
  | cons level outer ih =>
    cases level with
    | brace => rfl
    | indented inside =>
      rw [closeWider, openWidths, List.dropWhile_cons]
      by_cases wider : width < inside
      · simp [wider, ih]
      · simp [wider, openWidths]

/-- The blocks that stay open are those from the first one on that is not wider. -/
theorem dropWhile_le_iff (width : Nat) (widths : List Nat) :
    (∀ block ∈ widths.dropWhile fun block => width < block, block ≤ width) ↔
      ∀ inner outer, [inner, outer].Sublist widths → inner ≤ width → outer ≤ width := by
  induction widths with
  | nil => simp
  | cons first widths ih =>
    rw [List.dropWhile_cons]
    by_cases wider : width < first
    · rw [if_pos (by simpa using wider), ih]
      constructor
      · intro all inner outer among narrow
        cases among with
        | cons _ rest => exact all inner outer rest narrow
        | cons_cons _ rest => omega
      · intro all inner outer among
        exact all inner outer (among.cons first)
    · rw [if_neg (by simpa using wider)]
      constructor
      · intro all inner outer among _
        exact all outer (among.subset (by simp))
      · intro all block member
        rcases List.mem_cons.mp member with rfl | rest
        · exact Nat.le_of_not_lt wider
        · exact all first block ((List.singleton_sublist.mpr rest).cons_cons first)
            (Nat.le_of_not_lt wider)

theorem handed_of_next {σ : Type} [Supply σ] {view later : View σ} {token : Token}
    (sound : view.Sound) (step : view.next = (some (.ok token), later)) :
    later.Sound ∧ later.behind = view.behind.push token ∧
      view.pending = .ok token :: later.pending := by
  cases View.pulls_of_next sound step with
  | token pending soundLater behind => exact ⟨soundLater, behind, pending⟩

section

variable {window : Nat} {indenters : List Kind} {items : List Item} {view later : View (List Item)}

/-- The view remembers the token that was read last. -/
theorem ReadsOn.lookBack
    (reads : ReadsOn indenters (View.onto items window) opened tokens view levels) :
    view.Sound ∧ view.lookBack 0 = tokens.getLast?.map Token.kind := by
  induction reads with
  | start => exact ⟨View.sound_onto items window, rfl⟩
  | next _ step ih =>
    obtain ⟨soundLater, handed, -⟩ := handed_of_next ih.1 step
    refine ⟨soundLater, ?_⟩
    rw [(lookBack_after ih.1 handed).1, List.getLast?_concat, Option.map_some]

/-- What the view is still to hand out comes after the tokens that were read. -/
theorem ReadsOn.pending
    (reads : ReadsOn indenters (View.onto items window) opened tokens view levels) :
    throughError items = tokens.map .ok ++ view.pending := by
  induction reads with
  | start => rw [View.pending_onto, Supply.items_list]; rfl
  | @next tokens middle between later token before step ih =>
    obtain ⟨-, -, waits⟩ := handed_of_next before.lookBack.1 step
    rw [ih, waits]
    simp

/-- Tokens that are pending come first. -/
private theorem Blocks.items_pending (view : View (List Item)) (levels : List Level)
    (tokens : List Token) :
    Supply.items (⟨view, indenters, levels, ⟨tokens⟩, false⟩ : Blocks (List Item)) =
      tokens.map .ok ++ Layout.markBlocksFrom indenters view levels := by
  induction tokens with
  | nil => rfl
  | cons token tokens ih =>
    have step : Supply.next (⟨view, indenters, levels, ⟨token :: tokens⟩, false⟩ : Blocks (List Item)) =
        (some (.ok token), ⟨view, indenters, levels, ⟨tokens⟩, false⟩) := rfl
    rw [Supply.items_of_next_some step, ih]
    rfl

private theorem markBlocksFrom_of_next (step : view.next = (some (.ok token), later))
    (levels : List Level) :
    Layout.markBlocksFrom indenters view levels = (mark indenters token later levels).1.map .ok ++
      .ok token :: Layout.markBlocksFrom indenters later (mark indenters token later levels).2 := by
  have taken : Supply.items (Blocks.ofView indenters view levels) =
      Supply.items ((Blocks.ofView indenters view levels).take token later) := by
    apply Supply.items_congr
    change Blocks.next _ = Blocks.next _
    have waits : ((Blocks.ofView indenters view levels).take token later).pending.isEmpty = false := by
      simp [Blocks.take, Queue.isEmpty]
    have pulls : (Blocks.ofView indenters view levels).next =
        ((Blocks.ofView indenters view levels).take token later).release := by
      have here : (Blocks.ofView indenters view levels).view.next = (some (.ok token), later) := step
      rw [Blocks.next, here]
      rfl
    rw [pulls, Blocks.next, waits]
    rfl
  rw [Layout.markBlocksFrom, taken, Blocks.take, Blocks.ofView, Blocks.items_pending]
  simp

/-- After reading, the stage goes on from where it is. -/
theorem ReadsOn.markBlocksFrom
    (reads : ReadsOn indenters before opened tokens view levels) :
    ∃ front, markBlocksFrom indenters before opened =
      front ++ markBlocksFrom indenters view levels := by
  induction reads with
  | start => exact ⟨[], rfl⟩
  | @next tokens middle between later token _ step ih =>
    obtain ⟨front, same⟩ := ih
    refine ⟨front ++ (mark indenters token later between).1.map .ok ++ [.ok token], ?_⟩
    rw [same, markBlocksFrom_of_next step]
    simp

/-- Every token of the stream is read in its turn. -/
private theorem exists_readsOn (part : tokens.map .ok <+: throughError items) :
    ∃ view levels, ReadsOn indenters (View.onto items window) [] tokens view levels := by
  induction tokens using List.reverseRecOn with
  | nil => exact ⟨_, _, .start⟩
  | append_singleton tokens token ih =>
    rw [List.map_append] at part
    obtain ⟨view, levels, reads⟩ := ih ((List.prefix_append _ _).trans part)
    obtain ⟨rest, split⟩ := part
    rw [reads.pending, List.append_assoc] at split
    have waits : view.pending = .ok token :: rest := (List.append_cancel_left split).symm
    obtain ⟨later, step, -⟩ := View.next_of_pending_ok reads.lookBack.1 waits
    exact ⟨later, _, reads.next step⟩

theorem ReadsOn.lookBack_next
    (reads : ReadsOn indenters (View.onto items window) opened tokens view levels)
    (step : view.next = (some (.ok token), later)) :
    later.lookBack 1 = tokens.getLast?.map Token.kind := by
  obtain ⟨-, handed, -⟩ := handed_of_next reads.lookBack.1 step
  rw [(lookBack_after reads.lookBack.1 handed).2, reads.lookBack.2]

end

/-- All that a token can do to the open levels. -/
private theorem mark_levels {σ : Type} (indenters : List Kind) (token : Token) (view : View σ)
    (levels : List Level) :
    (mark indenters token view levels).2 = .brace :: levels ∨
    (mark indenters token view levels).2 <:+ levels ∨
    (token.kind = .newline ∧ (∃ kind ∈ view.lookBack 1, kind ∈ indenters) ∧
      (mark indenters token view levels).2 = .indented (indentWidth token.lexeme) :: levels) := by
  unfold mark
  dsimp only
  split
  next => exact .inl rfl
  next =>
    refine .inr (.inl ?_)
    split
    next braced =>
      obtain ⟨widths, parts, -⟩ := closeBrace_spec (List.contains_iff_mem.mp braced)
      exact ⟨widths.map .indented ++ [.brace], by simpa using parts.symm⟩
    next => exact List.suffix_refl levels
  next newline =>
    split
    next opens => exact .inr (.inr ⟨newline, by simpa [Option.any_eq_true] using opens, rfl⟩)
    next =>
      obtain ⟨widths, parts, -⟩ := closeWider_spec (indentWidth token.lexeme) levels
      exact .inr (.inl ⟨widths.map .indented, parts.symm⟩)
  next => exact .inr (.inl (List.suffix_refl levels))

private theorem mark_newline {σ : Type} {token : Token} (newline : token.kind = .newline)
    {view : View σ}
    (plain : ∀ kind ∈ view.lookBack 1, kind ∉ indenters) (levels : List Level) :
    (mark indenters token view levels).2 = (closeWider (indentWidth token.lexeme) levels).2 := by
  have opensNothing : (view.lookBack 1).any indenters.contains = false := by
    rw [Option.any_eq_false]
    simpa using plain
  simp [mark, newline, opensNothing]

/-- Between two braces, a block is at least as wide as those around it. -/
def Rising : List Level → Prop
  | [] => True
  | .brace :: outer => Rising outer
  | .indented width :: outer => (∀ block ∈ openWidths outer, block ≤ width) ∧ Rising outer

theorem Rising.suffix (rising : Rising levels) (part : outer <:+ levels) : Rising outer := by
  induction levels with
  | nil => rwa [List.suffix_nil.mp part]
  | cons level levels ih =>
    rcases List.suffix_cons_iff.mp part with rfl | further
    · exact rising
    · cases level with
      | brace => exact ih rising further
      | indented width => exact ih rising.2 further

private theorem Rising.pairwise (rising : Rising levels) :
    (openWidths levels).Pairwise fun inner outer => outer ≤ inner := by
  induction levels with
  | nil => exact .nil
  | cons level outer ih =>
    cases level with
    | brace => exact .nil
    | indented width => exact .cons rising.1 (ih rising.2)

section

variable {window : Nat} {indenters : List Kind} {items : List Item} {view : View (List Item)}

/-- If no block is opened narrower than one around it, then no open block is narrower than one
around it. -/
theorem ReadsOn.rising (opens : OpensWider window indenters items)
    (reads : ReadsOn indenters (View.onto items window) [] tokens view levels) :
    Rising levels := by
  induction reads with
  | start => trivial
  | @next tokens middle between later token before step ih =>
    rcases mark_levels indenters token later between with same | part | ⟨newline, opening, same⟩
    · rw [same]
      exact ih
    · exact ih.suffix part
    · rw [same]
      rw [before.lookBack_next step] at opening
      refine ⟨?_, ih⟩
      exact opens _ _ between _ ⟨tokens, middle, token, later, before, step, newline, rfl, rfl, rfl⟩
        opening

/-- What a newline that opens no block leaves open above the innermost brace. -/
theorem ReadsNewline.openWidths_left
    (reads : ReadsNewline window indenters items last width levels left)
    (plain : ∀ kind ∈ last, kind ∉ indenters) :
    openWidths left = (openWidths levels).dropWhile fun block => width < block := by
  obtain ⟨tokens, view, newline, later, run, step, kind, rfl, rfl, rfl⟩ := reads.run
  rw [← run.lookBack_next step] at plain
  rw [mark_newline kind plain, openWidths_closeWider]

theorem ReadsNewline.rising (opens : OpensWider window indenters items)
    (reads : ReadsNewline window indenters items last width levels left) : Rising levels := by
  obtain ⟨tokens, view, newline, later, run, -⟩ := reads.run
  exact run.rising opens

end

/-- A newline that is narrower than an open block, and not narrower than one inside it, is all that
can leave a wider block open. -/
theorem closesWider_iff {window : Nat} {indenters : List Kind} {items : List Item} :
    ClosesWider window indenters items ↔ ¬ Straddled window indenters items := by
  constructor
  · rintro closes ⟨last, width, levels, left, reads, plain, inner, outer, among, narrow, wide⟩
    have all := closes last width levels left reads plain
    rw [reads.openWidths_left plain, dropWhile_le_iff] at all
    exact absurd (all inner outer among narrow) (Nat.not_le_of_lt wide)
  · intro none last width levels left reads plain
    rw [reads.openWidths_left plain, dropWhile_le_iff]
    intro inner outer among narrow
    by_contra wide
    exact none ⟨last, width, levels, left, reads, plain, inner, outer, among, narrow,
      Nat.lt_of_not_le wide⟩

/-- The stage reads the tokens of its stream in turn. Its newlines close all wider blocks above the
innermost brace exactly if none of them is narrower than an open block and not narrower than one
inside it. So they do if no block is opened narrower than one around it. -/
theorem wider_blocks_closed_iff (window : Nat) (indenters : List Kind) (items : List Item) :
    (∀ tokens : List Token, tokens.map .ok <+: throughError items ↔ ∃ view levels front,
      ReadsOn indenters (View.onto items window) [] tokens view levels ∧
        markBlocks window indenters items = front ++ markBlocksFrom indenters view levels) ∧
      (ClosesWider window indenters items ↔ ¬ Straddled window indenters items) ∧
      (OpensWider window indenters items → ClosesWider window indenters items) := by
  refine ⟨fun tokens => ⟨fun part => ?_, ?_⟩, closesWider_iff, fun opens => closesWider_iff.mpr ?_⟩
  · obtain ⟨view, levels, reads⟩ := exists_readsOn part
    obtain ⟨front, same⟩ := reads.markBlocksFrom
    exact ⟨view, levels, front, reads, same⟩
  · rintro ⟨view, levels, -, reads, -⟩
    exact ⟨view.pending, reads.pending.symm⟩
  · rintro ⟨last, width, levels, left, reads, -, inner, outer, among, narrow, wide⟩
    have ordered := (reads.rising opens).pairwise.sublist among
    have nested : outer ≤ inner := by simpa using ordered
    omega

/-- A block of width four, a block of width two inside it, and a line of width three. -/
def stepped : List Item :=
  [.ok ⟨.keyword .doWord, 0, ['d', 'o']⟩, .ok ⟨.newline, 2, ['\n', ' ', ' ', ' ', ' ']⟩,
    .ok ⟨.keyword .doWord, 7, ['d', 'o']⟩, .ok ⟨.newline, 9, ['\n', ' ', ' ']⟩,
    .ok ⟨.identifier, 12, ['a']⟩, .ok ⟨.newline, 13, ['\n', ' ', ' ', ' ']⟩,
    .ok ⟨.identifier, 17, ['b']⟩]

/-- The block of width four stays open at the line of width three. -/
theorem stepped_leaves_wider : ¬ ClosesWider 10 [.keyword .doWord] stepped := by
  have reads : ReadsNewline 10 [.keyword .doWord] stepped (some .identifier) 3
      [.indented 2, .indented 4] [.indented 2, .indented 4] := by
    have begun : ReadsOn [.keyword .doWord] (View.onto stepped 10) [] [] _ _ := .start
    have run := ((((begun.next rfl).next rfl).next rfl).next rfl).next rfl
    exact ⟨_, _, _, _, run, rfl, rfl, rfl, rfl, rfl⟩
  intro closes
  have bounded := closes _ _ _ _ reads (by simp) 4 (by simp [openWidths])
  omega

end Offside.Layout
