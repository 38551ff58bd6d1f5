import Mathlib.Data.List.Infix
import Offside.Proofs.LayoutStages

/-! Blocks are balanced. A depth that opening marks raise and closing marks lower never falls below
zero, and the levels that are open tell how deep the blocks are: over the whole stream, and above any
of the open braces. -/

namespace Offside.Layout

def isKind (kind : Kind) (item : Item) : Bool := item.toOption.any fun token => token.kind == kind

@[simp] theorem isKind_ok (kind : Kind) (token : Token) :
    isKind kind (.ok token) = true ↔ token.kind = kind := by
  simp [isKind, Except.toOption]

@[simp] theorem isKind_error (kind : Kind) (fault : LexError) :
    isKind kind (.error fault) = false := rfl

/-- In every front of the items no more marks close than open, and in all as many. -/
structure Balanced (opening closing : Kind) (items : List Item) : Prop where
  fronts : ∀ front, front <+: items →
    front.countP (isKind closing) ≤ front.countP (isKind opening)
  total : items.countP (isKind closing) = items.countP (isKind opening)

/-- The depth after some items, if it never fell below zero. -/
def depthAfter (opening closing : Kind) (depth : Nat) : List Item → Option Nat
  | [] => some depth
  | item :: items =>
    if isKind opening item then depthAfter opening closing (depth + 1) items
    else if isKind closing item then
      match depth with
      | 0 => none
      | less + 1 => depthAfter opening closing less items
    else depthAfter opening closing depth items

section

variable {opening closing : Kind} {token : Token}

theorem depthAfter_opening (depth : Nat) (items : List Item) (opens : token.kind = opening) :
    depthAfter opening closing depth (.ok token :: items) =
      depthAfter opening closing (depth + 1) items := by
  simp [depthAfter, opens]

theorem depthAfter_closing (different : closing ≠ opening) (depth : Nat) (items : List Item)
    (closes : token.kind = closing) :
    depthAfter opening closing (depth + 1) (.ok token :: items) =
      depthAfter opening closing depth items := by
  simp [depthAfter, closes, different]

theorem depthAfter_neither {item : Item} (depth : Nat) (items : List Item)
    (neither : isKind opening item = false ∧ isKind closing item = false) :
    depthAfter opening closing depth (item :: items) = depthAfter opening closing depth items := by
  simp [depthAfter, neither.1, neither.2]

private theorem depthAfter_append_neither {front : List Item} (depth : Nat) (items : List Item)
    (neither : ∀ item ∈ front, isKind opening item = false ∧ isKind closing item = false) :
    depthAfter opening closing depth (front ++ items) = depthAfter opening closing depth items := by
  induction front with
  | nil => rfl
  | cons item front ih =>
    rw [List.cons_append, depthAfter_neither depth _ (neither item (List.mem_cons_self ..))]
    exact ih fun other member => neither other (List.mem_cons_of_mem item member)

/-- As many closing marks as given lower the depth by their number. -/
theorem depthAfter_replicate (different : closing ≠ opening) (count depth : Nat) (items : List Item)
    (closes : token.kind = closing) :
    depthAfter opening closing (count + depth) (List.replicate count (.ok token) ++ items) =
      depthAfter opening closing depth items := by
  induction count with
  | zero => rw [Nat.zero_add]; rfl
  | succ count ih =>
    rw [List.replicate_succ, List.cons_append, Nat.add_right_comm,
      depthAfter_closing different _ _ closes]
    exact ih

/-- The depth that is reached tells how the marks are counted. -/
theorem depthAfter_eq_some_iff (different : closing ≠ opening) (depth final : Nat)
    (items : List Item) :
    depthAfter opening closing depth items = some final ↔
      (∀ front, front <+: items →
        front.countP (isKind closing) ≤ depth + front.countP (isKind opening)) ∧
      final + items.countP (isKind closing) = depth + items.countP (isKind opening) := by
  have exclusive (item : Item) (opens : isKind opening item = true) :
      isKind closing item = false := by
    cases item with
    | error fault => rfl
    | ok token =>
      rw [isKind_ok] at opens
      simpa [isKind, Except.toOption, opens] using Ne.symm different
  induction items generalizing depth with
  | nil =>
    simp only [depthAfter, List.prefix_nil, forall_eq, List.countP_nil, Option.some.injEq]
    omega
  | cons item items ih =>
    -- A front of the items is empty, or starts with the first of them.
    have fronts (bound : Nat → Nat → Prop) (start : bound 0 0) :
        (∀ front, front <+: item :: items →
          bound (front.countP (isKind closing)) (front.countP (isKind opening))) ↔
        ∀ front, front <+: items →
          bound ((item :: front).countP (isKind closing)) ((item :: front).countP (isKind opening)) := by
      constructor
      · intro all front before
        exact all (item :: front) (List.cons_prefix_cons.mpr ⟨rfl, before⟩)
      · intro all front before
        rcases List.prefix_cons_iff.mp before with rfl | ⟨tail, rfl, shorter⟩
        · exact start
        · exact all tail shorter
    rw [fronts (fun closed opened => closed ≤ depth + opened) (Nat.zero_le _)]
    cases opens : isKind opening item with
    | true =>
      have apart := exclusive item opens
      simp only [depthAfter, opens, ↓reduceIte, ih, List.countP_cons_of_pos, apart,
        Bool.false_eq_true, not_false_eq_true, List.countP_cons_of_neg]
      refine and_congr (forall₂_congr fun front _ => ?_) ?_ <;> omega
    | false =>
      cases closes : isKind closing item with
      | true =>
        simp only [depthAfter, opens, closes, Bool.false_eq_true, ↓reduceIte, not_false_eq_true,
          List.countP_cons_of_neg, List.countP_cons_of_pos]
        cases depth with
        | zero =>
          refine iff_of_false (by simp) fun bounds => ?_
          have empty := bounds.1 [] List.nil_prefix
          simp at empty
        | succ less =>
          simp only [ih]
          refine and_congr (forall₂_congr fun front _ => ?_) ?_ <;> omega
      | false =>
        simp only [depthAfter, opens, closes, Bool.false_eq_true, ↓reduceIte, ih,
          not_false_eq_true, List.countP_cons_of_neg]

theorem balanced_iff (different : closing ≠ opening) (items : List Item) :
    Balanced opening closing items ↔ depthAfter opening closing 0 items = some 0 := by
  rw [depthAfter_eq_some_iff different]
  simp only [Nat.zero_add]
  exact ⟨fun balanced => ⟨balanced.fronts, balanced.total⟩, fun ⟨fronts, total⟩ => ⟨fronts, total⟩⟩

end

/-- The blocks among the levels above the brace that has `depth` open braces inside it. -/
def blocksAbove : Nat → List Level → Nat
  | _, [] => 0
  | depth, .indented _ :: outer => blocksAbove depth outer + 1
  | 0, .brace :: _ => 0
  | depth + 1, .brace :: outer => blocksAbove depth outer

@[simp] theorem openBlocks_brace (levels : List Level) :
    openBlocks (.brace :: levels) = openBlocks levels := by simp [openBlocks]

private theorem openBlocks_indented (width : Nat) (levels : List Level) :
    openBlocks (.indented width :: levels) = openBlocks levels + 1 := by simp [openBlocks]

theorem closeWider_spec (width : Nat) (levels : List Level) :
    ∃ widths : List Nat, levels = widths.map .indented ++ (closeWider width levels).2 ∧
      (closeWider width levels).1 = widths.length := by
  induction levels with
  | nil => exact ⟨[], rfl, rfl⟩
  | cons level outer ih =>
    cases level with
    | brace => exact ⟨[], rfl, rfl⟩
    | indented inside =>
      rw [closeWider]
      split
      · obtain ⟨widths, split, closed⟩ := ih
        exact ⟨inside :: widths, by rw [List.map_cons, List.cons_append, ← split], by simp [closed]⟩
      · exact ⟨[], rfl, rfl⟩

theorem closeBrace_spec {levels : List Level} (braced : .brace ∈ levels) :
    ∃ widths : List Nat, levels = widths.map .indented ++ .brace :: (closeBrace levels).2 ∧
      (closeBrace levels).1 = widths.length := by
  induction levels with
  | nil => simp at braced
  | cons level outer ih =>
    cases level with
    | brace => exact ⟨[], rfl, rfl⟩
    | indented inside =>
      have further : Level.brace ∈ outer := by simpa using braced
      obtain ⟨widths, split, closed⟩ := ih further
      exact ⟨inside :: widths, by rw [closeBrace, List.map_cons, List.cons_append, ← split],
        by simp [closeBrace, closed]⟩

/-- What the pseudo tokens in front of a token do to the open levels. -/
inductive Shifted : List Level → List Token → List Level → Prop where
  | opened (position width : Nat) :
      Shifted levels [.pseudo .indent position] (.indented width :: levels)
  | closed (position : Nat) (widths : List Nat) :
      Shifted (widths.map .indented ++ outer)
        (List.replicate widths.length (.pseudo .dedent position)) outer

/-- What a token itself does to the open levels. -/
inductive Passed (kind : Kind) : List Level → List Level → Prop where
  | openBrace (opens : kind = .opening .curly) : Passed kind levels (.brace :: levels)
  | closeBrace (closes : kind = .closing .curly) : Passed kind (.brace :: outer) outer
  | strayBrace (closes : kind = .closing .curly) (unopened : .brace ∉ levels) :
      Passed kind levels levels
  | other (neither : kind ≠ .opening .curly ∧ kind ≠ .closing .curly) : Passed kind levels levels

/-- All that a token can do, with the pseudo tokens in front of it. -/
theorem marksBefore_step (indenters : List Kind) (before : Option Token) (token : Token)
    (levels : List Level) :
    ∃ between, Shifted levels (marksBefore indenters before token levels).1 between ∧
      Passed token.kind between (marksBefore indenters before token levels).2 := by
  have still : Shifted levels [] levels := .closed 0 []
  unfold marksBefore
  dsimp only
  split
  next opens => exact ⟨levels, still, .openBrace opens⟩
  next closes =>
    by_cases braced : Level.brace ∈ levels
    · obtain ⟨widths, split, closed⟩ := closeBrace_spec braced
      rw [if_pos (List.contains_iff_mem.mpr braced)]
      dsimp only
      generalize closeBrace levels = result at split closed
      rw [split, closed]
      exact ⟨_, .closed _ widths, .closeBrace closes⟩
    · rw [if_neg (by simpa using braced)]
      exact ⟨levels, still, .strayBrace closes braced⟩
  next newline =>
    have neither : token.kind ≠ .opening .curly ∧ token.kind ≠ .closing .curly := by simp [newline]
    split
    · exact ⟨_, .opened _ _, .other neither⟩
    · obtain ⟨widths, split, closed⟩ := closeWider_spec (indentWidth token.lexeme) levels
      dsimp only
      generalize closeWider (indentWidth token.lexeme) levels = result at split closed
      rw [split, closed]
      exact ⟨_, .closed _ widths, .other neither⟩
  next notOpening notClosing _ => exact ⟨levels, still, .other ⟨notOpening, notClosing⟩⟩

namespace Shifted

variable {levels between : List Level} {marks : List Token}

theorem pseudo (shifted : Shifted levels marks between) :
    ∀ mark ∈ marks, mark.kind = .indent ∨ mark.kind = .dedent := by
  intro mark member
  cases shifted with
  | opened position width => exact .inl (List.mem_singleton.mp member ▸ rfl)
  | closed position widths => exact .inr ((List.mem_replicate.mp member).2 ▸ rfl)

private theorem count_brace (shifted : Shifted levels marks between) :
    between.count .brace = levels.count .brace := by
  cases shifted with
  | opened position width => simp
  | closed position widths =>
    have none : (widths.map Level.indented).count .brace = 0 := by simp [List.count_eq_zero]
    rw [List.count_append, none, Nat.zero_add]

/-- Whatever counts blocks, of all levels or of some, follows the marks. -/
theorem depthAfter (shifted : Shifted levels marks between) {blocks : List Level → Nat}
    (counts : ∀ width outer, blocks (.indented width :: outer) = blocks outer + 1)
    (items : List Item) :
    depthAfter .indent .dedent (blocks levels) (marks.map .ok ++ items) =
      Layout.depthAfter .indent .dedent (blocks between) items := by
  cases shifted with
  | opened position width =>
    rw [counts]
    exact depthAfter_opening _ items rfl
  | closed position widths =>
    have total : blocks (widths.map .indented ++ between) = widths.length + blocks between := by
      induction widths with
      | nil => simp
      | cons width widths ih =>
        rw [List.map_cons, List.cons_append, counts, ih, List.length_cons]
        omega
    rw [total, List.map_replicate]
    exact depthAfter_replicate (by decide) widths.length _ items rfl

end Shifted

/-- Marks without a kind are a front of every part that ends at a token of that kind. -/
theorem split_after_marks {marks : List Token} {target : Token} {rest part after : List Item}
    (without : ∀ mark ∈ marks, mark.kind ≠ target.kind)
    (split : marks.map .ok ++ rest = part ++ .ok target :: after) :
    ∃ tail, part = marks.map .ok ++ tail ∧ rest = tail ++ .ok target :: after := by
  induction marks generalizing part with
  | nil => exact ⟨part, rfl, split⟩
  | cons front marks ih =>
    cases part with
    | nil =>
      obtain ⟨same, -⟩ := List.cons.inj split
      cases same
      exact absurd rfl (without target (List.mem_cons_self ..))
    | cons item part =>
      obtain ⟨rfl, later⟩ := List.cons.inj split
      have others : ∀ mark ∈ marks, mark.kind ≠ target.kind :=
        fun other member => without other (List.mem_cons_of_mem front member)
      obtain ⟨tail, rfl, left⟩ := ih others later
      exact ⟨tail, rfl, left⟩

/-- No item of a stream is a pseudo token. -/
def Unmarked (items : List Item) : Prop :=
  ∀ token, .ok token ∈ items → token.kind ≠ .indent ∧ token.kind ≠ .dedent

section

variable {token : Token} {item : Item} {items : List Item}

theorem Unmarked.tail (unmarked : Unmarked (item :: items)) : Unmarked items :=
  fun token member => unmarked token (List.mem_cons_of_mem item member)

theorem Unmarked.neither (unmarked : Unmarked (.ok token :: items)) :
    isKind .indent (.ok token) = false ∧ isKind .dedent (.ok token) = false := by
  obtain ⟨noIndent, noDedent⟩ := unmarked token (List.mem_cons_self ..)
  exact ⟨by simpa [isKind, Except.toOption] using noIndent,
    by simpa [isKind, Except.toOption] using noDedent⟩

end

/-- From the blocks that are open the depth never falls below zero, and without an error all of them
close. -/
private theorem depthAfter_nest (indenters : List Kind) {items : List Item}
    (unmarked : Unmarked items)
    (before : Option Token) (levels : List Level) :
    ∃ final, depthAfter .indent .dedent (openBlocks levels) (nest indenters before levels items) =
        some final ∧ ((∀ fault, .error fault ∉ items) → final = 0) := by
  induction items generalizing before levels with
  | nil =>
    refine ⟨0, ?_, fun _ => rfl⟩
    rw [nest, ← List.append_nil (List.replicate _ _)]
    exact depthAfter_replicate (by decide) (openBlocks levels) 0 [] rfl
  | cons item items ih =>
    cases item with
    | error fault =>
      refine ⟨openBlocks levels, by simp [nest, depthAfter], fun correct => ?_⟩
      exact absurd (List.mem_cons_self ..) (correct fault)
    | ok token =>
      obtain ⟨between, shifted, passed⟩ := marksBefore_step indenters before token levels
      obtain ⟨final, reached, closed⟩ := ih unmarked.tail (some token)
        (marksBefore indenters before token levels).2
      refine ⟨final, ?_, fun correct => closed fun fault member => ?_⟩
      · have same : openBlocks between =
            openBlocks (marksBefore indenters before token levels).2 := by
          generalize (marksBefore indenters before token levels).2 = left at passed
          cases passed <;> simp
        rw [nest]
        dsimp only
        rw [shifted.depthAfter openBlocks_indented, depthAfter_neither _ _ unmarked.neither, same]
        exact reached
      · exact correct fault (List.mem_cons_of_mem _ member)

/-- The blocks above an open brace close before the brace does. -/
private theorem depthAfter_toBrace (indenters : List Kind) {items : List Item}
    (unmarked : Unmarked items)
    (before : Option Token) (levels : List Level) (depth : Nat) (inside : List Item)
    {closing : Token} (closes : closing.kind = .closing .curly)
    (opened : depth < levels.count .brace)
    (split : nest indenters before levels items = inside ++ .ok closing :: after)
    (matched : depthAfter (.opening .curly) (.closing .curly) depth inside = some 0) :
    depthAfter .indent .dedent (blocksAbove depth levels) inside = some 0 := by
  have found : Except.ok closing ∈ nest indenters before levels items := by
    rw [split]
    exact List.mem_append_right _ (List.mem_cons_self ..)
  induction items generalizing before levels depth inside with
  | nil =>
    cases (List.mem_replicate.mp found).2
    cases closes
  | cons item items ih =>
    cases item with
    | error fault => simp [nest] at found
    | ok token =>
      obtain ⟨between, shifted, passed⟩ := marksBefore_step indenters before token levels
      rw [nest] at split
      dsimp only at split
      generalize (marksBefore indenters before token levels).1 = marks at split shifted
      generalize (marksBefore indenters before token levels).2 = left at split passed
      have braceless : ∀ mark ∈ marks, mark.kind ≠ .opening .curly ∧ mark.kind ≠ .closing .curly := by
        intro mark member
        rcases shifted.pseudo mark member with same | same <;> simp [same]
      obtain ⟨tail, rfl, rest⟩ :=
        split_after_marks (fun mark member => closes ▸ (braceless mark member).2) split
      -- The marks are not braces, and change the number of blocks as the levels say.
      have unbraced : ∀ item ∈ marks.map Except.ok,
          isKind (.opening .curly) item = false ∧ isKind (.closing .curly) item = false := by
        intro item member
        obtain ⟨mark, present, rfl⟩ := List.mem_map.mp member
        simpa [isKind, Except.toOption] using braceless mark present
      rw [depthAfter_append_neither depth tail unbraced] at matched
      rw [shifted.depthAfter fun _ _ => rfl]
      rw [← shifted.count_brace] at opened
      have braced : Level.brace ∈ between := List.count_pos_iff.mp (Nat.zero_lt_of_lt opened)
      cases tail with
      | nil =>
        obtain ⟨same, -⟩ := List.cons.inj rest
        cases same
        cases matched
        cases passed with
        | openBrace opens => rw [closes] at opens; cases opens
        | closeBrace => rfl
        | strayBrace _ unopened => exact absurd braced unopened
        | other neither => exact absurd closes neither.2
      | cons item tail =>
        obtain ⟨same, following⟩ := List.cons.inj rest
        cases same
        have later (levels : List Level) (depth : Nat) (opened : depth < levels.count .brace)
            (rest : nest indenters (some token) levels items = tail ++ .ok closing :: after)
            (matched : depthAfter (.opening .curly) (.closing .curly) depth tail = some 0) :
            depthAfter .indent .dedent (blocksAbove depth levels) tail = some 0 := by
          refine ih unmarked.tail (some token) levels depth tail opened rest matched ?_
          rw [rest]
          exact List.mem_append_right _ (List.mem_cons_self ..)
        rw [depthAfter_neither _ _ unmarked.neither]
        cases passed with
        | openBrace opens =>
          rw [depthAfter_opening _ _ opens] at matched
          exact later (.brace :: between) (depth + 1) (by simpa using opened) following matched
        | closeBrace closesToo =>
          cases depth with
          | zero => simp [depthAfter, isKind, Except.toOption, closesToo] at matched
          | succ depth =>
            rw [depthAfter_closing (by decide) _ _ closesToo] at matched
            exact later left depth (by simpa using opened) following matched
        | strayBrace _ unopened => exact absurd braced unopened
        | other neither =>
          rw [depthAfter_neither _ _ (by simpa [isKind, Except.toOption] using neither)] at matched
          exact later between depth opened following matched

/-- Between a brace and the one that closes it the blocks are balanced. -/
private theorem depthAfter_braces (indenters : List Kind) {items : List Item}
    (unmarked : Unmarked items)
    (before : Option Token) (levels : List Level) (front inside : List Item)
    {opening closing : Token} (opens : opening.kind = .opening .curly)
    (closes : closing.kind = .closing .curly)
    (split : nest indenters before levels items =
      front ++ .ok opening :: (inside ++ .ok closing :: after))
    (matched : depthAfter (.opening .curly) (.closing .curly) 0 inside = some 0) :
    depthAfter .indent .dedent 0 inside = some 0 := by
  have found : Except.ok opening ∈ nest indenters before levels items := by
    rw [split]
    exact List.mem_append_right _ (List.mem_cons_self ..)
  induction items generalizing before levels front with
  | nil =>
    cases (List.mem_replicate.mp found).2
    cases opens
  | cons item items ih =>
    cases item with
    | error fault => simp [nest] at found
    | ok token =>
      obtain ⟨between, shifted, passed⟩ := marksBefore_step indenters before token levels
      rw [nest] at split
      dsimp only at split
      generalize (marksBefore indenters before token levels).1 = marks at split shifted
      generalize (marksBefore indenters before token levels).2 = left at split passed
      have braceless : ∀ mark ∈ marks, mark.kind ≠ opening.kind := by
        intro mark member
        rcases shifted.pseudo mark member with same | same <;> simp [same, opens]
      obtain ⟨tail, -, rest⟩ := split_after_marks braceless split
      cases tail with
      | nil =>
        obtain ⟨same, following⟩ := List.cons.inj rest
        cases same
        cases passed with
        | openBrace =>
          exact depthAfter_toBrace indenters unmarked.tail (some opening) (.brace :: between) 0 inside
            closes (by simp) following matched
        | closeBrace closesToo => rw [opens] at closesToo; cases closesToo
        | strayBrace closesToo => rw [opens] at closesToo; cases closesToo
        | other neither => exact absurd opens neither.1
      | cons item tail =>
        obtain ⟨-, following⟩ := List.cons.inj rest
        refine ih unmarked.tail (some token) left tail following ?_
        rw [following]
        exact List.mem_append_right _ (List.mem_cons_self ..)

/-- In every front of the marked stream no more blocks close than open, and all of them close unless
the stream ends in an error. Blocks are balanced between a brace and the brace that closes it, which
is the first one after which no brace is open that was opened in between. -/
theorem markBlocks_balanced (window : Nat) (indenters : List Kind) (items : List Item)
    (unmarked : ∀ token, .ok token ∈ items → token.kind ≠ .indent ∧ token.kind ≠ .dedent) :
    (∀ front, front <+: markBlocks window indenters items →
      front.countP (isKind .dedent) ≤ front.countP (isKind .indent)) ∧
    ((∀ fault, .error fault ∉ items) →
      (markBlocks window indenters items).countP (isKind .dedent) =
        (markBlocks window indenters items).countP (isKind .indent)) ∧
    ∀ front inside after opening closing,
      markBlocks window indenters items =
        front ++ .ok opening :: (inside ++ .ok closing :: after) →
      opening.kind = .opening .curly → closing.kind = .closing .curly →
      Balanced (.opening .curly) (.closing .curly) inside → Balanced .indent .dedent inside := by
  rw [markBlocks_eq_nest]
  have through : Unmarked (throughError items) :=
    fun token member => unmarked token (mem_of_mem_throughError member)
  obtain ⟨final, reached, closed⟩ := depthAfter_nest indenters through none []
  obtain ⟨fronts, total⟩ := (depthAfter_eq_some_iff (by decide) _ final _).mp reached
  simp only [openBlocks, List.filter_nil, List.length_nil, Nat.zero_add] at fronts total
  refine ⟨fronts, fun correct => ?_, ?_⟩
  · have none : final = 0 := closed fun fault member => correct fault (mem_of_mem_throughError member)
    rwa [none, Nat.zero_add] at total
  · intro front inside after opening closing split opens closes matched
    rw [balanced_iff (by decide)] at matched ⊢
    exact depthAfter_braces indenters through none [] front inside opens closes split matched

/-- A block with braces in it, a block inside the braces, and a brace that closes nothing. -/
def shielded : List Item :=
  [.ok ⟨.keyword .doWord, 0, ['d', 'o']⟩, .ok ⟨.newline, 2, ['\n', ' ', ' ']⟩,
    .ok ⟨.opening .curly, 5, ['\x7b']⟩, .ok ⟨.keyword .doWord, 6, ['d', 'o']⟩,
    .ok ⟨.newline, 8, ['\n', ' ']⟩, .ok ⟨.identifier, 10, ['a']⟩, .ok ⟨.closing .curly, 11, ['\x7d']⟩,
    .ok ⟨.closing .curly, 12, ['\x7d']⟩, .ok ⟨.newline, 13, ['\n']⟩, .ok ⟨.identifier, 14, ['b']⟩]

/-- The stream that `shielded` becomes, up to the first brace, inside the braces, and after them. -/
theorem markBlocks_shielded : markBlocks 2 [.keyword .doWord] shielded =
    [.ok ⟨.keyword .doWord, 0, ['d', 'o']⟩, .ok (.pseudo .indent 2),
      .ok ⟨.newline, 2, ['\n', ' ', ' ']⟩] ++ .ok ⟨.opening .curly, 5, ['\x7b']⟩ ::
    ([.ok ⟨.keyword .doWord, 6, ['d', 'o']⟩, .ok (.pseudo .indent 8), .ok ⟨.newline, 8, ['\n', ' ']⟩,
      .ok ⟨.identifier, 10, ['a']⟩, .ok (.pseudo .dedent 11)] ++ .ok ⟨.closing .curly, 11, ['\x7d']⟩ ::
    [.ok ⟨.closing .curly, 12, ['\x7d']⟩, .ok (.pseudo .dedent 13), .ok ⟨.newline, 13, ['\n']⟩,
      .ok ⟨.identifier, 14, ['b']⟩]) := by
  rw [markBlocks_eq_nest]
  rfl

theorem markBlocks_balanced_shielded :
    (∀ token, .ok token ∈ shielded → token.kind ≠ .indent ∧ token.kind ≠ .dedent) ∧
    (markBlocks 2 [.keyword .doWord] shielded).countP (isKind .dedent) = 2 ∧
    Balanced .indent .dedent
      [.ok ⟨.keyword .doWord, 6, ['d', 'o']⟩, .ok (.pseudo .indent 8),
        .ok ⟨.newline, 8, ['\n', ' ']⟩, .ok ⟨.identifier, 10, ['a']⟩, .ok (.pseudo .dedent 11)] := by
  have unmarked : ∀ token, .ok token ∈ shielded → token.kind ≠ .indent ∧ token.kind ≠ .dedent := by
    simp [shielded]
  obtain ⟨-, total, braces⟩ := markBlocks_balanced 2 [.keyword .doWord] shielded unmarked
  refine ⟨unmarked, ?_, ?_⟩
  · rw [total (by simp [shielded]), markBlocks_shielded]
    rfl
  · refine braces _ _ _ _ _ markBlocks_shielded rfl rfl ?_
    rw [balanced_iff (by decide)]
    rfl

end Offside.Layout
