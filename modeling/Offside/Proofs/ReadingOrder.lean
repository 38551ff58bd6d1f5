import Mathlib.Data.List.DropRight
import Mathlib.Data.Prod.Lex
import Offside.Proofs.LineColumns
import Offside.Proofs.PseudoPlaces

/-! Positions follow the order of the text. Reading a text, every character moves the position on, to
the next column or to the next line: so a later place between characters has a later position. The
tokens of a stream come one after the other, and then so do their locations. -/

namespace Offside

namespace Position

/-- Line and column as a pair, which is compared by the line first. -/
def key (p : Position) : ℕ ×ₗ ℕ := toLex (p.line, p.column)

private theorem key_injective : Function.Injective key := by
  rintro ⟨line, column⟩ ⟨otherLine, otherColumn⟩ same
  cases same
  rfl

/-- Positions in reading order. -/
instance : LinearOrder Position := LinearOrder.lift' key key_injective

private theorem lt_iff {p q : Position} :
    p < q ↔ p.line < q.line ∨ p.line = q.line ∧ p.column < q.column :=
  Prod.Lex.toLex_lt_toLex

/-- The position after one more character. -/
def step (p : Position) (c : Char) : Position :=
  if c = '\n' then ⟨p.line + 1, 0⟩ else ⟨p.line, p.column + 1⟩

theorem lt_step (p : Position) (c : Char) : p < p.step c := by
  rw [lt_iff, step]
  split
  · exact .inl (Nat.lt_succ_self _)
  · exact .inr ⟨rfl, Nat.lt_succ_self _⟩

private theorem le_foldl_step (p : Position) (cs : List Char) : p ≤ cs.foldl step p := by
  induction cs generalizing p with
  | nil => exact le_refl p
  | cons c cs ih => exact (p.lt_step c).le.trans (ih (p.step c))

private theorem lt_foldl_step (p : Position) {cs : List Char} (nonempty : cs ≠ []) :
    p < cs.foldl step p := by
  obtain ⟨c, cs, rfl⟩ := List.exists_cons_of_ne_nil nonempty
  exact (p.lt_step c).trans_le ((p.step c).le_foldl_step cs)

end Position

/-- What follows the last line feed of a text, or all of a text that has none. -/
def Text.lastLine (cs : List Char) : List Char := cs.rtakeWhile (· != '\n')

/-- Over a whole text the lines count its line feeds, and the columns the characters since the last. -/
theorem Position.foldl_step (cs : List Char) :
    cs.foldl step ⟨1, 0⟩ = ⟨1 + cs.count '\n', (Text.lastLine cs).length⟩ := by
  induction cs using List.reverseRecOn with
  | nil => rfl
  | append_singleton cs c ih =>
    rw [List.foldl_concat, ih, step, List.count_append, Text.lastLine, Text.lastLine,
      List.rtakeWhile_concat]
    by_cases feed : c = '\n'
    · simp [feed, Nat.add_assoc]
    · simp [feed]

/-- A walk that ends between characters takes one step for each character. -/
private theorem positionFrom_front (line column bytes : Nat) (front rest : List Char) :
    positionFrom line column bytes (Text.byteLength front) (front ++ rest) =
      front.foldl Position.step ⟨line, column⟩ := by
  induction front generalizing line column bytes with
  | nil => cases rest <;> rfl
  | cons c front ih =>
    rw [Text.byteLength_cons, List.cons_append, positionFrom_cons, List.foldl_cons, Position.step]
    split
    · exact ih (line + 1) 0 0
    · exact ih line (column + 1) _

namespace Source

variable {source : Source}

theorem position_of_split {front back : List Char} (split : source.chars = front ++ back) :
    source.position (Text.byteLength front) = front.foldl Position.step ⟨1, 0⟩ := by
  rw [position_eq_walk, split]
  exact positionFrom_front 1 0 0 front back

private theorem position_past {offset : Nat} (past : source.length ≤ offset) :
    source.position offset = source.position source.length := by
  rw [position, position, Nat.min_eq_right past, Nat.min_self]

/-- Of two places between characters the later one is further on in the text. -/
private theorem exists_middle {first second : Nat} (one : Text.Between first source.chars)
    (two : Text.Between second source.chars) (le : first ≤ second) :
    ∃ front middle back, source.chars = front ++ (middle ++ back) ∧ Text.byteLength front = first ∧
      Text.byteLength (front ++ middle) = second := by
  obtain ⟨front, back, whole, rfl⟩ := one
  obtain ⟨longer, rest, also, rfl⟩ := two
  obtain ⟨middle, rfl⟩ := Text.prefix_of_byteLength_le ⟨back, whole.symm⟩ ⟨rest, also.symm⟩ le
  exact ⟨front, middle, rest, also.trans (List.append_assoc ..), rfl, rfl⟩

theorem position_lt {first second : Nat} (one : Text.Between first source.chars)
    (two : Text.Between second source.chars) (lt : first < second) :
    source.position first < source.position second := by
  obtain ⟨front, middle, back, whole, rfl, rfl⟩ := exists_middle one two lt.le
  -- There is text between the two places, and each of its characters moves the position on.
  have nonempty : middle ≠ [] := by
    rintro rfl
    rw [List.append_nil] at lt
    exact lt.false
  rw [position_of_split whole, position_of_split (whole.trans (List.append_assoc ..).symm),
    List.foldl_append]
  exact Position.lt_foldl_step _ nonempty

theorem position_le {first second : Nat} (one : Text.Between first source.chars)
    (two : Text.Between second source.chars) (le : first ≤ second) :
    source.position first ≤ source.position second := by
  rcases Nat.eq_or_lt_of_le le with rfl | lt
  · exact le_refl _
  · exact (position_lt one two lt).le

end Source

/-! ### Tokens of a stream -/

namespace Layout

/-- Tokens that come one after the other, and begin and end between characters of a text. -/
structure InOrder (cs : List Char) (tokens : List Token) : Prop where
  ordered : tokens.Pairwise fun earlier later => earlier.stop ≤ later.start
  between : ∀ token ∈ tokens, Text.Between token.start cs ∧ Text.Between token.stop cs

namespace InOrder

variable {cs : List Char} {tokens kept : List Token} {fault : Option LexError}

theorem sublist (order : InOrder cs tokens) (part : kept.Sublist tokens) : InOrder cs kept :=
  ⟨order.ordered.sublist part, fun token member => order.between token (part.subset member)⟩

/-- Marks are put between tokens that are in order. -/
theorem nest (order : InOrder cs kept) (spelled : ∀ token ∈ kept, token.kind.isPseudo = false)
    (indenters : List Kind) (fault : Option LexError) :
    ∃ tokens, Layout.nest indenters none [] (streamOf kept fault) = streamOf tokens fault ∧
      InOrder cs tokens := by
  obtain ⟨tokens, marked, same⟩ := nest_streamOf indenters none [] kept fault
  have attached : Attached none tokens := by
    rw [← tokensOf_streamOf tokens fault, ← marked]
    exact attached_nest indenters (fun _ => rfl) fun token member =>
      spelled token (ok_mem_streamOf.mp member)
  -- A mark stands where the token before it ends, so only the other tokens have to be in order.
  have plain : InOrder cs (written tokens) := by
    rw [same]
    exact order.sublist List.filter_sublist
  exact ⟨tokens, marked, attached.ordered plain.ordered, attached.between plain.between⟩

end InOrder

/-- The tokens of a source are in order. -/
private theorem items_inOrder (options : Options) (source : Source) (offset : Nat) :
    ∃ tokens fault, items options source offset = streamOf tokens fault ∧
      InOrder source.chars tokens := by
  obtain ⟨raw, fault, stop, lexed, tiles, -⟩ := Lexer.items_tile Rule.table source.chars offset
  obtain ⟨kept, left, part⟩ := kept_streamOf raw fault
  have order : InOrder source.chars raw := ⟨tiles.ordered.1, tiles.between⟩
  have spelled : ∀ token ∈ kept, token.kind.isPseudo = false := by
    intro token member
    have found : .ok token ∈ (Lexer.ofSource source offset).items := by
      rw [Lexer.ofSource, lexed]
      exact ok_mem_streamOf.mpr (part.subset member)
    exact Lexer.plain_items found
  obtain ⟨tokens, marked, placed⟩ := (order.sublist part).nest spelled options.indenters fault
  refine ⟨tokens, fault, ?_, placed⟩
  rw [items_eq_nest, Lexer.ofSource, lexed, left, marked]

private theorem getElem?_of_streamOf {tokens : List Token} {fault : Option LexError} {n : Nat}
    {token : Token}
    (found : (streamOf tokens fault)[n]? = some (.ok token)) : tokens[n]? = some token := by
  rw [streamOf, List.getElem?_append] at found
  split at found
  · simpa using found
  · obtain ⟨error, -, same⟩ := List.mem_map.mp (List.mem_of_getElem? found)
    cases same

/-- A token that a stream yields is between characters, and ends before later ones start. -/
private theorem Stream.pulled_inOrder {options : Options} {source : Source} {offset : Nat}
    {stream : Stream}
    (made : create options source offset = .ok stream) {n : Nat} {token : Token}
    (pull : pulled next n stream = some (.ok token)) :
    (Text.Between token.start source.chars ∧ Text.Between token.stop source.chars) ∧
      ∀ m later, n < m → pulled next m stream = some (.ok later) →
        Text.Between later.start source.chars ∧ token.stop ≤ later.start := by
  obtain ⟨tokens, fault, yielded, order⟩ := items_inOrder options source offset
  have listed {m : Nat} {other : Token} (pull : pulled next m stream = some (.ok other)) :
      tokens[m]? = some other := by
    rw [eq_ofSource made, (standsAt_ofSource options source offset).pulled, yielded, Nat.zero_add]
      at pull
    exact getElem?_of_streamOf pull
  obtain ⟨inside, rfl⟩ := List.getElem?_eq_some_iff.mp (listed pull)
  refine ⟨order.between _ (List.getElem_mem inside), fun m later after pullLater => ?_⟩
  obtain ⟨also, rfl⟩ := List.getElem?_eq_some_iff.mp (listed pullLater)
  exact ⟨(order.between _ (List.getElem_mem also)).1,
    List.pairwise_iff_getElem.mp order.ordered n m inside also after⟩

end Layout

namespace Source

/-- Every offset has the position of a place in the text, the end at most. Between characters its line
counts the line feeds before it, and its column the characters since the last of them. Positions grow
with such offsets. So every token that a stream yields ends no earlier than it starts, and no later
than a later token starts. -/
theorem position_reading_order (source : Source) :
    (∀ offset, source.position offset = source.position (min offset source.length)) ∧
    (∀ front back, source.chars = front ++ back →
      source.position (Text.byteLength front) =
        ⟨1 + front.count '\n', (Text.lastLine front).length⟩) ∧
    (∀ first second, Text.Between first source.chars → Text.Between second source.chars →
      first < second → source.position first < source.position second) ∧
    ∀ options offset stream, Layout.Stream.create options source offset = .ok stream →
      ∀ n token, pulled Layout.Stream.next n stream = some (.ok token) →
        (token.location source).start ≤ (token.location source).stop ∧
        ∀ m later, n < m → pulled Layout.Stream.next m stream = some (.ok later) →
          (token.location source).stop ≤ (later.location source).start := by
  refine ⟨fun offset => ?_, fun front back split => ?_, fun _ _ => position_lt, ?_⟩
  · rcases Nat.le_total offset source.length with within | past
    · rw [Nat.min_eq_left within]
    · rw [Nat.min_eq_right past, position_past past]
  · rw [position_of_split split, Position.foldl_step]
  · intro options offset stream made n token pull
    obtain ⟨⟨starts, stops⟩, follows⟩ := Layout.Stream.pulled_inOrder made pull
    refine ⟨position_le starts stops (Nat.le_add_right _ _), fun m later after pullLater => ?_⟩
    obtain ⟨begins, apart⟩ := follows m later after pullLater
    exact position_le stops begins apart

/-- Two words, and between them a line that holds only a comment. -/
def commentedWords : Source := .anonymous "a\n#\n  b"

private theorem items_commentedWords : Layout.items {} commentedWords 0 =
    [.ok ⟨.identifier, 0, ['a']⟩, .ok ⟨.newline, 3, ['\n', ' ', ' ']⟩,
      .ok ⟨.identifier, 6, ['b']⟩] := by
  rw [Layout.items_eq_nest, Lexer.ofSource_zero]
  change Layout.nest _ none [] (Layout.sift none []
    (Lexer.shown 0 ['a', '\n', '#', '\n', ' ', ' ', 'b'])) = _
  rw [Layout.shown_commentBetween]
  rfl

/-- The newline that is kept ends on the line of the second word, where that word starts. -/
theorem position_reading_order_commented :
    commentedWords.position 1 < commentedWords.position 6 ∧
    ∃ stream newline word, Layout.Stream.create {} commentedWords 0 = .ok stream ∧
      pulled Layout.Stream.next 1 stream = some (.ok newline) ∧
      pulled Layout.Stream.next 2 stream = some (.ok word) ∧
      (newline.location commentedWords).stop ≤ (word.location commentedWords).start := by
  obtain ⟨-, -, grows, follows⟩ := position_reading_order commentedWords
  have made : Layout.Stream.create {} commentedWords 0 =
      .ok (Layout.Stream.ofSource {} commentedWords 0) := rfl
  have pulls (n : Nat) := (Layout.Stream.standsAt_ofSource {} commentedWords 0).pulled n
  rw [items_commentedWords] at pulls
  refine ⟨grows 1 6 (by decide) (by decide) (by decide), _, _, _, made, pulls 1, pulls 2, ?_⟩
  exact (follows _ _ _ made 1 _ (pulls 1)).2 2 _ (by decide) (pulls 2)

end Source

end Offside
