import Offside.Proofs.SourceLines
import Offside.Proofs.StreamObservation

/-! Where pseudo tokens stand. An indent or a dedent has no text, and stands where the last token before
it ends that the text spells. So the tokens of a stream lie one after the other, and each of them
begins and ends between two characters of the text. -/

namespace Offside

theorem Token.stop_of_empty {token : Token} (empty : token.lexeme = []) : token.stop = token.start := by
  rw [stop, empty, Text.byteLength_nil, Nat.add_zero]

namespace Lexer

variable {cs : List Char} {start stop : Nat} {tokens : List Token}

/-- Tokens that lie side by side come one after the other. -/
theorem Tiles.ordered (tiles : Tiles cs start tokens stop) :
    tokens.Pairwise (fun earlier later => earlier.stop ≤ later.start) ∧
      ∀ token ∈ tokens, start ≤ token.start := by
  induction tokens generalizing start with
  | nil => exact ⟨.nil, List.forall_mem_nil _⟩
  | cons token tokens ih =>
    obtain ⟨rfl, wide, -, rest⟩ := tiles
    obtain ⟨ordered, after⟩ := ih rest
    refine ⟨.cons after ordered, List.forall_mem_cons.mpr ⟨Nat.le_refl _, fun later member => ?_⟩⟩
    have beyond := after later member
    omega

theorem Tiles.between (tiles : Tiles cs start tokens stop) :
    ∀ token ∈ tokens, Text.Between token.start cs ∧ Text.Between token.stop cs := by
  induction tokens generalizing start with
  | nil => exact List.forall_mem_nil _
  | cons token tokens ih =>
    obtain ⟨-, -, sliced, rest⟩ := tiles
    exact List.forall_mem_cons.mpr ⟨Text.slice_ok_iff.mp ⟨_, sliced⟩, ih rest⟩

end Lexer

namespace Layout

theorem written_cons_pseudo {token : Token} (pseudo : token.kind.isPseudo = true)
    (tokens : List Token) : written (token :: tokens) = written tokens := by
  simp [written, pseudo]

theorem written_cons {token : Token} (spelled : token.kind.isPseudo = false) (tokens : List Token) :
    written (token :: tokens) = token :: written tokens := by
  simp [written, spelled]

/-- Pseudo tokens have no text, and stand where the last token before them ends that the text spells.
`last` is the one before all the tokens. -/
def Attached : Option Token → List Token → Prop
  | _, [] => True
  | last, token :: tokens =>
    if token.kind.isPseudo then
      (token.lexeme = [] ∧ ∃ spelled ∈ last, token.start = spelled.stop) ∧ Attached last tokens
    else Attached (some token) tokens

section

variable {last : Option Token} {token : Token} {tokens : List Token}

theorem attached_cons_pseudo (pseudo : token.kind.isPseudo = true) :
    Attached last (token :: tokens) ↔
      (token.lexeme = [] ∧ ∃ spelled ∈ last, token.start = spelled.stop) ∧ Attached last tokens := by
  rw [Attached, if_pos pseudo]

theorem attached_cons (spelled : token.kind.isPseudo = false) :
    Attached last (token :: tokens) ↔ Attached (some token) tokens := by
  rw [Attached, spelled, if_neg Bool.false_ne_true]

end

namespace Attached

variable {last : Option Token} {tokens : List Token}

/-- Wherever a pseudo token is among the tokens, those in front of it tell where it stands. -/
theorem split (attached : Attached last tokens) {front after : List Token} {token : Token}
    (whole : tokens = front ++ token :: after) (pseudo : token.kind.isPseudo = true) :
    token.lexeme = [] ∧
      ∃ spelled, (written front).getLast?.or last = some spelled ∧ token.start = spelled.stop := by
  induction front generalizing last tokens with
  | nil =>
    rw [whole, List.nil_append, attached_cons_pseudo pseudo] at attached
    exact attached.1
  | cons first front ih =>
    rw [whole, List.cons_append] at attached
    cases marked : first.kind.isPseudo with
    | true =>
      rw [written_cons_pseudo marked]
      exact ih ((attached_cons_pseudo marked).mp attached).2 rfl
    | false =>
      have later := ih ((attached_cons marked).mp attached) rfl
      rw [written_cons marked, List.getLast?_cons]
      cases final : (written front).getLast? with
      | none => rwa [final] at later
      | some final => rwa [final] at later

/-- If the tokens that the text spells come one after the other, then so do all. -/
theorem ordered (attached : Attached last tokens)
    (spelled : (last.toList ++ written tokens).Pairwise
      fun earlier later => earlier.stop ≤ later.start) :
    (last.toList ++ tokens).Pairwise fun earlier later => earlier.stop ≤ later.start := by
  induction tokens generalizing last with
  | nil => exact spelled
  | cons token tokens ih =>
    cases marked : token.kind.isPseudo with
    | true =>
      rw [written_cons_pseudo marked] at spelled
      obtain ⟨⟨empty, final, rfl, start⟩, rest⟩ := (attached_cons_pseudo marked).mp attached
      obtain ⟨after, ordered⟩ := List.pairwise_cons.mp (ih rest spelled)
      -- The pseudo token is where the final one ends, and so before all that comes after that one.
      have stop : token.stop = final.stop := (Token.stop_of_empty empty).trans start
      have beyond : ∀ later ∈ tokens, token.stop ≤ later.start := stop ▸ after
      exact .cons (List.forall_mem_cons.mpr ⟨Nat.le_of_eq start.symm, after⟩) (.cons beyond ordered)
    | false =>
      rw [written_cons marked] at spelled
      obtain ⟨-, own, before⟩ := List.pairwise_append.mp spelled
      have ordered := ih ((attached_cons marked).mp attached) own
      refine List.pairwise_append.mpr ⟨?_, ordered, fun final member later found => ?_⟩
      · cases last <;> simp
      · have near := before final member token List.mem_cons_self
        rcases List.mem_cons.mp found with rfl | further
        · exact near
        · have far := (List.pairwise_cons.mp ordered).1 later further
          have wide : token.start ≤ token.stop := Nat.le_add_right _ _
          omega

/-- If the tokens that the text spells begin and end between characters, then so do all. -/
theorem between {cs : List Char} (attached : Attached none tokens)
    (spelled : ∀ token ∈ written tokens, Text.Between token.start cs ∧ Text.Between token.stop cs) :
    ∀ token ∈ tokens, Text.Between token.start cs ∧ Text.Between token.stop cs := by
  intro token member
  cases marked : token.kind.isPseudo with
  | false => exact spelled token (mem_written.mpr ⟨member, marked⟩)
  | true =>
    obtain ⟨front, after, whole⟩ := List.append_of_mem member
    obtain ⟨empty, final, found, start⟩ := attached.split whole marked
    have stop : token.stop = final.stop := (Token.stop_of_empty empty).trans start
    rw [Option.or_none] at found
    obtain ⟨within, plain⟩ := mem_written.mp (List.mem_of_getLast? found)
    have here : final ∈ written tokens := by
      rw [whole]
      exact mem_written.mpr ⟨List.mem_append_left _ within, plain⟩
    rw [start, stop]
    exact ⟨(spelled final here).2, (spelled final here).2⟩

end Attached

/-! ### What marking blocks adds -/

private theorem marksBefore_first (indenters : List Kind) (token : Token) :
    (marksBefore indenters none token []).1 = [] := by
  unfold marksBefore
  dsimp only
  split
  · rfl
  · rfl
  · rfl
  · rfl

theorem mem_dedents (last : Token) (count : Nat) :
    ∀ mark ∈ List.replicate count (Token.pseudo .dedent last.stop),
      mark.kind.isPseudo = true ∧ mark.lexeme = [] ∧ mark.start = last.stop := by
  intro mark member
  rw [(List.mem_replicate.mp member).2]
  exact ⟨rfl, rfl, rfl⟩

/-- The pseudo tokens in front of a token stand where the token before it ends. -/
private theorem mem_marksBefore (indenters : List Kind) (last token : Token) (levels : List Level) :
    ∀ mark ∈ (marksBefore indenters (some last) token levels).1,
      mark.kind.isPseudo = true ∧ mark.lexeme = [] ∧ mark.start = last.stop := by
  unfold marksBefore
  dsimp only [Option.getD_some]
  split
  · exact List.forall_mem_nil _
  · split
    · exact mem_dedents last _
    · exact List.forall_mem_nil _
  · split
    · exact List.forall_mem_singleton.mpr ⟨rfl, rfl, rfl⟩
    · exact mem_dedents last _
  · exact List.forall_mem_nil _

theorem attached_append {last : Token} {marks tokens : List Token}
    (pseudo : ∀ mark ∈ marks,
      mark.kind.isPseudo = true ∧ mark.lexeme = [] ∧ mark.start = last.stop)
    (attached : Attached (some last) tokens) : Attached (some last) (marks ++ tokens) := by
  induction marks with
  | nil => exact attached
  | cons mark marks ih =>
    obtain ⟨⟨kind, empty, start⟩, others⟩ := List.forall_mem_cons.mp pseudo
    exact (attached_cons_pseudo kind).mpr ⟨⟨empty, last, rfl, start⟩, ih others⟩

/-- The tokens among some items. -/
def tokensOf (items : List Item) : List Token := items.filterMap Except.toOption

theorem tokensOf_append (tokens : List Token) (items : List Item) :
    tokensOf (tokens.map .ok ++ items) = tokens ++ tokensOf items := by
  rw [tokensOf, List.filterMap_append, List.filterMap_map]
  exact congrArg (· ++ _) List.filterMap_some

theorem tokensOf_streamOf (tokens : List Token) (fault : Option LexError) :
    tokensOf (streamOf tokens fault) = tokens := by
  rw [streamOf, tokensOf_append]
  cases fault <;> exact List.append_nil tokens

/-- Marking blocks attaches the pseudo tokens to the tokens it reads. No block is open before the first
of these, so that there is a token in front of every mark. -/
theorem attached_nest (indenters : List Kind) {before : Option Token} {levels : List Level}
    (begun : before = none → levels = []) {items : List Item}
    (spelled : ∀ token, .ok token ∈ items → token.kind.isPseudo = false) :
    Attached before (tokensOf (nest indenters before levels items)) := by
  induction items generalizing before levels with
  | nil =>
    cases before with
    | none =>
      rw [begun rfl]
      trivial
    | some last =>
      have nothing : Attached (some last) (tokensOf []) := trivial
      rw [nest, ← List.map_replicate, ← List.append_nil (List.map _ _), tokensOf_append]
      exact attached_append (mem_dedents last (openBlocks levels)) nothing
  | cons item items ih =>
    cases item with
    | error fault => trivial
    | ok token =>
      have own := spelled token List.mem_cons_self
      have rest (left : List Level) :
          Attached (some token) (tokensOf (nest indenters (some token) left items)) :=
        ih (fun none => by cases none) fun other member => spelled other (List.mem_cons_of_mem _ member)
      rw [nest]
      dsimp only
      rw [tokensOf_append]
      cases before with
      | none =>
        rw [begun rfl, marksBefore_first]
        exact (attached_cons own).mpr (rest _)
      | some last =>
        exact attached_append (mem_marksBefore indenters last token levels)
          ((attached_cons own).mpr (rest _))

theorem Stream.eq_ofSource {options : Options} {source : Source} {offset : Nat} {stream : Stream}
    (made : create options source offset = .ok stream) : stream = ofSource options source offset := by
  unfold create at made
  cases room : options.reserve with
  | error shortage =>
    rw [room] at made
    cases made
  | ok _ =>
    rw [room] at made
    cases made
    rfl

/-- What is left of tokens without trivia and newlines that end nothing. -/
theorem kept_streamOf (tokens : List Token) (fault : Option LexError) :
    ∃ kept, sift none [] (strip (streamOf tokens fault)) = streamOf kept fault ∧
      kept.Sublist tokens := by
  obtain ⟨kept, same, thinned⟩ :=
    sift_streamOf none [] (tokens.filter fun token => !token.isTrivia) fault
  refine ⟨kept, ?_, thinned.sublist.trans List.filter_sublist⟩
  rw [strip_streamOf, same]

/-- In the stream of a source every indent and every dedent is without text, and stands where the
nearest token before it ends that is neither; there always is one. So no token starts before an earlier
one has ended, and all begin and end between characters of the text. -/
theorem pseudo_tokens_placed (options : Options) (source : Source) (offset : Nat) :
    ∃ (tokens : List Token) (fault : Option LexError),
      (∀ stream, Stream.create options source offset = .ok stream →
        ∀ n, pulled Stream.next n stream = (streamOf tokens fault)[n]?) ∧
      items options source offset = streamOf tokens fault ∧
      (∀ front token after, tokens = front ++ token :: after →
        token.kind = .indent ∨ token.kind = .dedent →
        token.lexeme = [] ∧
          ∃ last, (written front).getLast? = some last ∧ token.start = last.stop) ∧
      tokens.Pairwise (fun earlier later => earlier.stop ≤ later.start) ∧
      ∀ token ∈ tokens,
        Text.Between token.start source.chars ∧ Text.Between token.stop source.chars := by
  obtain ⟨raw, fault, stop, lexed, tiles, -⟩ := Lexer.items_tile Rule.table source.chars offset
  obtain ⟨kept, left, part⟩ := kept_streamOf raw fault
  have spelled : ∀ token, .ok token ∈ streamOf kept fault → token.kind.isPseudo = false := by
    intro token member
    have found : .ok token ∈ (Lexer.ofSource source offset).items := by
      rw [Lexer.ofSource, lexed, ok_mem_streamOf]
      exact part.subset (ok_mem_streamOf.mp member)
    exact Lexer.plain_items found
  obtain ⟨tokens, marked, same⟩ := nest_streamOf options.indenters none [] kept fault
  have yielded : items options source offset = streamOf tokens fault := by
    rw [items_eq_nest, Lexer.ofSource, lexed, left, marked]
  have attached : Attached none tokens := by
    rw [← tokensOf_streamOf tokens fault, ← marked]
    exact attached_nest options.indenters (fun _ => rfl) spelled
  have whole : (written tokens).Sublist raw := by
    rw [same]
    exact List.filter_sublist.trans part
  refine ⟨tokens, fault, fun stream made n => ?_, yielded, ?_, ?_, ?_⟩
  · rw [Stream.eq_ofSource made, (Stream.standsAt_ofSource options source offset).pulled, yielded,
      Nat.zero_add]
  · intro front token after split kind
    have pseudo : token.kind.isPseudo = true := by rcases kind with kind | kind <;> rw [kind] <;> rfl
    have placed := attached.split split pseudo
    rwa [Option.or_none] at placed
  · exact attached.ordered (tiles.ordered.1.sublist whole)
  · exact attached.between fun token member => tiles.between token (whole.subset member)

end Layout

end Offside
