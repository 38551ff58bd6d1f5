import Offside.Proofs.NewlineSeparation
import Offside.Proofs.StageConservation

/-! Which newlines are dropped, judged by their places in the stream. The stage reads its stream
token by token, with one token behind, one ahead and a stack of brackets; what it drops is
nevertheless a matter of the whole stream alone. -/

namespace Offside.Layout

open View (kindAt)

/-- The open brackets after a token of a kind, innermost first. An opening bracket comes on top. A
closing bracket takes the top off if the two fit, and is ignored otherwise. -/
def bracketsAfter (opened : List Bracket) : Kind → List Bracket
  | .opening bracket => bracket :: opened
  | .closing bracket => if opened.head? = some bracket then opened.tail else opened
  | _ => opened

/-- The brackets that some items leave open, innermost first. -/
def openBrackets (items : List Item) : List Bracket :=
  ((items.filterMap Except.toOption).map Token.kind).foldl bracketsAfter []

/-- A newline at a place ends nothing: it is the first item or no token follows it, what stands next
to it does not let a statement end, or the innermost open bracket is a parenthesis. -/
def IdleAt (items : List Item) (place : Nat) : Prop :=
  place = 0 ∨ kindAt items (place + 1) = none ∨
  kindAt items (place - 1) ∈ [some (.opening .square), some (.opening .curly), some .comma] ∨
  kindAt items (place + 1) ∈
    [some .newline, some (.closing .square), some (.closing .curly), some .comma] ∨
  (openBrackets (items.take place)).head? = some .round

instance (items : List Item) (place : Nat) : Decidable (IdleAt items place) :=
  inferInstanceAs (Decidable (_ ∨ _))

/-- The items without the newlines that end nothing. -/
def withoutIdle (items : List Item) : List Item :=
  (items.zipIdx.filter fun entry =>
    ¬ (kindAt items entry.2 = some .newline ∧ IdleAt items entry.2)).map Prod.fst

private theorem bracketsAfter_eq_trackBracket (opened : List Bracket) (kind : Kind) :
    bracketsAfter opened kind = trackBracket kind opened := by
  cases kind <;> cases opened <;> simp [bracketsAfter, trackBracket]

private theorem openBrackets_tokens (tokens : List Token) :
    openBrackets (tokens.map .ok) = openedAfter [] tokens := by
  have same : (tokens.map (Except.ok : Token → Item)).filterMap Except.toOption = tokens := by
    rw [List.filterMap_map]
    exact List.filterMap_some
  rw [openBrackets, same, List.foldl_map, openedAfter]
  simp only [bracketsAfter_eq_trackBracket]

section

variable (front : List Token) (item : Item) (items : List Item)

private theorem kindAt_here : kindAt (front.map .ok ++ item :: items) front.length =
    item.toOption.map Token.kind := by
  simp [kindAt]

private theorem kindAt_next : kindAt (front.map .ok ++ item :: items) (front.length + 1) =
    kindAt items 0 := by
  simp [kindAt, List.getElem?_append_right]

private theorem kindAt_previous (last : Token) :
    kindAt ((front ++ [last]).map .ok ++ items) front.length =
    some last.kind := by
  simp [kindAt, Except.toOption]

end

/-- The newline that the stage reads after some tokens is dropped exactly if it is idle. -/
private theorem isElided_iff_idleAt (front : List Token) (item : Item) (items : List Item) :
    isElided (front.getLast?.map Token.kind) (kindAt items 0) (openedAfter [] front) = true ↔
      IdleAt (front.map .ok ++ item :: items) front.length := by
  have opened : openBrackets ((front.map Except.ok ++ item :: items).take front.length) =
      openedAfter [] front := by
    rw [List.take_left' (List.length_map ..), openBrackets_tokens]
  rw [IdleAt, kindAt_next, opened]
  rcases List.eq_nil_or_concat' front with rfl | ⟨init, last, rfl⟩
  · simp [isElided]
  · have previous : kindAt ((init ++ [last]).map .ok ++ item :: items)
        ((init ++ [last]).length - 1) = some last.kind := by
      rw [List.length_append, List.length_singleton, Nat.add_sub_cancel, kindAt_previous]
    rw [previous, List.getLast?_concat, Option.map_some]
    cases kindAt items 0 with
    | none => simp [isElided]
    | some after => simp [isElided, noNewlineAfter, noNewlineBefore, or_assoc]

private theorem throughError_idem (items : List Item) :
    throughError (throughError items) = throughError items := by
  induction items with
  | nil => rfl
  | cons item items ih =>
    cases item with
    | error fault => rfl
    | ok token => exact congrArg (_ :: ·) ih

private theorem openedAfter_append (opened : List Bracket) (tokens : List Token) (token : Token) :
    openedAfter opened (tokens ++ [token]) =
      trackBracket token.kind (openedAfter opened tokens) := by
  simp [openedAfter]

/-- What is kept of the rest of a stream, after some tokens of it were read. -/
private theorem sift_eq_filter (front : List Token) {rest : List Item}
    (ends : throughError rest = rest) :
    sift (front.getLast?.map Token.kind) (openedAfter [] front) rest =
      ((rest.zipIdx front.length).filter fun entry =>
        ¬ (kindAt (front.map .ok ++ rest) entry.2 = some .newline ∧
          IdleAt (front.map .ok ++ rest) entry.2)).map Prod.fst := by
  induction rest generalizing front with
  | nil => rfl
  | cons item items ih =>
    cases item with
    | error fault =>
      obtain rfl : items = [] := by simpa [throughError] using ends
      simp [sift, kindAt, Except.toOption]
    | ok token =>
      have endsToo : throughError items = items := by simpa [throughError] using ends
      -- The token is the last one that was read when the others are looked at.
      have later := ih (front ++ [token]) endsToo
      rw [List.getLast?_concat, Option.map_some, openedAfter_append, List.map_append,
        List.append_assoc, List.length_append, List.length_singleton] at later
      have here : kindAt (front.map .ok ++ .ok token :: items) front.length = some token.kind :=
        kindAt_here front (.ok token) items
      have elided := isElided_iff_idleAt front (.ok token) items
      rw [List.zipIdx_cons, List.filter_cons, sift]
      by_cases newline : token.kind = .newline
      · rw [newline] at later here
        by_cases idle : IdleAt (front.map .ok ++ .ok token :: items) front.length
        · rw [if_pos newline, if_pos (elided.mpr idle), if_neg (by simp [here, idle]), newline]
          exact later
        · rw [if_pos newline, if_neg (mt elided.mp idle), if_pos (by simp [idle]), newline]
          exact congrArg (_ :: ·) later
      · rw [if_neg newline, if_pos (by simp [here, newline])]
        exact congrArg (_ :: ·) later

/-- The stage gives the items of its stream in order, up to the first error, without the newlines
that end nothing in the stream. Memory permitting, this is what it yields. -/
theorem dropNewlines_eq_withoutIdle (options : Options) (items : List Item) :
    dropNewlines options.window items = withoutIdle (throughError items) ∧
      (options.reserve = .ok () →
        runStagesWithin options [.newlines] items = .ok (withoutIdle (throughError items))) := by
  have same : dropNewlines options.window items = withoutIdle (throughError items) := by
    rw [dropNewlines_eq_sift]
    exact sift_eq_filter [] (throughError_idem items)
  refine ⟨same, fun room => ?_⟩
  rw [runStagesWithin_eq room, runStages_eq, ← same, dropNewlines_eq_sift]
  rfl

end Offside.Layout
