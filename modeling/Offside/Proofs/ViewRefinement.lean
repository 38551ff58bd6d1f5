import Offside.Proofs.TokenCursor

/-! A view answers like a cursor that moves over a list. Where the cursor stands is told by how many
items were asked for, and nothing else counts: looking back or ahead leaves no trace in what a view
answers later, in whatever order the calls come. -/

namespace Offside.View

/-- What a view can be asked. -/
inductive Call where
  | next
  | lookAhead (n : Nat)
  | lookBack (n : Nat)
deriving DecidableEq, Repr

inductive Answer where
  | item (item : Option Item)
  | kind (kind : Option Kind)

section

variable {σ : Type} [Supply σ]

/-- Answers a call. -/
def call (view : View σ) : Call → Answer × View σ
  | .next => (.item view.next.1, view.next.2)
  | .lookAhead n => (.kind (view.lookAhead n).1, (view.lookAhead n).2)
  | .lookBack n => (.kind (view.lookBack n), view)

/-- The answers to calls that come one after another. -/
def answers (view : View σ) : List Call → List Answer
  | [] => []
  | call :: calls => (view.call call).1 :: (view.call call).2.answers calls

end

/-- The tokens that a cursor passed on its way to a place, the latest first. -/
def passed (items : List Item) (place : Nat) : List Token :=
  ((items.take place).filterMap Except.toOption).reverse

/-- What a cursor over a list of items answers at a place, if it remembers as many tokens as the
window has room for. -/
def answerAt (items : List Item) (window place : Nat) : Call → Answer
  | .next => .item items[place]?
  | .lookAhead n => .kind (kindAt items (place + n))
  | .lookBack n =>
    .kind (if n < max window leastWindow then (passed items place)[n]?.map Token.kind else none)

theorem passed_succ_token {items : List Item} {place : Nat} {token : Token}
    (found : items[place]? = some (.ok token)) :
    passed items (place + 1) = token :: passed items place := by
  simp [passed, List.take_add_one, found, Except.toOption]

theorem passed_succ_other {items : List Item} {place : Nat}
    (none : ∀ token, items[place]? ≠ some (.ok token)) :
    passed items (place + 1) = passed items place := by
  have nothing : items[place]?.toList.filterMap Except.toOption = [] := by
    cases found : items[place]? with
    | none => rfl
    | some item =>
      cases item with
      | error fault => rfl
      | ok token => exact absurd found (none token)
  rw [passed, List.take_add_one, List.filterMap_append, nothing, List.append_nil, passed]

theorem items_push_take {recent : Recent Token} {tokens : List Token}
    (kept : recent.items = tokens.take recent.capacity) (token : Token) :
    (recent.push token).items = (token :: tokens).take recent.capacity := by
  rw [Recent.items_push, kept]
  cases recent.capacity with
  | zero => rfl
  | succ n => simp [List.take_take]

variable {σ : Type} [Supply σ]

/-- Only a token that is handed out is remembered. -/
private theorem behind_next {view : View σ} (sound : view.Sound) :
    (∃ token, view.next.1 = some (.ok token) ∧ view.next.2.behind = view.behind.push token) ∨
      (∀ token, view.next.1 ≠ some (.ok token)) ∧ view.next.2.behind = view.behind := by
  cases step : view.next with
  | mk item later =>
    cases pulls_of_next sound step with
    | token _ _ behind => exact .inl ⟨_, rfl, behind⟩
    | fault _ _ _ behind => exact .inr ⟨nofun, behind⟩
    | dry _ _ _ behind => exact .inr ⟨nofun, behind⟩

/-- A view that stands at a place of a list: it is to hand out the items from there on, and remembers
the latest tokens before it. -/
structure StandsAt (items : List Item) (window place : Nat) (view : View σ) : Prop where
  sound : view.Sound
  pending : view.pending = items.drop place
  room : view.behind.capacity = max window leastWindow
  behind : view.behind.items = (passed items place).take view.behind.capacity

namespace StandsAt

variable {items : List Item} {window place : Nat} {view : View σ}

theorem start (inner : σ) (window : Nat) :
    StandsAt (throughError (Supply.items inner)) window 0 (onto inner window) where
  sound := sound_onto inner window
  pending := by rw [pending_onto, List.drop_zero]
  room := rfl
  behind := by simp [onto, passed]

theorem next_fst (stands : StandsAt items window place view) : view.next.1 = items[place]? := by
  rw [(next_pending stands.sound).1, stands.pending, List.head?_drop]

theorem next_snd (stands : StandsAt items window place view) :
    StandsAt items window (place + 1) view.next.2 := by
  obtain ⟨-, sound, rest⟩ := next_pending stands.sound
  have pending : view.next.2.pending = items.drop (place + 1) := by
    rw [rest, stands.pending, List.tail_drop]
  rcases behind_next stands.sound with ⟨token, taken, handed⟩ | ⟨nothing, same⟩
  · have found : items[place]? = some (.ok token) := stands.next_fst.symm.trans taken
    have remembered : view.next.2.behind.items =
        (passed items (place + 1)).take view.next.2.behind.capacity := by
      rw [handed, items_push_take stands.behind token, passed_succ_token found,
        Recent.capacity_push]
    exact ⟨sound, pending, by rw [handed, Recent.capacity_push, stands.room], remembered⟩
  · have other : ∀ token, items[place]? ≠ some (.ok token) := by
      rw [← stands.next_fst]
      exact nothing
    have remembered : view.next.2.behind.items =
        (passed items (place + 1)).take view.next.2.behind.capacity := by
      rw [same, passed_succ_other other, stands.behind]
    exact ⟨sound, pending, by rw [same, stands.room], remembered⟩

theorem lookAhead_fst (stands : StandsAt items window place view) (n : Nat) :
    (view.lookAhead n).1 = kindAt items (place + n) := by
  rw [View.lookAhead_fst n stands.sound, stands.pending, kindAt, List.getElem?_drop, kindAt]

private theorem lookAhead_snd (stands : StandsAt items window place view) (n : Nat) :
    StandsAt items window place (view.lookAhead n).2 := by
  obtain ⟨sound, pending, behind⟩ := fill_keeps (n + 1) stands.sound
  have same : (view.lookAhead n).2.behind = view.behind := behind
  exact ⟨sound, pending.trans stands.pending, by rw [same, stands.room],
    by rw [same, stands.behind]⟩

private theorem lookBack_eq (stands : StandsAt items window place view) (n : Nat) :
    view.lookBack n =
      if n < max window leastWindow then (passed items place)[n]?.map Token.kind else none := by
  rw [lookBack, Recent.peek_eq, stands.behind, List.getElem?_take, stands.room]
  split
  · rfl
  · rfl

/-- A call is answered from the place, and only asking for an item moves on. -/
theorem call (stands : StandsAt items window place view) (call : Call) :
    (view.call call).1 = answerAt items window place call ∧
      StandsAt items window (place + [call].count .next) (view.call call).2 := by
  cases call with
  | next => exact ⟨congrArg Answer.item stands.next_fst, stands.next_snd⟩
  | lookAhead n => exact ⟨congrArg Answer.kind (stands.lookAhead_fst n), stands.lookAhead_snd n⟩
  | lookBack n => exact ⟨congrArg Answer.kind (stands.lookBack_eq n), stands⟩

theorem answers (stands : StandsAt items window place view) (calls : List Call) :
    view.answers calls = calls.mapIdx fun i call =>
      answerAt items window (place + (calls.take i).count .next) call := by
  induction calls generalizing place view with
  | nil => rfl
  | cons call calls ih =>
    obtain ⟨answer, moved⟩ := stands.call call
    have place_succ (i : Nat) : place + ((call :: calls).take (i + 1)).count .next =
        place + [call].count .next + (calls.take i).count .next := by
      rw [List.take_succ_cons, ← List.singleton_append, List.count_append, Nat.add_assoc]
    rw [View.answers, answer, ih moved, List.mapIdx_cons]
    simp only [place_succ]
    rfl

end StandsAt

/-- Whatever a view over a supply is asked, and in whatever order, each call is answered as a cursor
over its items up to the first error answers it, at the place to which the calls for items before it
moved the cursor. So the items come one by one, the error last and once, and then nothing; a look ahead
tells the kind of the token that comes after as many others, and a look back that of a token that came,
as far as the window reaches. -/
theorem answers_like_cursor (inner : σ) (window : Nat) (calls : List Call) :
    (onto inner window).answers calls = calls.mapIdx fun i call =>
      answerAt (throughError (Supply.items inner)) window ((calls.take i).count .next) call := by
  have run := (StandsAt.start inner window).answers calls
  simpa only [Nat.zero_add] using run

end Offside.View
