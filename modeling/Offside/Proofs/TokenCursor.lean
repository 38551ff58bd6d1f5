import Offside.Proofs.SupplyRuns
import Offside.Token.View

/-! A view is a cursor over its supply. What it is still to hand out does not change when it looks
ahead, and the next item is the first of it; nothing comes after an error. -/

namespace Offside

/-- The items up to the first error, which is the last of them. -/
def throughError : List Item → List Item
  | [] => []
  | .error fault :: _ => [.error fault]
  | .ok token :: items => .ok token :: throughError items

theorem mem_of_mem_throughError {item : Item} {items : List Item}
    (member : item ∈ throughError items) : item ∈ items := by
  induction items with
  | nil => exact member
  | cons first items ih =>
    cases first with
    | error fault =>
      rw [throughError, List.mem_singleton] at member
      exact member ▸ List.mem_cons_self ..
    | ok token =>
      rcases List.mem_cons.mp member with rfl | later
      · exact List.mem_cons_self ..
      · exact List.mem_cons_of_mem _ (ih later)

namespace Recent

variable {α : Type}

@[simp] theorem peek_push_zero (a : α) (recent : Recent α) (room : 0 < recent.capacity) :
    (recent.push a).peek 0 = some a := by
  simp [peek_eq, room]

@[simp] theorem peek_push_succ (a : α) (recent : Recent α) (n : Nat) (room : n + 1 < recent.capacity) :
    (recent.push a).peek (n + 1) = recent.peek n := by
  simp [peek_eq, room]

end Recent

namespace View

variable {σ : Type}

/-- An error that a view came upon ended its supply, and the last two tokens are remembered. -/
structure Sound (view : View σ) : Prop where
  settled : view.fault.isSome → view.ended = true
  window : leastWindow ≤ view.behind.capacity

theorem Sound.fault_eq_none {view : View σ} (sound : view.Sound) (running : view.ended = false) :
    view.fault = none := by
  cases held : view.fault with
  | none => rfl
  | some fault =>
    have ended := sound.settled (by simp [held])
    rw [running] at ended
    cases ended

theorem Sound.push {view later : View σ} {token : Token} (sound : view.Sound)
    (fault : later.fault = view.fault) (ended : later.ended = view.ended)
    (behind : later.behind = view.behind.push token) : later.Sound where
  settled := by
    rw [fault, ended]
    exact sound.settled
  window := by
    rw [behind, Recent.capacity_push]
    exact sound.window

theorem sound_onto (inner : σ) (window : Nat) : (onto inner window).Sound :=
  ⟨by simp [onto], Nat.le_max_right window leastWindow⟩

variable [Supply σ]

/-- What a view is still to hand out. -/
def pending (view : View σ) : List Item :=
  view.ahead.items.map .ok ++ view.fault.toList.map .error ++
    if view.ended then [] else throughError (Supply.items view.inner)

@[simp] theorem pending_onto (inner : σ) (window : Nat) :
    (onto inner window).pending = throughError (Supply.items inner) := by
  simp [pending, onto]

/-- All that a pull can do: it hands out the token or the error that is first among what is pending,
or finds that there is nothing. -/
inductive Pulls (view : View σ) : Option Item → View σ → Prop where
  | token {token : Token} {later : View σ} (pending : view.pending = .ok token :: later.pending)
      (sound : later.Sound) (behind : later.behind = view.behind.push token)
      (running : view.ended = false → later.ended = false) : Pulls view (some (.ok token)) later
  | fault {fault : LexError} {later : View σ} (pending : view.pending = [.error fault])
      (left : later.pending = []) (sound : later.Sound) (behind : later.behind = view.behind) :
      Pulls view (some (.error fault)) later
  | dry {last : View σ} (pending : view.pending = []) (left : last.pending = []) (sound : last.Sound)
      (behind : last.behind = view.behind) (exhausted : last.isExhausted = true) :
      Pulls view none last

/-- Taking an item off the supply itself is a pull if nothing waits. -/
private theorem read_pulls {view : View σ} (sound : view.Sound) (empty : view.ahead.items = [])
    (running : view.ended = false) : Pulls view view.read.1 view.read.2 := by
  have clear := sound.fault_eq_none running
  have pending : view.pending = throughError (Supply.items view.inner) := by
    simp [View.pending, empty, clear, running]
  unfold read
  split
  · rename_i token rest taken
    rw [Supply.items_of_next_some taken, throughError] at pending
    refine .token ?_ (sound.push rfl rfl rfl) rfl id
    rw [pending]
    simp [View.pending, record, empty, clear, running]
  · rename_i fault rest taken
    rw [Supply.items_of_next_some taken, throughError] at pending
    exact .fault pending (by simp [View.pending, empty, clear]) ⟨fun _ => rfl, sound.window⟩ rfl
  · rename_i rest taken
    rw [Supply.items_of_next_none taken, throughError] at pending
    exact .dry pending (by simp [View.pending, empty, clear]) ⟨fun _ => rfl, sound.window⟩ rfl
      (by simp [isExhausted, Queue.isEmpty, empty])

private theorem next_pulls {view : View σ} (sound : view.Sound) :
    Pulls view view.next.1 view.next.2 := by
  unfold next
  split
  · rename_i token waiting ahead
    refine .token ?_ (sound.push rfl rfl rfl) rfl id
    rw [pending, ahead]
    rfl
  · rename_i empty
    split
    · rename_i fault held
      have ended := sound.settled (by rw [held]; rfl)
      exact .fault (by simp [pending, empty, held, ended]) (by simp [pending, empty, ended])
        ⟨fun _ => ended, sound.window⟩ rfl
    · rename_i clear
      split
      · rename_i ended
        have nothing : view.pending = [] := by simp [pending, empty, clear, ended]
        exact .dry nothing nothing sound rfl (by simp [isExhausted, Queue.isEmpty, empty, ended])
      · rename_i running
        exact read_pulls sound empty (Bool.eq_false_iff.mpr running)

theorem pulls_of_next {view later : View σ} {item : Option Item} (sound : view.Sound)
    (step : view.next = (item, later)) : Pulls view item later := by
  have pull := next_pulls sound
  rwa [step] at pull

/-- The next item is the first of those that are pending, and the others stay pending. -/
theorem next_pending {view : View σ} (sound : view.Sound) :
    view.next.1 = view.pending.head? ∧ view.next.2.Sound ∧
      view.next.2.pending = view.pending.tail := by
  cases step : view.next with
  | mk item later =>
    cases pulls_of_next sound step with
    | token pending soundLater => exact ⟨by rw [pending]; rfl, soundLater, by rw [pending]; rfl⟩
    | fault pending left soundLater => exact ⟨by rw [pending]; rfl, soundLater, by rw [pending, left]; rfl⟩
    | dry pending left soundLater => exact ⟨by rw [pending]; rfl, soundLater, by rw [pending, left]; rfl⟩

theorem next_of_pending_ok {view : View σ} {token : Token} {rest : List Item} (sound : view.Sound)
    (waits : view.pending = .ok token :: rest) :
    ∃ later, view.next = (some (.ok token), later) ∧ later.Sound ∧ later.pending = rest ∧
      later.behind = view.behind.push token ∧ (view.ended = false → later.ended = false) := by
  cases step : view.next with
  | mk item later =>
    cases pulls_of_next sound step with
    | token pending soundLater behind running =>
      rw [waits] at pending
      cases pending
      exact ⟨later, rfl, soundLater, rfl, behind, running⟩
    | fault pending =>
      rw [waits] at pending
      cases pending
    | dry pending =>
      rw [waits] at pending
      cases pending

/-- Looking ahead changes nothing about what is handed out. -/
theorem fill_keeps (count : Nat) {view : View σ} (sound : view.Sound) :
    (view.fill count).Sound ∧ (view.fill count).pending = view.pending ∧
      (view.fill count).behind = view.behind := by
  fun_induction fill count view with
  | case1 view wanted token rest taken ih =>
    have running : view.ended = false := by simpa using wanted.2
    have clear := sound.fault_eq_none running
    obtain ⟨later, same, kept⟩ := ih ⟨sound.settled, sound.window⟩
    refine ⟨later, same.trans ?_, kept⟩
    simp [pending, running, clear, Supply.items_of_next_some taken, throughError]
  | case2 view wanted fault rest taken =>
    have running : view.ended = false := by simpa using wanted.2
    have clear := sound.fault_eq_none running
    refine ⟨⟨fun _ => rfl, sound.window⟩, ?_, rfl⟩
    simp [pending, running, clear, Supply.items_of_next_some taken, throughError]
  | case3 view wanted rest taken =>
    have running : view.ended = false := by simpa using wanted.2
    refine ⟨⟨fun _ => rfl, sound.window⟩, ?_, rfl⟩
    simp [pending, running, Supply.items_of_next_none taken, throughError]
  | case4 => exact ⟨sound, rfl, rfl⟩

/-- After filling, as many tokens wait as were asked for, or the supply has ended. -/
private theorem fill_enough (count : Nat) (view : View σ) :
    count ≤ (view.fill count).ahead.items.length ∨ (view.fill count).ended = true := by
  fun_induction fill count view with
  | case1 view wanted token rest taken ih => exact ih
  | case2 => exact .inr rfl
  | case3 => exact .inr rfl
  | case4 view stop =>
    by_cases enough : view.ahead.size < count
    · exact .inr (by simpa [enough] using stop)
    · exact .inl (Nat.le_of_not_lt enough)

/-- The kind of the item at a place, if a token is there. -/
def kindAt (items : List Item) (n : Nat) : Option Kind :=
  (items[n]?.bind Except.toOption).map Token.kind

/-- Looking ahead tells the kind of a token that is still to be handed out. -/
theorem lookAhead_fst (n : Nat) {view : View σ} (sound : view.Sound) :
    (view.lookAhead n).1 = kindAt view.pending n := by
  obtain ⟨-, same, -⟩ := fill_keeps (n + 1) sound
  rw [← same]
  change ((view.fill (n + 1)).ahead.items[n]?).map Token.kind = _
  have reach := fill_enough (n + 1) view
  generalize view.fill (n + 1) = filled at reach
  by_cases waits : n < filled.ahead.items.length
  · have found : filled.pending[n]? = some (.ok filled.ahead.items[n]) := by
      simp [pending, waits, List.getElem?_append_left]
    simp [kindAt, found, waits, Except.toOption]
  · have ended : filled.ended = true := reach.resolve_left (by omega)
    have beyond : filled.ahead.items.length ≤ n := Nat.le_of_not_lt waits
    cases held : filled.fault with
    | none => simp [kindAt, pending, ended, held, beyond]
    | some fault =>
      rcases Nat.eq_or_lt_of_le beyond with same | past
      · simp [kindAt, pending, ended, held, ← same, Except.toOption]
      · have nothing : filled.pending[n]? = none := by
          rw [List.getElem?_eq_none_iff]
          simp [pending, ended, held]
          omega
        simp [kindAt, nothing, beyond]

end View

end Offside
