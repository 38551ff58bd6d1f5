import Offside.Proofs.LeafSteps
import Offside.Proofs.ReceiverNames

/-! The receivers of a cascade. Its root is stored under a name of its own, and so is every step that a
deeper step follows. A step acts on the root if it has degree one, and otherwise on the latest step
before it that is one degree less deep; degrees may rise by one and fall as they like. -/

namespace Offside.Lowering

/-- The statement that stores a value under a name. -/
def storing (loc : Option Location) (name : String) (value : Target.Expr) : Target.Stmt :=
  .expression loc (.assignment loc .assign (.identifier loc name) value)

/-- What became of a step of a cascade. -/
structure Performed where
  step : Script.Stmt
  degree : Nat
  /-- The name for which virtual objects stand in the step. -/
  receiver : String
  /-- The name under which the value of the step is stored, if it is. -/
  name : Option String
  /-- The pass in which the step is lowered, and what is left of it. -/
  start : Pass
  finish : Pass
  output : List Target.Stmt

/-- How a step is lowered. Its virtual objects become the name of the receiver. If a deeper step
follows, the step is an expression, and its value is stored under a name made up for it. -/
structure Performed.Lowered (vocabulary : Target.Vocabulary) (loc : Option Location) (deeper : Prop)
    (performed : Performed) : Prop where
  receives : innermostReceiver performed.start.frames = some performed.receiver
  stored : deeper → ∃ own expr name value middle,
    performed.step = .expression own expr ∧ performed.name = some name ∧
    freshName cascadeStem performed.start = (.ok name, middle) ∧
    lowerExpr vocabulary expr middle = (.ok value, performed.finish) ∧
    lowerExpr vocabulary (expr.withReceiver performed.receiver) middle =
      (.ok value, performed.finish) ∧
    performed.output = [storing loc name value]
  plain : ¬ deeper → performed.name = none ∧ ∃ expansion,
    lowerStmt vocabulary performed.step performed.start = (.ok expansion, performed.finish) ∧
    lowerStmt vocabulary (performed.step.withReceiver performed.receiver) performed.start =
      (.ok expansion, performed.finish) ∧
    performed.output = expansion.toList

/-- Passes in the steps of a cascade that differ at most in its receivers. -/
def Turned (pass other : Pass) : Prop :=
  ∃ receivers, other = pass.receive receivers

/-- Steps that are lowered one after another. Only the receivers change between two of them. -/
def Continues : Pass → List Performed → Pass → Prop
  | pass, [], last => Turned pass last
  | pass, performed :: rest, last =>
    Turned pass performed.start ∧ Continues performed.finish rest last

/-- The latest of some steps that has a degree. -/
def latestOf (degree : Nat) (performed : List Performed) : Option Performed :=
  (performed.filter fun host => host.degree == degree).getLast?

/-- On what a step acts that comes after some others. -/
structure ActsOn (root : String) (before : List Performed) (performed : Performed) : Prop where
  positive : 0 < performed.degree
  root : performed.degree = 1 → performed.receiver = root
  host : performed.degree ≠ 1 → ∃ host, latestOf (performed.degree - 1) before = some host ∧
    host.name = some performed.receiver

/-! ### Receivers by degree -/

private theorem latestOf_concat_same (before : List Performed) (performed : Performed) :
    latestOf performed.degree (before ++ [performed]) = some performed := by
  simp [latestOf]

private theorem latestOf_concat_other {degree : Nat} (before : List Performed)
    {performed : Performed}
    (other : performed.degree ≠ degree) :
    latestOf degree (before ++ [performed]) = latestOf degree before := by
  simp [latestOf, other]

/-- The receivers after some steps: the root, and for each degree the name of the latest step that
has it. -/
structure Reached (root : String) (before : List Performed) (held : List String) : Prop where
  root : held[0]? = some root
  hosts : ∀ degree receiver, 0 < degree → held[degree]? = some receiver →
    ∃ host, latestOf degree before = some host ∧ host.name = some receiver

/-- A step acts on the last of the receivers up to its degree. These are there for the next step, and
after them the name of the step itself, if it has one. -/
structure Takes (held : List String) (performed : Performed) (next : List String) : Prop where
  positive : 0 < performed.degree
  receiver : held[performed.degree - 1]? = some performed.receiver
  next : next = held.take performed.degree ++ performed.name.toList

namespace Reached

variable {root : String} {before : List Performed} {held next : List String} {performed : Performed}

theorem start (root : String) : Reached root [] [root] where
  root := rfl
  hosts degree receiver positive found := by
    obtain ⟨n, rfl⟩ := Nat.exists_eq_succ_of_ne_zero (Nat.ne_of_gt positive)
    cases found

private theorem actsOn (reached : Reached root before held) (takes : Takes held performed next) :
    ActsOn root before performed where
  positive := takes.positive
  root one := by
    have found := takes.receiver
    rw [one] at found
    exact Option.some.inj (found.symm.trans reached.root)
  host other := by
    have positive : 0 < performed.degree - 1 := by
      have := takes.positive
      omega
    exact reached.hosts _ _ positive takes.receiver

theorem after (reached : Reached root before held) (takes : Takes held performed next) :
    Reached root (before ++ [performed]) next := by
  have positive := takes.positive
  obtain ⟨within, -⟩ := List.getElem?_eq_some_iff.mp takes.receiver
  have size : (held.take performed.degree).length = performed.degree := by
    rw [List.length_take]
    omega
  have early (degree : Nat) (less : degree < performed.degree) : next[degree]? = held[degree]? := by
    rw [takes.next, List.getElem?_append_left (by omega), List.getElem?_take_of_lt less]
  constructor
  · rw [early 0 positive, reached.root]
  · intro degree receiver above found
    by_cases less : degree < performed.degree
    · rw [early degree less] at found
      rw [latestOf_concat_other before (Nat.ne_of_gt less)]
      exact reached.hosts degree receiver above found
    · -- Above the degree of the step there is only its own name.
      rw [takes.next, List.getElem?_append_right (by omega), size] at found
      cases name : performed.name with
      | none =>
        rw [name] at found
        cases found
      | some own =>
        rw [name] at found
        have same : degree = performed.degree := by
          have bound := (List.getElem?_eq_some_iff.mp found).1
          simp only [Option.toList_some, List.length_singleton] at bound
          omega
        rw [same, Nat.sub_self] at found
        rw [same, latestOf_concat_same]
        exact ⟨performed, rfl, name.trans found⟩

end Reached

/-! ### Lowering the steps -/

namespace Turned

variable {pass middle last : Pass}

theorem refl {held : List String} {outer : List Frame} (top : pass.frames = .cascade held :: outer) :
    Turned pass pass := by
  refine ⟨held, ?_⟩
  ext1 <;> simp [top]

theorem trans (first : Turned pass middle) (second : Turned middle last) : Turned pass last := by
  obtain ⟨_, rfl⟩ := first
  obtain ⟨receivers, rfl⟩ := second
  exact ⟨receivers, rfl⟩

theorem continues {performed : List Performed} (turned : Turned pass middle)
    (continues : Continues middle performed last) : Continues pass performed last := by
  cases performed with
  | nil => exact turned.trans continues
  | cons first rest => exact ⟨turned.trans continues.1, continues.2⟩

end Turned

section

variable {vocabulary : Target.Vocabulary} {loc : Option Location} {pass start finish later : Pass}
  {held : List String} {outer : List Frame} {step : Script.Stmt} {receiver : String}

/-- Lowering a part of a step leaves the cascade on top of the frames. -/
theorem Keeps.onTop {lowering : Lower α} {result : Except Fault α} (keeps : Keeps lowering)
    (top : pass.frames = .cascade held :: outer) (ran : lowering pass = (result, later)) :
    ∃ below, later.frames = .cascade held :: below := by
  obtain ⟨names, frames⟩ := (keeps pass).frames
  rw [ran, top] at frames
  exact ⟨_, frames⟩

/-- The receiver of a step is the innermost one while it is lowered. -/
private theorem innermostReceiver_take {degree : Nat} (positive : 0 < degree)
    (found : held[degree - 1]? = some receiver) :
    innermostReceiver (.cascade (held.take degree) :: outer) = some receiver := by
  obtain ⟨within, -⟩ := List.getElem?_eq_some_iff.mp found
  rw [innermostReceiver, List.getLast?_eq_getElem?, List.length_take, Nat.min_eq_left (by omega),
    List.getElem?_take_of_lt (by omega), found]

private theorem lowered_plain {deeper : Prop} {degree : Nat} {expansion : Expansion Target.Stmt}
    (shallow : ¬ deeper) (receives : innermostReceiver start.frames = some receiver)
    (ran : lowerStmt vocabulary step start = (.ok expansion, finish)) :
    Performed.Lowered vocabulary loc deeper
      ⟨step, degree, receiver, none, start, finish, expansion.toList⟩ where
  receives := receives
  stored deep := absurd deep shallow
  plain _ := by
    have same := (agrees_stmt vocabulary step).same start receives
    exact ⟨rfl, expansion, ran, same.trans ran, rfl⟩

private theorem lowered_stored {deeper : Prop} {degree : Nat} {own : Option Location}
    {expr : Script.Expr}
    {name : String} {value : Target.Expr} {middle : Pass} (deep : deeper)
    (receives : innermostReceiver start.frames = some receiver)
    (named : freshName cascadeStem start = (.ok name, middle))
    (ran : lowerExpr vocabulary expr middle = (.ok value, finish)) :
    Performed.Lowered vocabulary loc deeper
      ⟨.expression own expr, degree, receiver, some name, start, finish, [storing loc name value]⟩ where
  receives := receives
  stored _ := by
    have still : innermostReceiver middle.frames = some receiver := by
      obtain ⟨-, rfl, rfl⟩ := freshName_eq_ok.mp named
      rw [start.mint_free_frames, innermostReceiver_extendScope, receives]
    have same := (agrees_expr vocabulary expr).same middle still
    exact ⟨own, expr, name, value, middle, rfl, rfl, named, ran, same.trans ran, rfl⟩
  plain shallow := absurd deep shallow

private theorem lowerStored_eq_ok {stmt : Target.Stmt}
    (ran : lowerStored vocabulary loc held step pass = (.ok stmt, later)) :
    ∃ own expr name value middle finish, step = .expression own expr ∧
      freshName cascadeStem pass = (.ok name, middle) ∧
      lowerExpr vocabulary expr middle = (.ok value, finish) ∧
      setReceivers true (held ++ [name]) finish = (.ok (), later) ∧ stmt = storing loc name value := by
  cases step with
  | expression own expr =>
    obtain ⟨name, middle, named, ran⟩ := Lower.bind_eq_ok.mp ran
    obtain ⟨value, finish, valued, ran⟩ := Lower.bind_eq_ok.mp ran
    obtain ⟨built, _, assigned, ran⟩ := Lower.bind_eq_ok.mp ran
    obtain ⟨rfl, rfl⟩ := Silent.assignStmt vocabulary loc name value finish built _ assigned
    obtain ⟨_, _, set, ran⟩ := Lower.bind_eq_ok.mp ran
    cases ran
    exact ⟨own, expr, name, value, middle, _, rfl, named, valued, set, rfl⟩
  | _ => cases ran

/-- A degree that rises, but by no more than one. -/
private theorem head?_eq_succ {degree : Nat} {degrees : List Nat}
    (rises : ¬ degrees.head?.getD 0 ≤ degree) (near : ¬ degree + 1 < degrees.head?.getD 0) :
    degrees.head? = some (degree + 1) := by
  cases head : degrees.head? with
  | none =>
    rw [head, Option.getD_none] at rises
    omega
  | some next =>
    rw [head, Option.getD_some] at rises near
    have same : next = degree + 1 := by omega
    rw [same]

/-- All that happens at a step of a cascade that is lowered. -/
private theorem lowerSteps_cons_eq_ok {degree : Nat} {degrees : List Nat} {steps : List Script.Stmt}
    {outputs : List Target.Stmt} (top : pass.frames = .cascade held :: outer)
    (ran : lowerSteps vocabulary true loc (degree :: degrees) (step :: steps) pass =
      (.ok outputs, later)) :
    ∃ (performed : Performed) (next : List String) (middle : Pass) (below : List Frame)
      (rest : List Target.Stmt),
      performed.step = step ∧ performed.degree = degree ∧ Takes held performed next ∧
      Turned pass performed.start ∧
      performed.Lowered vocabulary loc (degrees.head? = some (degree + 1)) ∧
      Turned performed.finish middle ∧ middle.frames = .cascade next :: below ∧
      lowerSteps vocabulary true loc degrees steps middle = (.ok rest, later) ∧
      outputs = performed.output ++ rest := by
  rw [lowerSteps_cons] at ran
  obtain ⟨_, _, read, ran⟩ := Lower.bind_eq_ok.mp ran
  rw [receivers_eq top] at read
  cases read
  split at ran
  · cases ran
  rename_i reachable
  have positive : 0 < degree := by omega
  obtain ⟨receiver, found⟩ : ∃ receiver, held[degree - 1]? = some receiver :=
    ⟨_, List.getElem?_eq_getElem (by omega)⟩
  have receives : innermostReceiver (pass.receive (held.take degree)).frames = some receiver :=
    innermostReceiver_take positive found
  obtain ⟨_, start, set, ran⟩ := Lower.bind_eq_ok.mp ran
  rw [setReceivers_eq _ top] at set
  obtain ⟨-, rfl⟩ := Prod.mk.inj set
  have turned : Turned pass (pass.receive (held.take degree)) := ⟨_, rfl⟩
  split at ran
  · rename_i bounded
    have shallow : ¬ degrees.head? = some (degree + 1) := by
      intro deeper
      rw [deeper, Option.getD_some] at bounded
      omega
    obtain ⟨expansion, finish, lowered, ran⟩ := Lower.bind_eq_ok.mp ran
    obtain ⟨rest, _, continued, ran⟩ := Lower.bind_eq_ok.mp ran
    cases ran
    obtain ⟨below, frames⟩ := (closed_keeps.stmt vocabulary step).onTop rfl lowered
    exact ⟨_, held.take degree, finish, below, rest, rfl, rfl,
      ⟨positive, found, (List.append_nil _).symm⟩, turned, lowered_plain shallow receives lowered,
      .refl frames, frames, continued, rfl⟩
  · split at ran
    · cases ran
    rename_i unbounded near
    have deeper := head?_eq_succ unbounded near
    obtain ⟨stmt, middle, stored, ran⟩ := Lower.bind_eq_ok.mp ran
    obtain ⟨rest, _, continued, ran⟩ := Lower.bind_eq_ok.mp ran
    cases ran
    obtain ⟨own, expr, name, value, between, finish, rfl, named, lowered, set, rfl⟩ :=
      lowerStored_eq_ok stored
    obtain ⟨above, framesBetween⟩ := (keeps_freshName cascadeStem).onTop rfl named
    obtain ⟨below, frames⟩ := (closed_keeps.expr vocabulary expr).onTop framesBetween lowered
    rw [setReceivers_eq _ frames] at set
    obtain ⟨-, rfl⟩ := Prod.mk.inj set
    exact ⟨_, held.take degree ++ [name], _, below, rest, rfl, rfl, ⟨positive, found, rfl⟩, turned,
      lowered_stored deeper receives named lowered, ⟨_, rfl⟩, by simp [frames], continued, rfl⟩

/-- The steps of a cascade that are lowered, after some that were. By induction on the steps: the
receivers that are held tell the latest step of each degree. -/
private theorem lowerSteps_eq_ok {root : String} {degrees : List Nat} {steps : List Script.Stmt}
    {outputs : List Target.Stmt} {before : List Performed} (fit : steps.length = degrees.length)
    (top : pass.frames = .cascade held :: outer) (reached : Reached root before held)
    (ran : lowerSteps vocabulary true loc degrees steps pass = (.ok outputs, later)) :
    ∃ performed : List Performed, performed.map Performed.step = steps ∧
      performed.map Performed.degree = degrees ∧ outputs = performed.flatMap Performed.output ∧
      Continues pass performed later ∧
      ∀ i current, performed[i]? = some current →
        current.Lowered vocabulary loc (degrees[i + 1]? = some (current.degree + 1)) ∧
        ActsOn root (before ++ performed.take i) current := by
  induction steps generalizing degrees pass held outer outputs before with
  | nil =>
    obtain rfl : degrees = [] := List.length_eq_zero_iff.mp fit.symm
    cases ran
    exact ⟨[], rfl, rfl, rfl, .refl top, nofun⟩
  | cons step steps ih =>
    cases degrees with
    | nil => cases fit
    | cons degree degrees =>
      obtain ⟨first, next, middle, below, rest, rfl, rfl, takes, turned, lowered, again, frames,
        continued, rfl⟩ := lowerSteps_cons_eq_ok top ran
      obtain ⟨performed, rfl, rfl, rfl, continues, each⟩ :=
        ih (Nat.succ.inj fit) frames (reached.after takes) continued
      refine ⟨first :: performed, rfl, rfl, rfl, ⟨turned, again.continues continues⟩, ?_⟩
      intro i current found
      cases i with
      | zero =>
        cases found
        rw [List.take_zero, List.append_nil]
        rw [List.head?_eq_getElem?] at lowered
        exact ⟨lowered, reached.actsOn takes⟩
      | succ i =>
        have later := each i current found
        rwa [List.append_assoc] at later

end

/-- A cascade that is lowered becomes the statement that stores its root under a name made up for it,
and what its steps become, in their order. A step that a deeper one follows becomes the statement that
stores its value under a name made up for it, any other what it is lowered to. In a step, virtual
objects are lowered as if the name of its receiver were written there, except in the steps of a cascade
inside: the name of the root in a step of degree one, in any other that of the latest step before it
with the degree below. The steps are lowered one after another, and only receivers change in between. -/
theorem cascade_receivers (vocabulary : Target.Vocabulary) (loc : Option Location)
    (root : Script.Expr) (steps : List Script.Stmt) (degrees : List Nat) (pass later : Pass)
    (expansion : Expansion Target.Stmt)
    (lowered : lowerStmt vocabulary (.cascade loc root steps degrees) pass = (.ok expansion, later)) :
    ∃ (name : String) (value : Target.Expr) (named valued last : Pass) (performed : List Performed),
      performed.map Performed.step = steps ∧ performed.map Performed.degree = degrees ∧
      expansion = .spread (storing loc name value :: performed.flatMap Performed.output) ∧
      freshName rootStem pass = (.ok name, named) ∧
      lowerExpr vocabulary root named = (.ok value, valued) ∧
      Continues (valued.push (.cascade name)) performed last ∧
      later = last.pop ∧
      ∀ i current, performed[i]? = some current →
        current.Lowered vocabulary loc (degrees[i + 1]? = some (current.degree + 1)) ∧
        0 < current.degree ∧ (current.degree = 1 → current.receiver = name) ∧
        (current.degree ≠ 1 → ∃ host, latestOf (current.degree - 1) (performed.take i) = some host ∧
          host.name = some current.receiver) := by
  rw [lowerStmt] at lowered
  split at lowered
  · cases lowered
  rename_i fit
  obtain ⟨name, named, fresh, lowered⟩ := Lower.bind_eq_ok.mp lowered
  obtain ⟨value, valued, rooted, lowered⟩ := Lower.bind_eq_ok.mp lowered
  obtain ⟨first, _, assigned, lowered⟩ := Lower.bind_eq_ok.mp lowered
  obtain ⟨rfl, rfl⟩ := Silent.assignStmt vocabulary loc name value valued first _ assigned
  obtain ⟨⟨outputs, frame⟩, _, inside, lowered⟩ := Lower.bind_eq_ok.mp lowered
  obtain ⟨last, ran, -, rfl⟩ := Lower.withFrame_eq_ok.mp inside
  cases lowered
  obtain ⟨performed, same, sameDegrees, rfl, continues, each⟩ :=
    lowerSteps_eq_ok (by simpa using fit) rfl (.start name) ran
  refine ⟨name, value, named, _, last, performed, same, sameDegrees, rfl, fresh, rooted, continues, rfl,
    fun i current found => ?_⟩
  obtain ⟨performs, acts⟩ := each i current found
  exact ⟨performs, acts.positive, acts.root, acts.host⟩

/-- Steps that go one deeper and come back. The last is a cascade whose root is a virtual object. -/
def canvasSteps : List Script.Stmt :=
  [.expression none (.call none
      (.member none (.virtualObject none) (.identifier none "context") false) []),
    .expression none (.call none
      (.member none (.virtualObject none) (.identifier none "fill") false) [.virtualObject none]),
    .cascade none (.virtualObject none) [.expression none (.virtualObject none)] [1]]

def canvas : Script.Stmt := .cascade none (.identifier none "canvas") canvasSteps [1, 2, 1]

private theorem lower_canvas : ∃ expansion later,
    lowerStmt .full canvas ((Pass.start [] {}).push .scope) = (.ok expansion, later) := by
  have evaluated : (lowerStmt .full canvas ((Pass.start [] {}).push .scope)).1.isOk = true := by
    decide +kernel
  cases ran : lowerStmt .full canvas ((Pass.start [] {}).push .scope) with
  | mk result later =>
    cases result with
    | ok expansion => exact ⟨expansion, later, rfl⟩
    | error fault =>
      rw [ran] at evaluated
      cases evaluated

theorem cascade_receivers_canvas : ∃ expansion later,
    lowerStmt .full canvas ((Pass.start [] {}).push .scope) = (.ok expansion, later) ∧
    ∃ (root stored : String) (value : Target.Expr) (performed : List Performed),
      expansion = .spread (storing none root value :: performed.flatMap Performed.output) ∧
      performed.map Performed.step = canvasSteps ∧
      performed.map Performed.receiver = [root, stored, root] ∧
      performed.map Performed.name = [some stored, none, none] := by
  obtain ⟨expansion, later, ran⟩ := lower_canvas
  obtain ⟨root, value, _, _, _, performed, steps, degrees, outputs, -, -, -, -, each⟩ :=
    cascade_receivers .full none (.identifier none "canvas") canvasSteps [1, 2, 1] _ later expansion ran
  obtain ⟨first, _, rfl, one, degrees⟩ := List.map_eq_cons_iff.mp degrees
  obtain ⟨second, _, rfl, two, degrees⟩ := List.map_eq_cons_iff.mp degrees
  obtain ⟨third, _, rfl, again, degrees⟩ := List.map_eq_cons_iff.mp degrees
  obtain rfl := List.map_eq_nil_iff.mp degrees
  obtain ⟨-, -, onRoot, -⟩ := each 0 first rfl
  obtain ⟨lowered, -, -, onHost⟩ := each 1 second rfl
  obtain ⟨last, -, backOnRoot, -⟩ := each 2 third rfl
  obtain ⟨host, latest, named⟩ := onHost (by rw [two]; decide)
  have same : host = first := by
    simpa [latestOf, two, one] using latest.symm
  subst same
  refine ⟨expansion, later, ran, root, second.receiver, value, _, outputs, steps, ?_, ?_⟩
  · simp [onRoot one, backOnRoot again]
  · simp [named, (lowered.plain (by simp [two])).1, (last.plain (by simp)).1]

end Offside.Lowering
