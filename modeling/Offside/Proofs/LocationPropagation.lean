import Offside.Proofs.Acceptance
import Offside.Proofs.LocationFlow

/-! Whole programs and their locations. No location is made up, and where the program and its
statements, expressions and properties have locations, all that they become has. -/

namespace Offside.Lowering

open Script (Lend)
open Target (Stand)

/-- A location of the program, if there is one. -/
def Owned (program : Script.Program) (loc : Option Location) : Prop :=
  ∀ own, loc = some own → own ∈ program.locations

/-- A location of the program. -/
def Given (program : Script.Program) (loc : Option Location) : Prop :=
  ∃ own ∈ program.locations, loc = some own

theorem owned_loc (program : Script.Program) : Owned program program.loc := by
  intro own same
  simp [Script.Program.locations, same]

/-- A program lends nothing but its locations. -/
theorem lend_owned (program : Script.Program) : Lend (Owned program) program.nodes := by
  intro node member
  have owned : Owned program node.loc := by
    intro own same
    apply List.mem_append_right
    exact List.mem_filterMap.mpr ⟨node, member, same⟩
  constructor
  · intro _
    exact owned
  · intro own same
    exact same ▸ owned

theorem Owned.given (owned : Owned program loc) (present : loc.isSome = true) :
    Given program loc := by
  obtain ⟨own, same⟩ := Option.isSome_iff_exists.mp present
  exact ⟨own, owned own same, same⟩

private theorem lend_given {program : Script.Program} (located : program.Located) :
    Lend (Given program) program.nodes := by
  intro node member
  have lends := lend_owned program node member
  constructor
  · intro main
    exact (lends.main main).given (located.2 node member main)
  · intro own same
    exact (lends.given own same).given rfl

variable {kind : Option Location → Prop}

private theorem gives_program (vocabulary : Target.Vocabulary) {program : Script.Program}
    (known : kind program.loc) (lend : Lend kind program.nodes) :
    Gives kind AtTop (fun lowered => kind lowered.loc ∧ Stand kind lowered.nodes)
      (lowerProgram vocabulary program) := by
  have enters (pass : Pass) (top : AtTop pass) :
      Ready (pass.push .scope) := ⟨rfl, top.faithful⟩
  rw [lowerProgram_eq]
  apply (Gives.listBody vocabulary known enters (fun _ _ => AtTop.kept)
    (closed_keeps.stmts vocabulary program.body) (gives_stmts vocabulary _ program.body lend) _).bind
  intro body stand
  apply Gives.required
  exact .pure ⟨known, stand⟩

namespace Engine

/-- An engine gives a program with locations of a kind, or a fault that can arise. -/
theorem lower_settles {engine : Engine} (faithful : engine.templates.Faithful)
    {program : Script.Program} (known : kind program.loc) (lend : Lend kind program.nodes) :
    Settles kind (fun lowered => kind lowered.loc ∧ Stand kind lowered.nodes)
      (engine.lower program).1 := by
  have top : AtTop (engine.start program) := ⟨rfl, faithful⟩
  obtain ⟨settles, remains⟩ := gives_program engine.vocabulary known lend _ top
  unfold lower
  revert settles remains
  rcases lowerProgram engine.vocabulary program (engine.start program) with ⟨fault | lowered, later⟩
  · intro settles _
    exact settles
  · intro settles remains
    have empty : later.frames = [] := remains.empty
    simpa only [empty, List.isEmpty_nil, ↓reduceIte] using settles

/-- Every location in what a program becomes is one of the program. If the program and its statements,
expressions and properties say where they stand, so does everything they become, and so does every
fault of a cascade. -/
theorem locations_propagate (vocabulary : Target.Vocabulary) (earlier : List Script.Program)
    (program : Script.Program) :
    (∀ lowered, ((({ vocabulary } : Engine).after earlier).lower program).1 = .ok lowered →
      (∀ loc ∈ lowered.locations, loc ∈ program.locations) ∧
        (program.Located → lowered.Located)) ∧
    (program.Located → ∀ fault loc,
      ((({ vocabulary } : Engine).after earlier).lower program).1 = .error (.cascade fault loc) →
        ∃ known ∈ program.locations, loc = some known) := by
  have faithful : (({ vocabulary } : Engine).after earlier).templates.Faithful :=
    after_faithful .empty earlier
  have owned := lower_settles faithful (owned_loc program) (lend_owned program)
  have given (located : program.Located) :=
    lower_settles faithful ((owned_loc program).given located.1) (lend_given located)
  constructor
  · intro lowered ran
    rw [ran] at owned given
    constructor
    · cases owned with
      | ok stands =>
        intro loc member
        rcases List.mem_append.mp member with own | inner
        · exact stands.1 loc (Option.mem_toList.mp own)
        · obtain ⟨node, inside, own⟩ := List.mem_filterMap.mp inner
          exact stands.2 node inside loc own
    · intro located
      cases given located with
      | ok stands =>
        constructor
        · obtain ⟨loc, -, own⟩ := stands.1
          rw [own]
          rfl
        · intro node inside
          obtain ⟨loc, -, own⟩ := stands.2 node inside
          rw [own]
          rfl
  · intro located fault loc ran
    have settles := given located
    rw [ran] at settles
    cases settles with
    | error arises => exact arises

/-- A stretch of one column, for programs on one line. -/
def columnAt (column : Nat) : Option Location := some ⟨⟨1, column⟩, ⟨1, column + 1⟩⟩

/-- A chain with a floor division in it, and a bound generator that does not say where its parts
stand. -/
def trackedScript : Script.Program :=
  ⟨columnAt 0, [.expression (columnAt 1) (.compareChain (columnAt 2)
      [.identifier (columnAt 3) "a",
        .binary (columnAt 4) .floorDiv (.identifier (columnAt 5) "b") (.literal (columnAt 6) .null),
        .identifier (columnAt 7) "c"] [.less, .less]),
    .declaring (columnAt 8) [.mk none (.identifier (columnAt 9) "f")
      (some (.function (columnAt 10) (.mk none [] (.mk none []) none true false))) true]]⟩

/-- A virtual object outside of cascades. -/
def strayScript : Script.Program :=
  ⟨columnAt 0, [.expression (columnAt 1) (.virtualObject (columnAt 2))]⟩

theorem locations_propagate_tracked :
    trackedScript.Located ∧
    (∃ lowered, (({} : Engine).lower trackedScript).1 = .ok lowered ∧
      (∀ loc ∈ lowered.locations, loc ∈ trackedScript.locations) ∧ lowered.Located) ∧
    strayScript.Located ∧
    ∃ fault loc, (({} : Engine).lower strayScript).1 = .error (.cascade fault loc) ∧
      ∃ known ∈ strayScript.locations, loc = some known := by
  have tracked : trackedScript.Located := ⟨rfl, by decide +kernel⟩
  have stray : strayScript.Located := ⟨rfl, by decide +kernel⟩
  have evaluated : (({} : Engine).lower trackedScript).1.isOk = true := by decide +kernel
  have strays : (({} : Engine).lower strayScript).1 = .error (.cascade .outside (columnAt 2)) := rfl
  refine ⟨tracked, ?_, stray, .outside, columnAt 2, strays, ?_⟩
  · cases ran : (({} : Engine).lower trackedScript).1 with
    | error fault =>
      rw [ran] at evaluated
      cases evaluated
    | ok lowered =>
      obtain ⟨inside, all⟩ := (locations_propagate .full [] trackedScript).1 lowered ran
      exact ⟨lowered, rfl, inside, all tracked⟩
  · exact (locations_propagate .full [] strayScript).2 stray _ _ strays

end Engine

end Offside.Lowering
