import Offside.Proofs.BodyPartition
import Offside.Proofs.Conservation

/-! The names that lowering makes up. They differ from one another and from every name of the program,
and those of one stem have the smallest numbers that the program leaves free, in order. This holds of
every engine and also of programs that cannot be lowered. In a program that is lowered they are the new
names of the target, made up in the order in which the tree asks for them. -/

namespace Offside.Lowering

/-- A name that was made up on the way stands in the target. -/
private theorem Lowers.mem_of_minted (lowers : Lowers available reserved source target opened later)
    (made : x ∈ later) (new : x ∉ reserved) : ∃ role, .name role x ∈ target := by
  induction lowers with
  | @insert _ _ _ _ _ middle _ _ _ _ _ _ _ ihFirst ihNext =>
    by_cases between : x ∈ middle
    · obtain ⟨role, found⟩ := ihFirst between new
      exact ⟨role, by simp [found]⟩
    · obtain ⟨role, found⟩ := ihNext made between
      refine ⟨role, ?_⟩
      rcases List.mem_append.mp found with before | after
      · simp [before]
      · simp [after]
  | reorder _ _ ih => exact ih made new
  | @mint stem reserved _ _ _ _ _ _ _ ih =>
    by_cases same : x = freeName stem reserved
    · exact ⟨.assigned, by simp [same]⟩
    · obtain ⟨role, found⟩ := ih made (by simp [same, new])
      exact ⟨role, List.mem_cons_of_mem _ found⟩
  | scope _ within _ ih =>
    obtain ⟨role, found⟩ := ih made new
    refine ⟨role, List.mem_cons_of_mem _ ?_⟩
    rw [within]
    exact List.mem_append_right _ found
  | _ => exact absurd made new

namespace Engine

/-- The names that templates bring. -/
def templateNames : List String := ["Math", "floor", "apply"]

variable {engine : Engine} {program : Script.Program} {lowered : Target.Program}

/-- The names are made up in the order in which the tree asks for them. -/
private theorem minted_eq_mintedNames (ran : (engine.lower program).1 = .ok lowered) :
    engine.minted program =
      mintedNames (engine.start program).reserved (Script.stmtMintings program.body) := by
  obtain ⟨later, ran, -⟩ := lower_fst_eq_ok.mp ran
  have finished : engine.finish program = later := congrArg Prod.snd ran
  rw [lowerProgram_eq] at ran
  obtain ⟨_, -, parted⟩ := parted_wrapped ran
  have gained := (engine.supplied_minted program).later_eq
  rw [finished, parted.reserved] at gained
  exact List.reverse_injective (List.append_cancel_right gained.symm)

private theorem mem_identifiers_of_minted (faithful : engine.templates.Faithful)
    (ran : (engine.lower program).1 = .ok lowered) (made : name ∈ engine.minted program) :
    name ∈ lowered.identifiers := by
  have supplied := engine.supplied_minted program
  have known : name ∈ (engine.finish program).reserved := by
    rw [supplied.later_eq]
    exact List.mem_append_left _ (List.mem_reverse.mpr made)
  obtain ⟨role, found⟩ := (lower_traced faithful ran).mem_of_minted known (supplied.fresh name made)
  have inside : .name role name ∈ Target.leaves lowered.nodes := by simpa using found
  rw [Target.Program.identifiers, ← List.count_pos_iff, ← Target.countP_brings_leaves]
  exact List.countP_pos_iff.mpr ⟨_, inside, by simp [Target.Leaf.brings]⟩

private theorem not_mem_templateNames (made : name ∈ engine.minted program) :
    name ∉ templateNames := by
  obtain ⟨stem, known, begins⟩ := (engine.supplied_minted program).stem_known name made
  intro brought
  simp only [stems, templateNames, List.mem_cons, List.not_mem_nil, or_false] at known brought
  rcases known with rfl | rfl | rfl <;> rcases brought with rfl | rfl | rfl <;>
    exact absurd begins (by decide)

/-- The names made up are those of the target that neither the program nor a template brings. -/
private theorem mem_minted_iff (faithful : engine.templates.Faithful)
    (ran : (engine.lower program).1 = .ok lowered) :
    name ∈ engine.minted program ↔
      name ∈ lowered.identifiers ∧ name ∉ program.identifiers ∧ name ∉ templateNames := by
  constructor
  · intro made
    refine ⟨mem_identifiers_of_minted faithful ran made, ?_, not_mem_templateNames made⟩
    rw [← engine.mem_start_reserved]
    exact (engine.supplied_minted program).fresh name made
  · rintro ⟨used, absent, own⟩
    by_contra notMinted
    have count := count_identifiers faithful ran notMinted
    simp only [templateNames, List.mem_cons, List.not_mem_nil, or_false, not_or] at own
    simp only [own, List.count_eq_zero.mpr absent, or_self, ↓reduceIte, Nat.add_zero] at count
    exact List.count_eq_zero.mp count used

/-- The names made up differ from one another and from all names of the program. Each has one of the
stems, and those of one stem carry the smallest numbers that make names the program does not have. A name
that a step makes up was not reserved and is from then on, and so are all those made up in a pass. If the
program is lowered, they are made up in the order in which its tree asks for them; and they are the names
of the target that neither the program nor a template brings. -/
theorem minted_hygienic (engine : Engine) (program : Script.Program) :
    (engine.minted program).Nodup ∧
      (∀ name ∈ engine.minted program, name ∉ program.identifiers) ∧
      (∀ name ∈ engine.minted program, ∃ stem ∈ stems, hasStem stem name = true) ∧
      (∀ stem ∈ stems, ∃ numbers : List Nat,
        (engine.minted program).filter (hasStem stem) = numbers.map (candidate stem) ∧
          Smallest (fun n => 0 < n ∧ candidate stem n ∉ program.identifiers) numbers) ∧
      (∀ stem pass name later, freshName stem pass = (.ok name, later) →
        name ∉ pass.reserved ∧ later.reserved = name :: pass.reserved) ∧
      (engine.finish program).reserved =
        (engine.minted program).reverse ++ (engine.start program).reserved ∧
      ∀ lowered, (engine.lower program).1 = .ok lowered →
        engine.minted program =
          mintedNames (engine.start program).reserved (Script.stmtMintings program.body) ∧
        (engine.templates.Faithful → ∀ name, name ∈ engine.minted program ↔
          name ∈ lowered.identifiers ∧ name ∉ program.identifiers ∧ name ∉ templateNames) := by
  have supplied := engine.supplied_minted program
  refine ⟨supplied.nodup, ?_, supplied.stem_known, ?_, ?_, supplied.later_eq, ?_⟩
  · intro name member old
    exact supplied.fresh name member ((engine.mem_start_reserved program name).mpr old)
  · intro stem known
    have free : Free stem (engine.start program).reserved =
        fun n => 0 < n ∧ candidate stem n ∉ program.identifiers := by
      funext n
      rw [Free, engine.mem_start_reserved]
    rw [← free]
    exact supplied.smallest known
  · intro stem pass name later named
    obtain ⟨-, rfl, rfl⟩ := freshName_eq_ok.mp named
    exact ⟨freeName_not_mem stem pass.reserved, rfl⟩
  · intro lowered ran
    exact ⟨minted_eq_mintedNames ran, fun faithful name => mem_minted_iff faithful ran⟩

/-- Comparisons in a function and around it. The program has a name that looks made up. -/
def comparedTwice : Script.Program :=
  ⟨none, [.expression none (.compareChain none
      [.identifier none "_temp$2", .thisObject none, .thisObject none] [.less, .less]),
    .function none (.identifier none "f") (.mk none [] (.mk none [threefold]) none false false)]⟩

theorem minted_hygienic_comparedTwice :
    ∃ lowered, (({} : Engine).lower comparedTwice).1 = .ok lowered ∧
      ({} : Engine).minted comparedTwice = ["_temp$1", "_temp$3"] ∧
      "_temp$3" ∈ lowered.identifiers ∧ "_temp$2" ∉ ({} : Engine).minted comparedTwice := by
  have succeeds : (({} : Engine).lower comparedTwice).1.isOk := by decide +kernel
  have minted : ({} : Engine).minted comparedTwice = ["_temp$1", "_temp$3"] := by decide +kernel
  obtain ⟨-, apart, -, -, -, -, ties⟩ := ({} : Engine).minted_hygienic comparedTwice
  cases ran : (({} : Engine).lower comparedTwice).1 with
  | error fault => simp [ran, Except.isOk, Except.toBool] at succeeds
  | ok lowered =>
    have made : "_temp$3" ∈ ({} : Engine).minted comparedTwice := by simp [minted]
    refine ⟨lowered, rfl, minted, (((ties lowered ran).2 .empty _).mp made).1, fun taken => ?_⟩
    exact apart "_temp$2" taken (by decide +kernel)

end Engine

end Offside.Lowering
