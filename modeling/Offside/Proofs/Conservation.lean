import Offside.Proofs.LeafSoundness

/-! Lowering neither drops nor repeats what a script says. Every name stands in the target as often as
in the script, but for the names that floor divisions and bound generators bring and those made up, and
the literals are the same up to their order. -/

namespace Offside

/-- Whether a leaf makes a name stand in the target. -/
def Script.Leaf.brings (x : String) : Script.Leaf → Bool
  | .name _ y => y = x
  | .floorDivision => x = "Math" ∨ x = "floor"
  | .boundGenerator => x = "apply"
  | .literal _ | .virtual _ => false

def Script.Leaf.literal? : Script.Leaf → Option Literal
  | .literal value => some value
  | _ => none

def Target.Leaf.brings (x : String) : Target.Leaf → Bool
  | .name _ y => y = x
  | .literal _ | .body _ => false

def Target.Leaf.literal? : Target.Leaf → Option Literal
  | .literal value => some value
  | _ => none

namespace Script

theorem Node.countP_brings_leaf (x : String) (node : Node) :
    node.leaf?.toList.countP (Leaf.brings x) =
      node.name?.toList.count x +
        (if x = "Math" ∨ x = "floor" then (if node.isFloorDivision then 1 else 0) else 0) +
        (if x = "apply" then (if node.isBoundGenerator then 1 else 0) else 0) := by
  cases node with
  | expr place role node =>
    cases node with
    | identifier _ y =>
      by_cases same : y = x <;>
        simp [leaf?, name?, isFloorDivision, isBoundGenerator, Leaf.brings, same]
    | binary _ op =>
      cases op <;> simp [leaf?, name?, isFloorDivision, isBoundGenerator, Leaf.brings]
    | _ => simp [leaf?, name?, isFloorDivision, isBoundGenerator, Leaf.brings]
  | function place node =>
    cases node with
    | mk _ _ _ bound generator _ =>
      cases bounded : bound.getD (!place.inMethod) && generator <;>
        simp [leaf?, name?, isFloorDivision, isBoundGenerator, Leaf.brings, bounded]
  | _ => simp [leaf?, name?, isFloorDivision, isBoundGenerator]

theorem countP_brings_leaves (x : String) (nodes : List Node) :
    (leaves nodes).countP (Leaf.brings x) =
      (nodes.filterMap Node.name?).count x +
        (if x = "Math" ∨ x = "floor" then nodes.countP Node.isFloorDivision else 0) +
        (if x = "apply" then nodes.countP Node.isBoundGenerator else 0) := by
  induction nodes with
  | nil => simp
  | cons node nodes ih =>
    rw [leaves_cons, List.countP_append, ih, Node.countP_brings_leaf, filterMap_cons_toList,
      List.count_append, List.countP_cons, List.countP_cons]
    grind

theorem literals_leaves (nodes : List Node) :
    (leaves nodes).filterMap Leaf.literal? = nodes.filterMap Node.literal? := by
  rw [leaves, List.filterMap_filterMap]
  congr
  funext node
  cases node with
  | expr _ _ node =>
    cases node with
    | binary _ op => cases op <;> rfl
    | _ => rfl
  | function place node =>
    cases node with
    | mk _ _ _ bound generator _ =>
      cases bounded : bound.getD (!place.inMethod) && generator <;>
        simp [Node.leaf?, Node.literal?, Leaf.literal?, bounded]
  | _ => rfl

end Script

namespace Target

theorem Node.countP_brings_leaf (x : String) (node : Node) :
    node.leaf?.toList.countP (Leaf.brings x) = node.name?.toList.count x := by
  cases node with
  | expr role node =>
    cases node with
    | identifier _ y => by_cases same : y = x <;> simp [leaf?, name?, Leaf.brings, same]
    | _ => simp [leaf?, name?, Leaf.brings]
  | block node =>
    cases node with
    | mk => simp [leaf?, name?, Leaf.brings]
  | _ => simp [leaf?, name?]

theorem countP_brings_leaves (x : String) (nodes : List Node) :
    (leaves nodes).countP (Leaf.brings x) = (nodes.filterMap Node.name?).count x := by
  induction nodes with
  | nil => rfl
  | cons node nodes ih =>
    rw [leaves_cons, List.countP_append, ih, Node.countP_brings_leaf, filterMap_cons_toList,
      List.count_append]

theorem literals_leaves (nodes : List Node) :
    (leaves nodes).filterMap Leaf.literal? = nodes.filterMap Node.literal? := by
  rw [leaves, List.filterMap_filterMap]
  congr
  funext node
  cases node with
  | expr _ node => cases node <;> rfl
  | block node => cases node; rfl
  | _ => rfl

private theorem countP_brings_declared {x : String} {names : List String} (absent : x ∉ names) :
    (names.map (Leaf.name .declared)).countP (Leaf.brings x) = 0 := by
  rw [List.countP_eq_zero]
  rintro _ member brought
  obtain ⟨name, declared, rfl⟩ := List.mem_map.mp member
  have same : name = x := of_decide_eq_true brought
  exact absent (same ▸ declared)

end Target

namespace Lowering.Lowers

/-- A name that waits to be declared was made up meanwhile. -/
theorem opened_new (lowers : Lowers available reserved source target opened later)
    (member : x ∈ opened) : x ∈ later ∧ x ∉ reserved := by
  obtain ⟨minted, supplied, part⟩ := lowers.supplied
  have made := part.subset member
  refine ⟨?_, supplied.fresh x made⟩
  rw [supplied.later_eq]
  exact List.mem_append_left _ (List.mem_reverse.mpr made)

theorem countP_brings (lowers : Lowers available reserved source target opened later)
    (notAvailable : x ∉ available) (old : x ∈ later → x ∈ reserved) :
    target.countP (Target.Leaf.brings x) = source.countP (Script.Leaf.brings x) := by
  induction lowers with
  | nil => rfl
  | insert first next ihFirst ihNext =>
    -- Reserved names only grow, so a name that is old for the whole is old for both parts.
    have before := ihFirst notAvailable fun known => old (next.grows known)
    have after := ihNext notAvailable fun known => first.grows (old known)
    simp only [List.countP_append] at before after ⊢
    omega
  | reorder same _ ih =>
    rw [ih notAvailable old]
    exact same.countP_eq _
  | name => rfl
  | literal => rfl
  | @receiver _ y _ _ known =>
    have other : y ≠ x := fun same => notAvailable (same ▸ known)
    simp [Target.Leaf.brings, Script.Leaf.brings, other]
  | @reuse _ y _ known =>
    have other : y ≠ x := fun same => notAvailable (same ▸ known)
    simp [Target.Leaf.brings, other]
  | floorDivision =>
    by_cases math : x = "Math"
    · simp [Target.Leaf.brings, Script.Leaf.brings, math]
    · simp [Target.Leaf.brings, Script.Leaf.brings, math, eq_comm]
  | apply => simp [Target.Leaf.brings, Script.Leaf.brings, eq_comm]
  | @mint stem reserved _ _ _ _ _ known rest ih =>
    have made : freeName stem reserved ∉ reserved := freeName_not_mem stem reserved
    have other : freeName stem reserved ≠ x := by
      rintro rfl
      exact made (old (rest.grows (List.mem_cons_self ..)))
    have inside := ih (by simpa [other.symm] using notAvailable)
      fun known => List.mem_cons_of_mem _ (old known)
    simpa [Target.Leaf.brings, other] using inside
  | block => rfl
  | @scope opened _ _ _ _ _ _ opens within inside ih =>
    have notOpened : x ∉ opened := fun waits =>
      (inside.opened_new waits).2 (old (inside.opened_new waits).1)
    rw [List.countP_cons_of_neg (by simp [Target.Leaf.brings]), within, List.countP_append,
      Target.countP_brings_declared notOpened, ih notAvailable old, Nat.zero_add]

theorem literals (lowers : Lowers available reserved source target opened later) :
    (target.filterMap Target.Leaf.literal?).Perm (source.filterMap Script.Leaf.literal?) := by
  induction lowers with
  | @insert _ _ source inner _ _ more before after _ _ first next ihFirst ihNext =>
    have moved : (before ++ inner ++ after).Perm (inner ++ (before ++ after)) := by
      rw [← List.append_assoc]
      exact List.perm_append_comm.append_right after
    have parts := moved.filterMap Target.Leaf.literal?
    rw [List.filterMap_append (l := inner)] at parts
    rw [List.filterMap_append (l := source)]
    exact parts.trans (ihFirst.append ihNext)
  | reorder same _ ih => exact ih.trans (same.filterMap _)
  | mint _ _ ih => exact ih
  | @scope opened _ _ _ _ _ _ _ within _ ih =>
    have none : (opened.map (Target.Leaf.name .declared)).filterMap Target.Leaf.literal? = [] := by
      simp [Target.Leaf.literal?]
    rw [List.filterMap_cons_none rfl, within, List.filterMap_append, none, List.nil_append]
    exact ih
  | _ => exact .refl _

end Lowering.Lowers

namespace Lowering.Engine

/-- How often a name that was not made up stands in the target. -/
theorem count_identifiers {engine : Engine} (faithful : engine.templates.Faithful)
    (ran : (engine.lower program).1 = .ok lowered) (notMinted : name ∉ engine.minted program) :
    lowered.identifiers.count name = program.identifiers.count name +
      (if name = "Math" ∨ name = "floor" then
        program.nodes.countP Script.Node.isFloorDivision else 0) +
      (if name = "apply" then program.nodes.countP Script.Node.isBoundGenerator else 0) := by
  have old : name ∈ (engine.finish program).reserved → name ∈ (engine.start program).reserved := by
    rw [(engine.supplied_minted program).later_eq, List.mem_append, List.mem_reverse]
    exact fun known => known.resolve_left notMinted
  have same := (lower_traced faithful ran).countP_brings (List.not_mem_nil) old
  rw [List.countP_cons_of_neg (by simp [Target.Leaf.brings]), Target.countP_brings_leaves,
    Script.countP_brings_leaves] at same
  simpa [Target.Leaf.brings, Target.Program.identifiers, Script.Program.identifiers] using same

/-- A name that was not made up stands in the target as often as in the script, and once more for every
node that brings it. The literals are those of the script. -/
theorem leaves_conserved (vocabulary : Target.Vocabulary) (earlier : List Script.Program)
    (program : Script.Program) (lowered : Target.Program)
    (ran : ((({ vocabulary } : Engine).after earlier).lower program).1 = .ok lowered) :
    (∀ name, name ∉ (({ vocabulary } : Engine).after earlier).minted program →
      lowered.identifiers.count name = program.identifiers.count name +
        (if name = "Math" ∨ name = "floor" then
          program.nodes.countP Script.Node.isFloorDivision else 0) +
        (if name = "apply" then program.nodes.countP Script.Node.isBoundGenerator else 0)) ∧
      lowered.literals.Perm program.literals := by
  have faithful : (({ vocabulary } : Engine).after earlier).templates.Faithful :=
    after_faithful .empty earlier
  constructor
  · intro name notMinted
    exact count_identifiers faithful ran notMinted
  · have same := (lower_traced faithful ran).literals
    rwa [List.filterMap_cons_none rfl, Target.literals_leaves, Script.literals_leaves] at same

/-- A chain with a floor division between its comparisons, and a bound generator. -/
def dividedChain : Script.Program :=
  ⟨none, [.expression none (.compareChain none
      [.identifier none "a",
        .binary none .floorDiv (.identifier none "b") (.literal none .null),
        .identifier none "_temp$1"] [.less, .less]),
    .expression none (.function none
      (.mk none [.identifier none "b"] (.mk none []) none true false))]⟩

private theorem lower_dividedChain :
    ∃ lowered, (({} : Engine).lower dividedChain).1 = .ok lowered := by
  have evaluated : (({} : Engine).lower dividedChain).1.isOk = true := by decide +kernel
  cases ran : (({} : Engine).lower dividedChain).1 with
  | ok lowered => exact ⟨lowered, rfl⟩
  | error fault =>
    rw [ran] at evaluated
    cases evaluated

theorem leaves_conserved_dividedChain :
    ∃ lowered, (({} : Engine).lower dividedChain).1 = .ok lowered ∧
      ({} : Engine).minted dividedChain = ["_temp$2"] ∧
      lowered.identifiers.count "b" = 2 ∧ lowered.identifiers.count "floor" = 1 ∧
      lowered.identifiers.count "apply" = 1 ∧ lowered.literals.Perm [.null] := by
  obtain ⟨lowered, ran⟩ := lower_dividedChain
  have minted : ({} : Engine).minted dividedChain = ["_temp$2"] := by decide +kernel
  obtain ⟨names, literals⟩ := leaves_conserved .full [] dividedChain lowered ran
  have other (name : String) (differs : name ≠ "_temp$2") :
      name ∉ (({ vocabulary := .full } : Engine).after []).minted dividedChain := by
    show name ∉ ({} : Engine).minted dividedChain
    simp [minted, differs]
  refine ⟨lowered, ran, minted, ?_, ?_, ?_, literals⟩
  · rw [names "b" (other "b" (by decide))]
    decide +kernel
  · rw [names "floor" (other "floor" (by decide))]
    decide +kernel
  · rw [names "apply" (other "apply" (by decide))]
    decide +kernel

end Lowering.Engine

end Offside
