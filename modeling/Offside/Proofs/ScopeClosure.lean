import Offside.Proofs.Conservation

/-! Where the names that lowering makes up stand. Each is declared by the first statement of one body,
stands nowhere outside that body, and is assigned right after its declaration, before any other use.
Further assignments to it, and further declarations of it, come only from virtual objects that are
themselves assigned or declared. -/

namespace Offside

namespace Script

def Leaf.isVirtual (role : Role) : Leaf → Bool
  | .virtual actual => actual == role
  | _ => false

theorem countP_virtual_leaves (role : Role) (nodes : List Node) :
    (leaves nodes).countP (Leaf.isVirtual role) = nodes.countP (Node.isVirtual role) := by
  induction nodes with
  | nil => rfl
  | cons node nodes ih =>
    have here : node.leaf?.toList.countP (Leaf.isVirtual role) =
        if node.isVirtual role then 1 else 0 := by
      cases node with
      | expr _ _ node =>
        cases node with
        | binary _ op => cases op <;> rfl
        | virtualObject => simp [Node.leaf?, Leaf.isVirtual, Node.isVirtual, List.countP_cons]
        | _ => rfl
      | function place node =>
        cases node with
        | mk _ _ _ bound generator _ =>
          cases bounded : bound.getD (!place.inMethod) && generator <;>
            simp [Node.leaf?, Leaf.isVirtual, Node.isVirtual, bounded]
      | _ => rfl
    rw [leaves_cons, List.countP_append, ih, here, List.countP_cons, Nat.add_comm]

private theorem Node.name?_of_leaf? {node : Node} (leaf : node.leaf? = some (.name role x)) :
    node.name? = some x := by
  unfold Node.leaf? at leaf
  split at leaf
  · cases leaf
    rfl
  all_goals grind

end Script

namespace Target

private theorem Program.mem_bodies (program : Program) {stmts : List Stmt}
    (found : .body stmts ∈ Leaf.body program.body :: leaves program.nodes) :
    stmts ∈ program.bodies := by
  rcases List.mem_cons.mp found with same | inside
  · cases same
    exact List.mem_cons_self ..
  · obtain ⟨node, member, leaf⟩ := List.mem_filterMap.mp inside
    refine List.mem_cons_of_mem _ (List.mem_filterMap.mpr ⟨node, member, ?_⟩)
    unfold Node.leaf? at leaf
    split at leaf
    all_goals cases leaf
    rfl

/-- The role in which a leaf names `x`, if it does. -/
def Leaf.roleOf? (x : String) : Leaf → Option Role
  | .name role y => if y = x then some role else none
  | .literal _ | .body _ => none

def roles (x : String) (leaves : List Leaf) : List Role := leaves.filterMap (Leaf.roleOf? x)

@[simp] theorem roles_nil (x : String) : roles x [] = [] := rfl

@[simp] theorem roles_append (x : String) (before after : List Leaf) :
    roles x (before ++ after) = roles x before ++ roles x after := List.filterMap_append

@[simp] theorem roles_same (x : String) (role : Role) (leaves : List Leaf) :
    roles x (.name role x :: leaves) = role :: roles x leaves := by
  simp [roles, Leaf.roleOf?]

theorem roles_other {x y : String} (other : y ≠ x) (role : Role) (leaves : List Leaf) :
    roles x (.name role y :: leaves) = roles x leaves :=
  List.filterMap_cons_none (by simp [Leaf.roleOf?, other])

@[simp] theorem roles_literal (x : String) (value : Literal) (leaves : List Leaf) :
    roles x (.literal value :: leaves) = roles x leaves := List.filterMap_cons_none rfl

@[simp] theorem roles_body (x : String) (body : List Stmt) (leaves : List Leaf) :
    roles x (.body body :: leaves) = roles x leaves := List.filterMap_cons_none rfl

theorem roles_leaves (x : String) (nodes : List Node) : roles x (leaves nodes) = rolesOf x nodes := by
  rw [roles, leaves, List.filterMap_filterMap]
  congr
  funext node
  cases node with
  | expr _ node => cases node <;> rfl
  | block node => cases node; rfl
  | _ => rfl

theorem length_roles (x : String) (leaves : List Leaf) :
    (roles x leaves).length = leaves.countP (Leaf.brings x) := by
  induction leaves with
  | nil => rfl
  | cons leaf leaves ih =>
    cases leaf with
    | name role y =>
      by_cases same : y = x
      · subst y
        simp [Leaf.brings, ih, Nat.add_comm]
      · simp [roles_other same, Leaf.brings, same, ih]
    | _ => simp [Leaf.brings, ih]

/-- Declared names stand in their declaration as often as in the list of them. -/
theorem roles_declared (x : String) (names : List String) :
    roles x (names.map (Leaf.name .declared)) = List.replicate (names.count x) .declared := by
  induction names with
  | nil => rfl
  | cons name names ih =>
    by_cases same : name = x
    · subst name
      simp [ih, List.replicate_succ]
    · simp [roles_other same, same, ih]

end Target

namespace Lowering

/-- A name that neither the leaves of a script nor templates bring. -/
structure Foreign (x : String) (source : List Script.Leaf) : Prop where
  absent : ∀ role, .name role x ∉ source
  made : x ∉ ["Math", "floor", "apply"]

theorem Foreign.subset (foreign : Foreign x source) (within : part ⊆ source) : Foreign x part :=
  ⟨fun role member => foreign.absent role (within member), foreign.made⟩

theorem Foreign.countP_brings (foreign : Foreign x source) :
    source.countP (Script.Leaf.brings x) = 0 := by
  have made := foreign.made
  rw [List.countP_eq_zero]
  intro leaf member brought
  cases leaf with
  | name role y =>
    have same : y = x := of_decide_eq_true brought
    exact foreign.absent role (same ▸ member)
  | _ => simp_all [Script.Leaf.brings]

namespace Lowers

/-- A name that is not available, and not made up meanwhile, does not come up. -/
theorem roles_absent (lowers : Lowers available reserved source target opened later)
    (foreign : Foreign x source) (notAvailable : x ∉ available) (old : x ∈ later → x ∈ reserved) :
    Target.roles x target = [] := by
  rw [← List.length_eq_zero_iff, Target.length_roles, lowers.countP_brings notAvailable old]
  exact foreign.countP_brings

/-- A name made up before is assigned or declared only in place of a virtual object. -/
private theorem roles_known (lowers : Lowers available reserved source target opened later)
    (foreign : Foreign x source) (known : x ∈ reserved) (active : role ≠ .plain) :
    (Target.roles x target).count role ≤ source.countP (Script.Leaf.isVirtual role) := by
  induction lowers with
  | insert first next ihFirst ihNext =>
    have inner := ihFirst (foreign.subset (List.subset_append_left ..)) known
    have around := ihNext (foreign.subset (List.subset_append_right ..)) (first.grows known)
    simp only [Target.roles_append, List.count_append, List.countP_append] at inner around ⊢
    omega
  | reorder same _ ih =>
    rw [← same.countP_eq]
    exact ih (foreign.subset same.subset) known
  | @name _ _ actual y =>
    have other : y ≠ x := by
      rintro rfl
      exact foreign.absent actual (List.mem_singleton.mpr rfl)
    simp [Target.roles_other other]
  | @receiver _ y _ actual _ =>
    by_cases same : y = x
    · subst y
      by_cases equal : actual = role <;> simp [Script.Leaf.isVirtual, equal]
    · simp [Target.roles_other same]
  | @reuse _ y _ _ =>
    by_cases same : y = x
    · subst y
      simp [Ne.symm active]
    · simp [Target.roles_other same]
  | @mint stem reserved _ _ _ _ _ _ _ ih =>
    have other : freeName stem reserved ≠ x := by
      rintro rfl
      exact freeName_not_mem stem reserved known
    rw [Target.roles_other other]
    exact ih foreign (List.mem_cons_of_mem _ known)
  | @scope opened _ _ _ _ _ _ _ within inside ih =>
    have notOpened : x ∉ opened := fun waits => (inside.opened_new waits).2 known
    rw [Target.roles_body, within, Target.roles_append, Target.roles_declared,
      List.count_eq_zero.mpr notOpened]
    exact ih foreign known
  | floorDivision =>
    have made := foreign.made
    simp only [List.mem_cons, List.not_mem_nil, or_false, not_or] at made
    simp [Target.roles_other (Ne.symm made.1), Target.roles_other (Ne.symm made.2.1)]
  | apply =>
    have made := foreign.made
    simp only [List.mem_cons, List.not_mem_nil, or_false, not_or] at made
    simp [Target.roles_other (Ne.symm made.2.2)]
  | _ => simp

/-- The name is assigned first; what comes later is due to virtual objects, unless it only reads the
name. -/
def AssignedFirst (source : List Script.Leaf) (roles : List Role) : Prop :=
  ∃ rest, roles = .assigned :: rest ∧
    ∀ role, role ≠ .plain → rest.count role ≤ source.countP (Script.Leaf.isVirtual role)

/-- The body declares the name at its top, and the name is assigned right after. -/
def ClosedBy (x : String) (source : List Script.Leaf) (body : List Target.Stmt) : Prop :=
  (∃ names, x ∈ names ∧ Target.Opens names body) ∧
    ∃ rest, Target.roles x (Target.leaves (Target.stmtNodes body)) = .declared :: rest ∧
      AssignedFirst source rest

theorem AssignedFirst.mono (first : AssignedFirst part roles)
    (within : ∀ role, part.countP (Script.Leaf.isVirtual role) ≤
      source.countP (Script.Leaf.isVirtual role)) : AssignedFirst source roles := by
  obtain ⟨rest, same, bounded⟩ := first
  exact ⟨rest, same, fun role active => (bounded role active).trans (within role)⟩

theorem ClosedBy.mono (closed : ClosedBy x part body)
    (within : ∀ role, part.countP (Script.Leaf.isVirtual role) ≤
      source.countP (Script.Leaf.isVirtual role)) : ClosedBy x source body := by
  obtain ⟨opens, rest, same, first⟩ := closed
  exact ⟨opens, rest, same, first.mono within⟩

/-- Where a name made up meanwhile stands: it still waits to be declared, or a body closes it. -/
def Profile (x : String) (source : List Script.Leaf) (target : List Target.Leaf)
    (opened : List String) : Prop :=
  (x ∈ opened → AssignedFirst source (Target.roles x target)) ∧
    (x ∉ opened → ∃ body, .body body ∈ target ∧ ClosedBy x source body ∧
      Target.roles x target = Target.roles x (Target.leaves (Target.stmtNodes body)))

/-- Leaves that do not name `x` may be added around, and names other than `x` may wait as well. -/
theorem Profile.widen {inner : List Target.Leaf} (profile : Profile x part inner waiting)
    (within : ∀ role, part.countP (Script.Leaf.isVirtual role) ≤
      source.countP (Script.Leaf.isVirtual role))
    (bodies : ∀ body, .body body ∈ inner → .body body ∈ target)
    (same : Target.roles x target = Target.roles x inner) (waits : x ∈ opened ↔ x ∈ waiting) :
    Profile x source target opened := by
  rw [Profile, same, waits]
  refine ⟨fun member => (profile.1 member).mono within, fun member => ?_⟩
  obtain ⟨body, found, closed, all⟩ := profile.2 member
  exact ⟨body, bodies body found, closed.mono within, all⟩

private theorem opened_nodup (lowers : Lowers available reserved source target opened later) :
    opened.Nodup := by
  obtain ⟨minted, supplied, part⟩ := lowers.supplied
  exact supplied.nodup.sublist part

/-- A name made up meanwhile has a profile. -/
theorem profile (lowers : Lowers available reserved source target opened later)
    (foreign : Foreign x source) (notAvailable : x ∉ available) (new : x ∉ reserved)
    (minted : x ∈ later) : Profile x source target opened := by
  induction lowers with
  | @insert _ _ source inner opened middle more before after openedNext _ first next ihFirst ihNext =>
    have foreignInner := foreign.subset (List.subset_append_left source more)
    have foreignAround := foreign.subset (List.subset_append_right source more)
    -- One part makes the name up, and the other cannot name it: there it is either not known yet or
    -- known but not available.
    by_cases made : x ∈ middle
    · have around := next.roles_absent foreignAround notAvailable fun _ => made
      rw [Target.roles_append, List.append_eq_nil_iff] at around
      have notNext : x ∉ openedNext := fun waits => (next.opened_new waits).2 made
      refine (ihFirst foreignInner notAvailable new made).widen ?_ ?_ ?_ ?_
      · simp
      · exact fun body found => List.mem_append_left _ (List.mem_append_right _ found)
      · simp [around.1, around.2]
      · simp [notNext]
    · have inside := first.roles_absent foreignInner notAvailable fun known => absurd known made
      have notFirst : x ∉ opened := fun waits => made (first.opened_new waits).1
      refine (ihNext foreignAround notAvailable made minted).widen ?_ ?_ ?_ ?_
      · simp
      · intro body found
        simp only [List.mem_append] at found ⊢
        exact found.imp_left .inl
      · simp [inside]
      · simp [notFirst]
  | reorder same _ ih =>
    refine (ih (foreign.subset same.subset) notAvailable new minted).widen ?_ ?_ rfl .rfl
    · exact fun role => Nat.le_of_eq (same.countP_eq _)
    · exact fun body found => found
  | @mint stem reserved _ _ _ _ _ known rest ih =>
    by_cases same : freeName stem reserved = x
    · subst x
      refine ⟨fun _ => ⟨_, Target.roles_same .., fun role active => ?_⟩, fun waits => ?_⟩
      · exact rest.roles_known foreign (List.mem_cons_self ..) active
      · exact absurd (List.mem_cons_self ..) waits
    · have other : x ≠ freeName stem reserved := Ne.symm same
      refine (ih foreign (by simp [other, notAvailable]) (by simp [other, new]) minted).widen ?_ ?_
        (Target.roles_other same ..) ?_
      · exact fun _ => Nat.le_refl _
      · exact fun body found => List.mem_cons_of_mem _ found
      · simp [other]
  | @scope opened body target _ _ _ _ opens within inside ih =>
    obtain ⟨waiting, closed⟩ := ih foreign notAvailable new minted
    refine ⟨fun none => absurd none List.not_mem_nil, fun _ => ?_⟩
    -- Either this body declares the name, or a body inside it does.
    by_cases waits : x ∈ opened
    · have once : opened.count x = 1 := List.count_eq_one_of_mem inside.opened_nodup waits
      refine ⟨body, List.mem_cons_self .., ⟨⟨opened, waits, opens⟩, _, ?_, waiting waits⟩, by simp⟩
      rw [within, Target.roles_append, Target.roles_declared, once]
      rfl
    · obtain ⟨inner, found, closed, all⟩ := closed waits
      refine ⟨inner, ?_, closed, ?_⟩
      · rw [within]
        exact List.mem_cons_of_mem _ (List.mem_append_right _ found)
      · rw [Target.roles_body, within, Target.roles_append, Target.roles_declared,
          List.count_eq_zero.mpr waits, all]
        rfl
  | _ => exact absurd minted new

end Lowers

private theorem foreign_leaves {program : Script.Program} (absent : x ∉ program.identifiers)
    (made : x ∉ ["Math", "floor", "apply"]) : Foreign x (Script.leaves program.nodes) := by
  refine ⟨fun role member => absent ?_, made⟩
  obtain ⟨node, found, leaf⟩ := List.mem_filterMap.mp member
  exact List.mem_filterMap.mpr ⟨node, found, Script.Node.name?_of_leaf? leaf⟩

namespace Engine

/-- A name of the target that neither the script nor a template brings is declared at the top of one
body, without a value, and stands nowhere outside it. The declaration comes first and an assignment
second. After that, the name is assigned or declared at most as often as virtual objects are. -/
theorem temporaries_closed (vocabulary : Target.Vocabulary) (earlier : List Script.Program)
    (program : Script.Program) (lowered : Target.Program)
    (ran : ((({ vocabulary } : Engine).after earlier).lower program).1 = .ok lowered) (name : String)
    (used : name ∈ lowered.identifiers) (absent : name ∉ program.identifiers)
    (made : name ∉ ["Math", "floor", "apply"]) :
    ∃ body ∈ lowered.bodies,
      (∃ loc, ∃ names : List String, ∃ rest, name ∈ names ∧ body = .declaring loc .let
        (names.map fun name => .mk loc (.identifier loc name) none) :: rest) ∧
      Target.rolesOf name lowered.nodes = Target.rolesOf name (Target.stmtNodes body) ∧
      ∃ rest, Target.rolesOf name lowered.nodes = .declared :: .assigned :: rest ∧
        rest.count .assigned ≤ program.nodes.countP (Script.Node.isVirtual .assigned) ∧
        rest.count .declared ≤ program.nodes.countP (Script.Node.isVirtual .declared) := by
  have traced := lower_traced (after_faithful .empty earlier) ran
  have foreign := foreign_leaves absent made
  have new : name ∉ ((({ vocabulary } : Engine).after earlier).start program).reserved := by
    rwa [mem_start_reserved]
  have minted : name ∈ ((({ vocabulary } : Engine).after earlier).finish program).reserved := by
    by_contra unknown
    have nowhere := traced.roles_absent foreign List.not_mem_nil fun known => absurd known unknown
    rw [Target.roles_body, ← List.length_eq_zero_iff, Target.length_roles,
      Target.countP_brings_leaves] at nowhere
    exact List.count_eq_zero.mp nowhere used
  obtain ⟨body, found, ⟨⟨names, member, opens⟩, _, seen, rest, rfl, bounded⟩, all⟩ :=
    (traced.profile foreign List.not_mem_nil new minted).2 List.not_mem_nil
  rw [Target.roles_body, Target.roles_leaves, Target.roles_leaves] at all
  rw [Target.roles_leaves] at seen
  refine ⟨body, lowered.mem_bodies found, ?_, all, rest, all.trans seen, ?_, ?_⟩
  · obtain ⟨loc, rest, same⟩ := opens (List.ne_nil_of_mem member)
    exact ⟨loc, names, rest, member, same⟩
  · rw [← Script.countP_virtual_leaves]
    exact bounded .assigned (by simp)
  · rw [← Script.countP_virtual_leaves]
    exact bounded .declared (by simp)

/-- A cascade whose steps assign and declare the virtual object. -/
def reassigned : Script.Program :=
  ⟨none, [.cascade none (.identifier none "a")
    [.assignment none .assign (.virtualObject none) (.literal none .null),
      .declaring none [.mk none (.virtualObject none) none false]] [1, 1]]⟩

theorem lower_reassigned :
    ∃ lowered, (({} : Engine).lower reassigned).1 = .ok lowered ∧
      lowered.identifiers = ["_root$1", "_root$1", "a", "_root$1", "_root$1"] ∧
      Target.rolesOf "_root$1" lowered.nodes = [.declared, .assigned, .assigned, .declared] := by
  have evaluated : (({} : Engine).lower reassigned).1.toOption.map
      (fun lowered => (lowered.identifiers, Target.rolesOf "_root$1" lowered.nodes)) =
        some (["_root$1", "_root$1", "a", "_root$1", "_root$1"],
          [.declared, .assigned, .assigned, .declared]) := by
    decide +kernel
  cases ran : (({} : Engine).lower reassigned).1 with
  | ok lowered =>
    rw [ran] at evaluated
    obtain ⟨identifiers, roles⟩ := Prod.mk.inj (Option.some.inj evaluated)
    exact ⟨lowered, rfl, identifiers, roles⟩
  | error fault =>
    rw [ran] at evaluated
    cases evaluated

/-- A made-up name may be assigned twice and declared twice. -/
theorem reassigned_twice :
    ∃ lowered, (({} : Engine).lower reassigned).1 = .ok lowered ∧
      "_root$1" ∈ lowered.identifiers ∧ "_root$1" ∉ reassigned.identifiers ∧
      "_root$1" ∉ ["Math", "floor", "apply"] ∧
      (Target.rolesOf "_root$1" lowered.nodes).count .assigned = 2 ∧
      (Target.rolesOf "_root$1" lowered.nodes).count .declared = 2 := by
  obtain ⟨lowered, ran, identifiers, roles⟩ := lower_reassigned
  refine ⟨lowered, ran, by simp [identifiers], by decide +kernel, by decide +kernel, ?_, ?_⟩
  · rw [roles]
    rfl
  · rw [roles]
    rfl

theorem temporaries_closed_reassigned :
    ∃ lowered, (({} : Engine).lower reassigned).1 = .ok lowered ∧
      "_root$1" ∈ lowered.identifiers ∧ "_root$1" ∉ reassigned.identifiers ∧
      ∃ body ∈ lowered.bodies,
        (∃ loc, ∃ names : List String, ∃ rest, "_root$1" ∈ names ∧ body = .declaring loc .let
          (names.map fun name => .mk loc (.identifier loc name) none) :: rest) ∧
        Target.rolesOf "_root$1" lowered.nodes =
          Target.rolesOf "_root$1" (Target.stmtNodes body) ∧
        ∃ rest, Target.rolesOf "_root$1" lowered.nodes = .declared :: .assigned :: rest ∧
          rest.count .assigned ≤ 1 ∧ rest.count .declared ≤ 1 := by
  obtain ⟨lowered, ran, identifiers, -⟩ := lower_reassigned
  have used : "_root$1" ∈ lowered.identifiers := by simp [identifiers]
  have absent : "_root$1" ∉ reassigned.identifiers := by decide +kernel
  have virtual (role : Role) (written : role ∈ [.assigned, .declared]) :
      reassigned.nodes.countP (Script.Node.isVirtual role) = 1 := by
    revert role
    decide +kernel
  obtain ⟨body, member, declared, inside, rest, roles, assigned, again⟩ :=
    temporaries_closed .full [] reassigned lowered ran "_root$1" used absent (by decide +kernel)
  rw [virtual .assigned (by simp)] at assigned
  rw [virtual .declared (by simp)] at again
  exact ⟨lowered, ran, used, absent, body, member, declared, inside, rest, roles, assigned, again⟩

end Engine

end Lowering

end Offside
