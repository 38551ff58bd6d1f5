import Offside.Proofs.PassInvariant

/-! The search for a made-up name, one candidate after the other and with no bound. It ends, since the
candidates differ and the reserved names are finitely many, and it ends at the name that is made up. That
name is declared in the nearest scope, and nothing else of the pass changes but the reserved names. -/

namespace Offside.Lowering

/-- The candidates that are looked at from a number on. The search goes on while they are reserved. -/
inductive Search (stem : String) (reserved : List String) : Nat → List String → Prop where
  | found (free : candidate stem n ∉ reserved) : Search stem reserved n [candidate stem n]
  | next (taken : candidate stem n ∈ reserved) (rest : Search stem reserved (n + 1) tried) :
      Search stem reserved n (candidate stem n :: tried)

theorem Search.unique (first : Search stem reserved n tried) (second : Search stem reserved n others) :
    tried = others := by
  induction first generalizing others with
  | found free =>
    cases second with
    | found _ => rfl
    | next taken _ => exact absurd taken free
  | next taken _ ih =>
    cases second with
    | found free => exact absurd taken free
    | next _ rest => rw [ih rest]

/-- A search gets past candidates that are reserved to one that is not. -/
private theorem Search.past_taken (k n : Nat)
    (taken : ∀ m, n ≤ m → m < n + k → candidate stem m ∈ reserved)
    (free : candidate stem (n + k) ∉ reserved) :
    Search stem reserved n ((List.range' n (k + 1)).map (candidate stem)) := by
  -- On how many candidates are still to be passed; the search counts up as these become fewer.
  induction k generalizing n with
  | zero => exact .found free
  | succ k ih =>
    rw [List.range'_succ, List.map_cons]
    refine .next (taken n (Nat.le_refl n) (by omega)) (ih (n + 1) ?_ ?_)
    · intro m above below
      exact taken m (by omega) (by omega)
    · rwa [Nat.add_assoc, Nat.add_comm 1 k]

/-- From one on, the search looks at the candidates up to the least free number, and at no others. -/
private theorem search_iff (free : Free stem reserved n) (least : ∀ m, Free stem reserved m → n ≤ m)
    (tried : List String) :
    Search stem reserved 1 tried ↔ tried = (List.range' 1 n).map (candidate stem) := by
  obtain ⟨k, rfl⟩ : ∃ k, n = k + 1 := ⟨n - 1, by have := free.1; omega⟩
  have ended : Search stem reserved 1 ((List.range' 1 (k + 1)).map (candidate stem)) := by
    apply Search.past_taken k 1
    · intro m positive below
      by_contra unreserved
      have := least m ⟨positive, unreserved⟩
      omega
    · rw [Nat.add_comm]
      exact free.2
  constructor
  · intro search
    exact search.unique ended
  · rintro rfl
    exact ended

/-- In a pass with a scope, the search for a name ends after at most one candidate more than there are
reserved names. The name made up carries the least number whose name is not reserved. It is put after the
names of the nearest scope, to which it is new, and among the reserved names, and all else stays. Without a
scope no name is made up and the pass stays as it was. -/
theorem freshName_takes_least (stem : String) (pass : Pass) :
    ((∃ names, .scope names ∈ pass.frames) →
      ∃ (n : Nat) (inner outer : List Frame) (held : List String),
        (∀ tried, Search stem pass.reserved 1 tried ↔
          tried = (List.range' 1 n).map (candidate stem)) ∧
        n ≤ pass.reserved.toFinset.card + 1 ∧
        Free stem pass.reserved n ∧ (∀ m, Free stem pass.reserved m → n ≤ m) ∧
        pass.frames = inner ++ .scope held :: outer ∧ (∀ others, .scope others ∉ inner) ∧
        candidate stem n ∉ held ∧
        ∃ declared, freshName stem pass = (.ok (candidate stem n),
          { pass with
            frames := inner ++ .scope (held ++ [candidate stem n]) :: outer
            reserved := candidate stem n :: pass.reserved
            declared := declared })) ∧
    ((∀ names, .scope names ∉ pass.frames) →
      freshName stem pass = (.error (.frames .noScope), pass)) := by
  constructor
  · intro present
    have reach : hasScope pass.frames = true := hasScope_iff.mpr present
    obtain ⟨inner, outer, held, frames, nearest⟩ := exists_nearest reach
    obtain ⟨n, made, free, least⟩ := freeName_spec stem pass.reserved
    -- The pigeonhole principle gives a free number within the bound, and the least is not above it.
    obtain ⟨m, few, unreserved⟩ := exists_free stem pass.reserved
    have bound : n ≤ m + 1 := least (m + 1) ⟨Nat.succ_pos m, unreserved⟩
    refine ⟨n, inner, outer, held, search_iff free least, by omega, free, least, frames, nearest, ?_, ?_⟩
    · intro member
      exact free.2 ((pass.declared (.scope held) (by simp [frames])).2 _ member)
    · have minted : (pass.mint (candidate stem n)).frames =
          inner ++ .scope (held ++ [candidate stem n]) :: outer := by
        rw [pass.mint_frames free.2, frames, extendScope_append inner outer held _ nearest]
      refine ⟨minted ▸ (pass.mint (candidate stem n)).declared, ?_⟩
      refine freshName_eq_ok.mpr ⟨reach, made.symm, ?_⟩
      ext1
      · exact minted.symm
      · rfl
      · rfl
  · intro absent
    have unreached : hasScope pass.frames = false := by
      rw [← Bool.not_eq_true, hasScope_iff]
      rintro ⟨names, member⟩
      exact absent names member
    simp [freshName, unreached]

/-- A pass in a method and a cascade. The reserved names leave out the third candidate, though not one
that looks like it, and list the second one twice. -/
def gappedPass : Pass where
  frames := [.method, .cascade ["_root$1"], .scope ["_temp$1"], .scope []]
  reserved := ["_temp$2", "_temp$03", "_temp$1", "_temp$4", "_temp$2", "_root$1"]
  templates := {}
  declared := by decide

/-- The same pass in a method that no scope surrounds. -/
def unscopedPass : Pass := { gappedPass with frames := [.method], declared := by decide }

theorem freshName_takes_least_gapped :
    (∃ names, Frame.scope names ∈ gappedPass.frames) ∧
    Search tempStem gappedPass.reserved 1 ["_temp$1", "_temp$2", "_temp$3"] ∧
    (∃ (inner outer : List Frame) (held : List String),
      gappedPass.frames = inner ++ .scope held :: outer ∧ (∀ others, .scope others ∉ inner) ∧
      ∃ declared, freshName tempStem gappedPass = (.ok "_temp$3",
        { gappedPass with
          frames := inner ++ .scope (held ++ ["_temp$3"]) :: outer
          reserved := "_temp$3" :: gappedPass.reserved
          declared := declared })) ∧
    freshName tempStem unscopedPass = (.error (.frames .noScope), unscopedPass) := by
  have present : ∃ names, Frame.scope names ∈ gappedPass.frames := ⟨[], by decide⟩
  obtain ⟨n, inner, outer, held, search, -, free, least, frames, nearest, -, made⟩ :=
    (freshName_takes_least tempStem gappedPass).1 present
  have below : n ≤ 3 := least 3 ⟨by decide, by decide⟩
  have positive : 0 < n := free.1
  obtain rfl | rfl | rfl : n = 1 ∨ n = 2 ∨ n = 3 := by omega
  · exact absurd (by decide) free.2
  · exact absurd (by decide) free.2
  refine ⟨present, (search _).mpr rfl, ⟨inner, outer, held, frames, nearest, made⟩, ?_⟩
  exact (freshName_takes_least tempStem unscopedPass).2 (by simp [unscopedPass])

end Offside.Lowering
