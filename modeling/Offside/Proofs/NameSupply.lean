import Mathlib.Data.Finset.Card
import Offside.Proofs.StepClosure

/-! The supply of made-up names. A stem and a number make a name, different ones make different names,
and the name taken is that of the least number whose name is not reserved. -/

namespace Offside.Lowering

theorem candidate_injective (stem : String) : Function.Injective (candidate stem) := by
  intro n m same
  have digits : Nat.toDigits 10 n = Nat.toDigits 10 m := by
    simpa using congrArg String.toList ((String.append_right_inj (stem ++ "$")).mp same)
  simpa using congrArg (fun digits => Nat.ofDigitChars 10 digits 0) digits

/-- Whether a name is made from a stem. -/
def hasStem (stem name : String) : Bool := (stem ++ "$").toList.isPrefixOf name.toList

theorem toList_candidate (stem : String) (n : Nat) :
    (candidate stem n).toList = (stem ++ "$").toList ++ (toString n).toList := by
  simp [candidate]

@[simp] theorem hasStem_candidate (stem : String) (n : Nat) :
    hasStem stem (candidate stem n) = true := by
  rw [hasStem, toList_candidate, List.isPrefixOf_iff_prefix]
  exact List.prefix_append _ _

/-- No stem of the pass is the beginning of another. -/
theorem hasStem_candidate_ne {stem other : String} (known : stem ∈ stems) (otherKnown : other ∈ stems)
    (different : stem ≠ other) (n : Nat) : hasStem stem (candidate other n) = false := by
  rw [hasStem, toList_candidate]
  simp only [stems, List.mem_cons, List.not_mem_nil, or_false] at known otherKnown
  rcases known with rfl | rfl | rfl <;> rcases otherKnown with rfl | rfl | rfl <;>
    first | exact absurd rfl different | rfl

/-- A number is free for a stem when the name it makes is not reserved. -/
def Free (stem : String) (reserved : List String) (n : Nat) : Prop :=
  0 < n ∧ candidate stem n ∉ reserved

/-- Of one more candidate than there are reserved names, one is free. A name that is listed twice counts
once. -/
theorem exists_free (stem : String) (reserved : List String) :
    ∃ n < reserved.toFinset.card + 1, candidate stem (n + 1) ∉ reserved := by
  by_contra none
  have taken : ∀ n ∈ Finset.range (reserved.toFinset.card + 1),
      candidate stem (n + 1) ∈ reserved.toFinset := by
    intro n member
    by_contra free
    exact none ⟨n, Finset.mem_range.mp member, by simpa using free⟩
  have distinct : Set.InjOn (fun n => candidate stem (n + 1))
      (Finset.range (reserved.toFinset.card + 1)) := by
    intro n _ m _ same
    exact Nat.succ_injective (candidate_injective stem same)
  have few := Finset.card_le_card_of_injOn _ taken distinct
  rw [Finset.card_range] at few
  omega

/-- The name taken is made from the least free number. -/
theorem freeName_spec (stem : String) (reserved : List String) :
    ∃ n, freeName stem reserved = candidate stem n ∧ Free stem reserved n ∧
      ∀ m, Free stem reserved m → n ≤ m := by
  unfold freeName
  cases found : (List.range (reserved.length + 1)).find? fun n =>
      !reserved.contains (candidate stem (n + 1)) with
  | none =>
    obtain ⟨n, bound, free⟩ := exists_free stem reserved
    have listed : reserved.toFinset.card ≤ reserved.length := reserved.toFinset_card_le
    have taken := List.find?_eq_none.mp found n (List.mem_range.mpr (by omega))
    simp [free] at taken
  | some n =>
    obtain ⟨free, _, earlier⟩ := List.find?_range_eq_some.mp found
    refine ⟨n + 1, rfl, ⟨Nat.succ_pos n, by simpa using free⟩, ?_⟩
    intro m other
    by_contra less
    obtain ⟨k, rfl⟩ : ∃ k, m = k + 1 := ⟨m - 1, by have := other.1; omega⟩
    have taken := earlier k (by omega)
    simp [other.2] at taken

theorem freeName_not_mem (stem : String) (reserved : List String) :
    freeName stem reserved ∉ reserved := by
  obtain ⟨n, made, free, _⟩ := freeName_spec stem reserved
  rw [made]
  exact free.2

end Offside.Lowering
