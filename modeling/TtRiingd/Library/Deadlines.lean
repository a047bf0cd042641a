import Mathlib.Algebra.Order.Group.Defs
import Mathlib.Data.List.Perm.Basic

/-!
# Awaiting with a deadline for each

Several computations end at times of their own, if at all. They are awaited one after the other, each for
`limit` from the moment its turn comes. How long that takes is bounded by their number, and whether all of
them end in time is sure for every order only if each ends within the limit of the first.
-/

namespace Deadlines

/-- When a computation ends and what it returns; `none` if it never ends. -/
abbrev Fate (τ ρ : Type) := Option (τ × ρ)

variable {τ ρ : Type} [AddCommMonoid τ] [LinearOrder τ]

def await (limit now : τ) (fate : Fate τ ρ) : τ × Option ρ :=
  match fate with
  | none => (now + limit, none)
  | some (time, result) => if time ≤ now + limit then (max now time, some result) else (now + limit, none)

def awaitAll (limit : τ) : τ → List (Fate τ ρ) → τ × List (Option ρ)
  | now, [] => (now, [])
  | now, fate :: rest =>
      let first := await limit now fate
      let others := awaitAll limit first.1 rest
      (others.1, first.2 :: others.2)

def InTime (limit now : τ) (good : ρ → Prop) (fate : Fate τ ρ) : Prop :=
  ∃ time result, fate = some (time, result) ∧ time ≤ now + limit ∧ good result

theorem await_eq_some_iff (limit now : τ) (good : ρ → Prop) (fate : Fate τ ρ) :
    (∃ result, (await limit now fate).2 = some result ∧ good result) ↔ InTime limit now good fate := by
  cases fate with
  | none => simp [await, InTime]
  | some ending =>
      obtain ⟨time, result⟩ := ending
      unfold await InTime
      by_cases early : time ≤ now + limit
      · simp [early]
      · simp [early]

variable [IsOrderedAddMonoid τ] {limit : τ}

theorem le_await (positive : 0 ≤ limit) (now : τ) (fate : Fate τ ρ) : now ≤ (await limit now fate).1 := by
  have later : now ≤ now + limit := le_add_of_nonneg_right positive
  unfold await
  split
  · exact later
  · split
    · exact le_max_left _ _
    · exact later

theorem await_le (positive : 0 ≤ limit) (now : τ) (fate : Fate τ ρ) : (await limit now fate).1 ≤ now + limit := by
  unfold await
  split
  · exact le_refl _
  · split
    · rename_i early
      exact max_le (le_add_of_nonneg_right positive) early
    · exact le_refl _

theorem awaitAll_le (positive : 0 ≤ limit) (now : τ) (fates : List (Fate τ ρ)) :
    (awaitAll limit now fates).1 ≤ now + fates.length • limit := by
  induction fates generalizing now with
  | nil => simp [awaitAll]
  | cons fate rest ih =>
      calc (awaitAll limit (await limit now fate).1 rest).1
          ≤ (await limit now fate).1 + rest.length • limit := ih _
        _ ≤ now + limit + rest.length • limit := by
            gcongr
            exact await_le positive now fate
        _ = now + (rest.length + 1) • limit := by
            rw [succ_nsmul', add_assoc]

theorem awaitAll_inTime (positive : 0 ≤ limit) {good : ρ → Prop} {start now : τ} (later : start ≤ now)
    {fates : List (Fate τ ρ)} (inTime : ∀ fate ∈ fates, InTime limit start good fate) :
    ∀ result ∈ (awaitAll limit now fates).2, ∃ value, result = some value ∧ good value := by
  induction fates generalizing now with
  | nil => simp [awaitAll]
  | cons fate rest ih =>
      rw [List.forall_mem_cons] at inTime
      rw [awaitAll, List.forall_mem_cons]
      constructor
      · obtain ⟨time, result, ends, early, fine⟩ := inTime.1
        apply (await_eq_some_iff limit now good fate).mpr
        exact ⟨time, result, ends, early.trans (add_le_add_left later limit), fine⟩
      · exact ih (later.trans (le_await positive now fate)) inTime.2

/-- Whatever the order, all end in time and well exactly if each would when awaited first. -/
theorem awaitAll_sure_iff {ι : Type} (positive : 0 ≤ limit) (good : ρ → Prop) (now : τ) (fate : ι → Fate τ ρ)
    (items : List ι) :
    (∀ order : List ι, order.Perm items → ∀ result ∈ (awaitAll limit now (order.map fate)).2,
      ∃ value, result = some value ∧ good value) ↔ ∀ item ∈ items, InTime limit now good (fate item) := by
  constructor
  · intro sure item listed
    obtain ⟨before, behind, split⟩ := List.append_of_mem listed
    have order : (item :: (before ++ behind)).Perm items := by
      rw [split]
      exact List.perm_middle.symm
    apply (await_eq_some_iff limit now good (fate item)).mp
    exact sure _ order _ List.mem_cons_self
  · intro inTime order same
    apply awaitAll_inTime positive (le_refl now)
    rw [List.forall_mem_map]
    exact fun item listed => inTime item (same.subset listed)

end Deadlines
