/-!
# Guarded runs of a labelled machine

A machine is a partial step function on states; `none` means that the action is not enabled.
`Reachable` is the set of states its runs reach when every step meets a guard on the state before
it, and `Reachable.invariant` is the one induction the developments above use. `Runs` is an infinite
run, for what fairness brings about.
-/

namespace Machine

variable {σ α : Type}

inductive Reachable (step : σ → α → Option σ) (initial : σ → Prop) (guard : σ → α → Prop) :
    σ → Prop where
  | start {state : σ} (member : initial state) : Reachable step initial guard state
  | next {state after : σ} {label : α} (previous : Reachable step initial guard state)
      (allowed : guard state label) (action : step state label = some after) :
      Reachable step initial guard after

def free : σ → α → Prop := fun _ _ => True

theorem Reachable.invariant {step : σ → α → Option σ} {initial : σ → Prop} {guard : σ → α → Prop}
    (Inv : σ → Prop) (base : ∀ state, initial state → Inv state)
    (preserved : ∀ state label after, Inv state → guard state label →
      step state label = some after → Inv after)
    {state : σ} (reachable : Reachable step initial guard state) : Inv state := by
  induction reachable with
  | start member => exact base _ member
  | next _ allowed action ih => exact preserved _ _ _ ih allowed action

theorem Reachable.relax {step : σ → α → Option σ} {initial : σ → Prop} {guard weaker : σ → α → Prop}
    (Inv : σ → Prop) (base : ∀ state, initial state → Inv state)
    (preserved : ∀ state label after, Inv state → guard state label →
      step state label = some after → Inv after)
    (implied : ∀ state label, Inv state → guard state label → weaker state label)
    {state : σ} (reachable : Reachable step initial guard state) :
    Reachable step initial weaker state := by
  induction reachable with
  | start member => exact .start member
  | next previous allowed action ih =>
      have inv := previous.invariant Inv base preserved
      exact .next ih (implied _ _ inv allowed) action

def run (step : σ → α → Option σ) : σ → List α → Option σ
  | state, [] => some state
  | state, label :: rest => (step state label).bind (run step · rest)

theorem run_append (step : σ → α → Option σ) (state : σ) (labels more : List α) :
    run step state (labels ++ more) = (run step state labels).bind (run step · more) := by
  induction labels generalizing state with
  | nil => rfl
  | cons label rest ih =>
      simp only [List.cons_append, run, Option.bind_assoc]
      congr 1
      funext middle
      exact ih middle

def Allowed (step : σ → α → Option σ) (guard : σ → α → Prop) : σ → List α → Prop
  | _, [] => True
  | state, label :: rest =>
      guard state label ∧ ∀ after, step state label = some after → Allowed step guard after rest

instance (state : σ) (label : α) : Decidable (free state label) := .isTrue trivial

instance decideAllowed (step : σ → α → Option σ) (guard : σ → α → Prop)
    [∀ state label, Decidable (guard state label)] :
    (labels : List α) → (state : σ) → Decidable (Allowed step guard state labels)
  | [], _ => .isTrue trivial
  | label :: rest, state =>
      match action : step state label with
      | none => decidable_of_iff (guard state label) (by simp [Allowed, action])
      | some after =>
          have := decideAllowed step guard rest after
          decidable_of_iff (guard state label ∧ Allowed step guard after rest) (by simp [Allowed, action])

theorem Allowed.of_all {step : σ → α → Option σ} {guard : σ → α → Prop} {labels : List α}
    (all : ∀ label ∈ labels, ∀ state, guard state label) (state : σ) : Allowed step guard state labels := by
  induction labels generalizing state with
  | nil => trivial
  | cons label rest ih =>
      refine ⟨all label List.mem_cons_self state, fun after _ => ih ?_ after⟩
      intro later listed
      exact all later (List.mem_cons_of_mem _ listed)

theorem Reachable.run {step : σ → α → Option σ} {initial : σ → Prop} {guard : σ → α → Prop}
    {state after : σ} {labels : List α} (reachable : Reachable step initial guard state)
    (allowed : Allowed step guard state labels) (result : Machine.run step state labels = some after) :
    Reachable step initial guard after := by
  induction labels generalizing state with
  | nil =>
      simp only [Machine.run, Option.some.injEq] at result
      exact result ▸ reachable
  | cons label rest ih =>
      simp only [Machine.run, Option.bind_eq_some_iff] at result
      obtain ⟨middle, action, result⟩ := result
      exact ih (.next reachable allowed.1 action) (allowed.2 middle action) result

theorem run_invariant {step : σ → α → Option σ} {Inv : σ → Prop}
    (kept : ∀ state label after, Inv state → step state label = some after → Inv after)
    {state after : σ} {labels : List α} (inv : Inv state) (result : run step state labels = some after) :
    Inv after := by
  induction labels generalizing state with
  | nil =>
      simp only [run, Option.some.injEq] at result
      exact result ▸ inv
  | cons label rest ih =>
      simp only [run, Option.bind_eq_some_iff] at result
      obtain ⟨middle, action, result⟩ := result
      exact ih (kept state label middle inv action) result

def arrives (step : σ → α → Option σ) (guard : σ → α → Prop)
    [∀ state label, Decidable (guard state label)] (start : σ) (labels : List α) (test : σ → Bool) : Bool :=
  decide (Allowed step guard start labels) && (Machine.run step start labels).any test

theorem run_of_arrives {step : σ → α → Option σ} {guard : σ → α → Prop}
    [∀ state label, Decidable (guard state label)] {start : σ} {labels : List α} {test : σ → Bool}
    (arrived : arrives step guard start labels test = true) :
    ∃ after, Allowed step guard start labels ∧ Machine.run step start labels = some after ∧ test after = true := by
  simp only [arrives, Bool.and_eq_true, decide_eq_true_eq] at arrived
  obtain ⟨allowed, ends⟩ := arrived
  cases result : Machine.run step start labels with
  | none => simp [result] at ends
  | some after =>
      rw [result] at ends
      exact ⟨after, allowed, rfl, ends⟩

theorem exists_reachable_of_arrives {step : σ → α → Option σ} {guard : σ → α → Prop}
    [∀ state label, Decidable (guard state label)] (initial : σ → Prop) {start : σ}
    (member : initial start) (labels : List α) (test : σ → Bool)
    (arrived : arrives step guard start labels test = true) :
    ∃ after, Reachable step initial guard after ∧ test after = true := by
  obtain ⟨after, allowed, result, passed⟩ := run_of_arrives arrived
  have first : Reachable step initial guard start := .start member
  exact ⟨after, first.run allowed result, passed⟩

def passes {ε : Type} (step : σ → α → Option σ) (guard : σ → α → Prop)
    [∀ state label, Decidable (guard state label)] (start : Except ε σ) (labels : List α)
    (test : σ → Bool) : Bool :=
  match start with
  | .ok state => arrives step guard state labels test
  | .error _ => false

theorem run_of_passes {ε : Type} {step : σ → α → Option σ} {guard : σ → α → Prop}
    [∀ state label, Decidable (guard state label)] {start : Except ε σ} {labels : List α} {test : σ → Bool}
    (passed : passes step guard start labels test = true) :
    ∃ state after, start = .ok state ∧ Allowed step guard state labels ∧
      Machine.run step state labels = some after ∧ test after = true := by
  cases start with
  | error e => contradiction
  | ok state =>
      obtain ⟨after, ends⟩ := run_of_arrives passed
      exact ⟨state, after, rfl, ends⟩

theorem exists_reachable {ε : Type} {step : σ → α → Option σ} {guard : σ → α → Prop}
    [∀ state label, Decidable (guard state label)] {start : Except ε σ} (labels : List α)
    (test : σ → Bool) (passed : passes step guard start labels test = true) :
    ∃ after, Reachable step (fun state => start = .ok state) guard after ∧ test after = true := by
  cases start with
  | error e => contradiction
  | ok state =>
      exact exists_reachable_of_arrives (fun first => (.ok state : Except ε σ) = .ok first) rfl labels test
        passed

/-! ## Fair runs -/

def Runs (step : σ → α → Option σ) (states : Nat → σ) (labels : Nat → α) : Prop :=
  ∀ time, step (states time) (labels time) = some (states (time + 1))

/-- An action that stays enabled is taken at some time. -/
def WeaklyFair (step : σ → α → Option σ) (states : Nat → σ) (labels : Nat → α) (label : α) : Prop :=
  ∀ start, (∀ time, start ≤ time → (step (states time) label).isSome = true) →
    ∃ time, start ≤ time ∧ labels time = label

section Runs
variable {step : σ → α → Option σ} {states : Nat → σ} {labels : Nat → α}

theorem Runs.reachable {initial : σ → Prop} (runs : Runs step states labels) (member : initial (states 0))
    (time : Nat) : Reachable step initial free (states time) := by
  induction time with
  | zero => exact .start member
  | succ time ih => exact .next ih trivial (runs time)

theorem Runs.leads_to {Waits Done : σ → Prop} {label : α} (runs : Runs step states labels)
    (fair : WeaklyFair step states labels label)
    (enabled : ∀ state, Waits state → (step state label).isSome = true)
    (taken : ∀ state after, Waits state → step state label = some after → Done after)
    (stays : ∀ state other after, Waits state → step state other = some after → Waits after ∨ Done after)
    {start : Nat} (waits : Waits (states start)) : ∃ time, start ≤ time ∧ Done (states time) := by
  apply Classical.byContradiction
  intro never
  have waiting : ∀ time, start ≤ time → Waits (states time) := by
    intro time late
    induction late with
    | refl => exact waits
    | step late ih =>
        rcases stays _ _ _ ih (runs _) with still | done
        · exact still
        · exact absurd ⟨_, Nat.le_succ_of_le late, done⟩ never
  obtain ⟨time, late, same⟩ := fair start fun time late => enabled _ (waiting time late)
  have action := runs time
  rw [same] at action
  exact never ⟨time + 1, Nat.le_succ_of_le late, taken _ _ (waiting time late) action⟩

/-- A finite run goes on for ever with an action that changes nothing. -/
theorem exists_runs {start last : σ} {actions : List α} {rest : α} (result : run step start actions = some last)
    (idle : step last rest = some last) :
    ∃ states labels, Runs step states labels ∧
      (∀ time, time ≤ actions.length → run step start (actions.take time) = some (states time)) ∧
      ∀ time, actions.length ≤ time → states time = last := by
  induction actions generalizing start with
  | nil =>
      simp only [run, Option.some.injEq] at result
      subst result
      exact ⟨fun _ => start, fun _ => rest, fun _ => idle, fun _ _ => by rw [List.take_nil, run], fun _ _ => rfl⟩
  | cons action others ih =>
      simp only [run, Option.bind_eq_some_iff] at result
      obtain ⟨middle, first, result⟩ := result
      obtain ⟨states, labels, runs, passes, ends⟩ := ih result
      refine ⟨fun time => time.casesOn start states, fun time => time.casesOn action labels, ?_, ?_, ?_⟩
      · intro time
        cases time with
        | zero =>
            have begins : some middle = some (states 0) := passes 0 (Nat.zero_le _)
            exact first.trans begins
        | succ time => exact runs time
      · intro time early
        cases time with
        | zero => rfl
        | succ time =>
            simp only [List.take_succ_cons, run, first, Option.bind_some]
            exact passes time (Nat.le_of_succ_le_succ early)
      · intro time late
        cases time with
        | zero => contradiction
        | succ time => exact ends time (Nat.le_of_succ_le_succ late)

theorem weaklyFair_of_disabled {last : σ} {label : α} {length : Nat}
    (ends : ∀ time, length ≤ time → states time = last) (disabled : step last label = none) :
    WeaklyFair step states labels label := by
  intro start enabled
  have late := enabled (max start length) (Nat.le_max_left _ _)
  rw [ends _ (Nat.le_max_right _ _), disabled] at late
  contradiction

end Runs

end Machine
