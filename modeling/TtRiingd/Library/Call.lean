/-!
# Calls that change a state and may fail

`EStateM ε σ` keeps the state of a failed call, as a method on `&mut self` does. These are the rules
that take a successful sequence of calls apart.
-/

namespace EStateM

variable {ε σ α β : Type}

def Result.state : Result ε σ α → σ
  | .ok _ state | .error _ state => state

def Result.isOk : Result ε σ α → Bool
  | .ok _ _ => true
  | .error _ _ => false

@[simp] theorem Result.state_ok (value : α) (state : σ) :
    (Result.ok value state : Result ε σ α).state = state := rfl

@[simp] theorem Result.state_error (e : ε) (state : σ) :
    (Result.error e state : Result ε σ α).state = state := rfl

@[simp] theorem Result.isOk_ok (value : α) (state : σ) :
    (Result.ok value state : Result ε σ α).isOk = true := rfl

@[simp] theorem Result.isOk_error (e : ε) (state : σ) :
    (Result.error e state : Result ε σ α).isOk = false := rfl

theorem exists_of_isOk {result : Result ε σ α} (succeeds : result.isOk = true) :
    ∃ value after, result = .ok value after := by
  cases result with
  | ok value after => exact ⟨value, after, rfl⟩
  | error e after => contradiction

theorem bind_eq_ok {x : EStateM ε σ α} {f : α → EStateM ε σ β} {state after : σ} {value : β} :
    (x >>= f) state = .ok value after ↔
      ∃ a middle, x state = .ok a middle ∧ f a middle = .ok value after := by
  change EStateM.bind x f state = _ ↔ _
  unfold EStateM.bind
  cases x state with
  | ok a middle =>
      constructor
      · exact fun result => ⟨a, middle, rfl, result⟩
      · rintro ⟨_, _, same, result⟩
        cases same
        exact result
  | error e middle => simp

theorem bind_of_ok {x : EStateM ε σ α} {f : α → EStateM ε σ β} {state middle : σ} {a : α}
    (first : x state = .ok a middle) : (x >>= f) state = f a middle := by
  change EStateM.bind x f state = _
  unfold EStateM.bind
  rw [first]

theorem bind_of_error {x : EStateM ε σ α} {f : α → EStateM ε σ β} {state middle : σ} {e : ε}
    (first : x state = .error e middle) : (x >>= f) state = .error e middle := by
  change EStateM.bind x f state = _
  unfold EStateM.bind
  rw [first]

theorem set_bind (new : σ) (f : PUnit → EStateM ε σ β) (state : σ) :
    (set new >>= f : EStateM ε σ β) state = f ⟨⟩ new := rfl

theorem get_bind (f : σ → EStateM ε σ β) (state : σ) :
    (get >>= f : EStateM ε σ β) state = f state state := rfl

theorem forM_cons_eq_ok {body : α → EStateM ε σ PUnit} {a : α} {rest : List α} {state after : σ} :
    ((a :: rest).forM body) state = .ok ⟨⟩ after ↔
      ∃ middle, body a state = .ok ⟨⟩ middle ∧ (rest.forM body) middle = .ok ⟨⟩ after := by
  constructor
  · intro result
    obtain ⟨⟨⟩, middle, first, others⟩ := bind_eq_ok.mp result
    exact ⟨middle, first, others⟩
  · rintro ⟨middle, first, others⟩
    exact bind_eq_ok.mpr ⟨⟨⟩, middle, first, others⟩

theorem bind_pure_state (x : EStateM ε σ α) (f : α → β) (state : σ) :
    ((do let a ← x; pure (f a) : EStateM ε σ β) state).state = (x state).state := by
  change (EStateM.bind x (fun a => EStateM.pure (f a)) state).state = _
  unfold EStateM.bind EStateM.pure
  cases x state with
  | ok a middle => rfl
  | error e middle => rfl

section Loops
variable {body : α → EStateM ε σ PUnit}

/-- When, on states with an invariant, success of the body is a matter of the element alone, the
loop succeeds exactly on lists of good elements. -/
theorem forM_succeeds_iff {Inv : σ → Prop} {Good : α → Prop}
    (keeps : ∀ a state after, Inv state → body a state = .ok ⟨⟩ after → Inv after)
    (each : ∀ a state, Inv state → ((∃ after, body a state = .ok ⟨⟩ after) ↔ Good a))
    (items : List α) {state : σ} (inv : Inv state) :
    (∃ after, (items.forM body) state = .ok ⟨⟩ after) ↔ ∀ a ∈ items, Good a := by
  induction items generalizing state with
  | nil => exact ⟨fun _ => by simp, fun _ => ⟨state, rfl⟩⟩
  | cons item rest ih =>
      rw [List.forall_mem_cons]
      constructor
      · rintro ⟨after, result⟩
        obtain ⟨middle, first, others⟩ := forM_cons_eq_ok.mp result
        have later := keeps item state middle inv first
        exact ⟨(each item state inv).mp ⟨middle, first⟩, (ih later).mp ⟨after, others⟩⟩
      · rintro ⟨good, all⟩
        obtain ⟨middle, first⟩ := (each item state inv).mpr good
        obtain ⟨after, others⟩ := (ih (keeps item state middle inv first)).mpr all
        exact ⟨after, forM_cons_eq_ok.mpr ⟨middle, first, others⟩⟩

theorem forM_error {Fails : ε → Prop}
    (each : ∀ a state e after, body a state = .error e after → Fails e) (items : List α)
    {state after : σ} {e : ε} (result : (items.forM body) state = .error e after) : Fails e := by
  induction items generalizing state with
  | nil => cases result
  | cons item rest ih =>
      change EStateM.bind (body item) (fun _ => rest.forM body) state = _ at result
      unfold EStateM.bind at result
      cases first : body item state with
      | ok value middle =>
          rw [first] at result
          exact ih result
      | error fault middle =>
          rw [first] at result
          cases result
          exact each item state e after first

theorem forM_gathers {Holds : σ → Prop} {Adds : α → Prop}
    (each : ∀ a state after, body a state = .ok ⟨⟩ after → (Holds after ↔ Holds state ∨ Adds a))
    {items : List α} {state after : σ} (result : (items.forM body) state = .ok ⟨⟩ after) :
    Holds after ↔ Holds state ∨ ∃ a ∈ items, Adds a := by
  induction items generalizing state with
  | nil =>
      cases result
      simp
  | cons item rest ih =>
      obtain ⟨middle, first, others⟩ := forM_cons_eq_ok.mp result
      rw [ih others, each item state middle first]
      simp [or_assoc]

/-- A list in the state to which each element appends its part. -/
theorem forM_appends {held : σ → List β} {part : α → List β}
    (each : ∀ a state after, body a state = .ok ⟨⟩ after → held after = held state ++ part a)
    {items : List α} {state after : σ} (result : (items.forM body) state = .ok ⟨⟩ after) :
    held after = held state ++ items.flatMap part := by
  induction items generalizing state with
  | nil =>
      cases result
      simp
  | cons item rest ih =>
      obtain ⟨middle, first, others⟩ := forM_cons_eq_ok.mp result
      rw [ih others, each item state middle first, List.flatMap_cons, List.append_assoc]

end Loops

/-! ## What a call does to the state, whether it succeeds or fails -/

def Along (R : σ → σ → Prop) (x : EStateM ε σ α) : Prop := ∀ state, R state (x state).state

section Along
variable {R : σ → σ → Prop}

theorem Along.pure (refl : ∀ state, R state state) (value : α) :
    Along R (Pure.pure value : EStateM ε σ α) := fun state => refl state

/-- A call that fails is done with the first half. -/
theorem Along.bind_of {S T : σ → σ → Prop} (stops : ∀ a b, R a b → T a b)
    (goes : ∀ a b c, R a b → S b c → T a c) {x : EStateM ε σ α} {f : α → EStateM ε σ β} (first : Along R x)
    (second : ∀ a, Along S (f a)) : Along T (x >>= f) := by
  intro state
  have step := first state
  change T state (EStateM.bind x f state).state
  unfold EStateM.bind
  cases result : x state with
  | ok a middle =>
      rw [result] at step
      exact goes _ _ _ step (second a middle)
  | error e middle =>
      rw [result] at step
      exact stops _ _ step

theorem Along.bind (trans : ∀ a b c, R a b → R b c → R a c) {x : EStateM ε σ α}
    {f : α → EStateM ε σ β} (first : Along R x) (second : ∀ a, Along R (f a)) : Along R (x >>= f) :=
  .bind_of (fun _ _ step => step) trans first second

theorem Along.forM (refl : ∀ state, R state state) (trans : ∀ a b c, R a b → R b c → R a c)
    {body : α → EStateM ε σ PUnit} (each : ∀ a, Along R (body a)) (items : List α) :
    Along R (items.forM body) := by
  induction items with
  | nil => exact Along.pure refl _
  | cons item rest ih => exact Along.bind trans (each item) fun _ => ih

theorem Along.mapM' (refl : ∀ state, R state state) (trans : ∀ a b c, R a b → R b c → R a c)
    {body : α → EStateM ε σ β} (items : List α) (each : ∀ a ∈ items, Along R (body a)) :
    Along R (items.mapM' body) := by
  induction items with
  | nil => exact Along.pure refl _
  | cons item rest ih =>
      rw [List.forall_mem_cons] at each
      exact Along.bind trans each.1 fun _ => Along.bind trans (ih each.2) fun _ => Along.pure refl _

end Along

end EStateM
