import Mathlib.Algebra.Order.Group.Nat
import Mathlib.Data.List.Perm.Subperm
import TtRiingd.Core.Fault
import TtRiingd.Library.Call
import TtRiingd.Library.Deadlines
import TtRiingd.Library.Table

/-!
# The task manager

Tasks are kept by name, and a task spawned under a name that is taken replaces the handle of the one
before: that task goes on, but nothing awaits it any more. Shutting down cancels all tasks and awaits the
handles that are left, for ten seconds each.
-/

namespace TtRiingd.Core
open Deadlines

/-- How a task ends: with the result of its function, or in a panic. -/
inductive Ending where
  | returned (result : Except Error Unit)
  | panicked (message : String)

/-- `spawned` are the names of all tasks so far. The handle in `tasks` is the number of its task there. -/
structure TaskManager where
  tasks : AList fun _ : String => Nat := ∅
  spawned : List String := []
  cancelled : Bool := false

namespace TaskManager

def spawnTask (name : String) : EStateM Error TaskManager Unit := fun manager =>
  .ok () { manager with
    tasks := manager.tasks.insert name manager.spawned.length
    spawned := manager.spawned ++ [name] }

/-- `Duration::from_secs(10)`, in milliseconds. -/
def SHUTDOWN_TIMEOUT : Nat := 10000

def failure : Option Ending → Option Error
  | some (.returned (.ok ())) => none
  | some (.returned (.error e)) => some e
  | some (.panicked message) => some (anyhow s!"Task panicked: {message}")
  | none => some (anyhow "Task shutdown timeout exceeded")

def handles (manager : TaskManager) : List Nat := manager.tasks.entries.map (·.2)

/-- `fates` says of each task when it ends once the token is cancelled, and how. -/
def shutdownAll (fates : Nat → Fate Nat Ending) (now : Nat) (manager : TaskManager) :
    (Nat × Except Error Unit) × TaskManager :=
  let awaited := awaitAll SHUTDOWN_TIMEOUT now (manager.handles.map fates)
  let result := match awaited.2.findSome? failure with
    | some error => .error (error.context "One or more tasks failed during shutdown")
    | none => .ok ()
  ((awaited.1, result), { manager with tasks := ∅, cancelled := true })

def spawnAll (names : List String) : EStateM Error TaskManager Unit := names.forM spawnTask

/-! ## Which tasks are awaited -/

/-- Each name leads to the task that was spawned under it last. -/
def LeadsToLast (manager : TaskManager) : Prop :=
  ∀ name, manager.tasks.lookup name = manager.spawned.zipIdx.lastValue name

theorem LeadsToLast.spawnTask {manager : TaskManager} (leads : LeadsToLast manager) (name : String) :
    LeadsToLast (TaskManager.spawnTask name manager).state := by
  intro other
  have numbered : (manager.spawned ++ [name]).zipIdx =
      manager.spawned.zipIdx ++ [(name, manager.spawned.length)] := by
    simp [List.zipIdx_append]
  have last : [(name, manager.spawned.length)].lastValue other =
      if name = other then some manager.spawned.length else none := by
    simp [List.lastValue]
  simp only [TaskManager.spawnTask, EStateM.Result.state_ok]
  rw [AList.lookup_insert_eq, leads, numbered, List.lastValue_append, last]
  by_cases same : other = name
  · rw [if_pos same, if_pos same.symm, Option.some_or]
  · rw [if_neg same, if_neg (Ne.symm same), Option.none_or]

theorem spawnAll_leads (names : List String) {manager : TaskManager} (leads : LeadsToLast manager) :
    ∃ after, spawnAll names manager = .ok () after ∧ LeadsToLast after ∧
      after.spawned = manager.spawned ++ names ∧ after.cancelled = manager.cancelled := by
  induction names generalizing manager with
  | nil => exact ⟨manager, rfl, leads, (List.append_nil _).symm, rfl⟩
  | cons name rest ih =>
      obtain ⟨after, spawned, last, all, alike⟩ := ih (leads.spawnTask name)
      refine ⟨after, spawned, last, ?_, alike⟩
      rw [all]
      simp [TaskManager.spawnTask]

theorem mem_handles (manager : TaskManager) (handle : Nat) :
    handle ∈ manager.handles ↔ ∃ name, manager.tasks.lookup name = some handle := by
  unfold handles
  rw [List.mem_map]
  constructor
  · rintro ⟨⟨name, other⟩, listed, rfl⟩
    exact ⟨name, (AList.mem_entries_iff_lookup _ _ _).mp listed⟩
  · intro ⟨name, found⟩
    exact ⟨⟨name, handle⟩, (AList.mem_entries_iff_lookup _ _ _).mpr found, rfl⟩

/-- The task `handle` is the last that was spawned under its name. -/
def Current (names : List String) (handle : Nat) : Prop :=
  ∃ name, names[handle]? = some name ∧ name ∉ names.drop (handle + 1)

theorem LeadsToLast.mem_handles {manager : TaskManager} (leads : LeadsToLast manager) (handle : Nat) :
    handle ∈ manager.handles ↔ Current manager.spawned handle := by
  rw [TaskManager.mem_handles]
  apply exists_congr
  intro name
  rw [leads, List.lastValue_zipIdx]
  simp only [Nat.zero_add, exists_eq_left']

/-! ## What shutting down guarantees -/

theorem failure_eq_none_iff (result : Option Ending) :
    failure result = none ↔ ∃ ending, result = some ending ∧ ending = .returned (.ok ()) := by
  unfold failure
  split <;> simp

/-- The same tasks, in any order in which a hash map may list them. -/
def Reorders (other manager : TaskManager) : Prop := other.tasks.entries.Perm manager.tasks.entries

def EndsWell (ending : Ending) : Prop := ending = .returned (.ok ())

theorem shutdownAll_ok_iff (fates : Nat → Fate Nat Ending) (now : Nat) (manager : TaskManager) :
    (shutdownAll fates now manager).1.2 = .ok () ↔
      ∀ result ∈ (awaitAll SHUTDOWN_TIMEOUT now (manager.tasks.entries.map fun entry => fates entry.2)).2,
        ∃ ending, result = some ending ∧ EndsWell ending := by
  have same : manager.handles.map fates = manager.tasks.entries.map fun entry => fates entry.2 := by
    rw [handles, List.map_map]
    rfl
  simp only [EndsWell, ← failure_eq_none_iff, ← List.findSome?_eq_none_iff, shutdownAll, same]
  split <;> rename_i found <;> simp [found]

theorem shutdownAll_sure_iff (fates : Nat → Fate Nat Ending) (now : Nat) (manager : TaskManager) :
    (∀ other, Reorders other manager → (shutdownAll fates now other).1.2 = .ok ()) ↔
      ∀ handle ∈ manager.handles, InTime SHUTDOWN_TIMEOUT now EndsWell (fates handle) := by
  rw [handles, List.forall_mem_map, ← awaitAll_sure_iff (Nat.zero_le _)]
  simp only [shutdownAll_ok_iff]
  constructor
  · intro sure order same
    have keys : order.NodupKeys := (List.perm_nodupKeys same).mpr manager.tasks.nodupKeys
    exact sure { manager with tasks := ⟨order, keys⟩ } same
  · exact fun sure other same => sure other.tasks.entries same

/-- What holds of a shutdown after the tasks `names` have been spawned. -/
structure ShutdownGuarantees (fates : Nat → Fate Nat Ending) (now : Nat) (names : List String)
    (manager : TaskManager) : Prop where
  sure : (∀ other, Reorders other manager → (shutdownAll fates now other).1.2 = .ok ()) ↔
    ∀ handle, Current names handle → InTime SHUTDOWN_TIMEOUT now EndsWell (fates handle)
  bounded : (shutdownAll fates now manager).1.1 ≤ now + names.length * SHUTDOWN_TIMEOUT
  cancelled : (shutdownAll fates now manager).2.cancelled = true ∧ (shutdownAll fates now manager).2.handles = []
  complete : (∀ handle < names.length, Current names handle) ↔ names.Nodup

theorem Current.name_eq {names : List String} {handle : Nat} {name other : String}
    (here : names[handle]? = some name) (also : names[handle]? = some other) : name = other :=
  Option.some.inj (here.symm.trans also)

theorem handles_nodup {manager : TaskManager} (leads : LeadsToLast manager) : manager.handles.Nodup := by
  have place {entry : Sigma fun _ : String => Nat} (listed : entry ∈ manager.tasks.entries) :
      manager.spawned[entry.2]? = some entry.1 := by
    have found := (AList.mem_entries_iff_lookup _ entry.1 entry.2).mp listed
    rw [leads, List.lastValue_zipIdx] at found
    obtain ⟨offset, placed, here, -⟩ := found
    rw [placed, Nat.zero_add, here]
  apply List.Nodup.map_on
  · intro first listed second alsoListed same
    have name : first.1 = second.1 := Current.name_eq (place listed) (same ▸ place alsoListed)
    exact Sigma.ext name (heq_of_eq same)
  · exact manager.tasks.nodupKeys.nodup

theorem length_handles_le {manager : TaskManager} (leads : LeadsToLast manager) :
    manager.handles.length ≤ manager.spawned.length := by
  have below : manager.handles ⊆ List.range manager.spawned.length := by
    intro handle listed
    obtain ⟨name, here, -⟩ := (leads.mem_handles handle).mp listed
    exact List.mem_range.mpr (List.getElem?_eq_some_iff.mp here).1
  calc manager.handles.length
      ≤ (List.range manager.spawned.length).length := (List.Nodup.subperm (handles_nodup leads) below).length_le
    _ = manager.spawned.length := List.length_range

theorem all_current_iff (names : List String) :
    (∀ handle < names.length, Current names handle) ↔ names.Nodup := by
  induction names with
  | nil => simp
  | cons name rest ih =>
      have first : Current (name :: rest) 0 ↔ name ∉ rest := by simp [Current]
      have later (handle : Nat) : Current (name :: rest) (handle + 1) ↔ Current rest handle := by simp [Current]
      rw [List.nodup_cons, ← ih, ← first]
      constructor
      · intro all
        exact ⟨all 0 (by simp), fun handle bound => (later handle).mp (all (handle + 1) (by simpa using bound))⟩
      · intro ⟨zero, others⟩ handle bound
        cases handle with
        | zero => exact zero
        | succ handle => exact (later handle).mpr (others handle (by simpa using bound))

theorem spawnAll_guarantees (fates : Nat → Fate Nat Ending) (now : Nat) (names : List String) :
    ∃ manager, spawnAll names {} = .ok () manager ∧ ShutdownGuarantees fates now names manager := by
  obtain ⟨manager, spawned, leads, all, -⟩ := @spawnAll_leads names {} fun _ => rfl
  rw [List.nil_append] at all
  refine ⟨manager, spawned, ?_, ?_, ⟨rfl, rfl⟩, ?_⟩
  · rw [shutdownAll_sure_iff, ← all]
    exact forall_congr' fun handle => imp_congr_left (leads.mem_handles handle)
  · have bound := awaitAll_le (Nat.zero_le SHUTDOWN_TIMEOUT) now (manager.handles.map fates)
    rw [List.length_map, Nat.nsmul_eq_mul] at bound
    have fewer := length_handles_le leads
    rw [all] at fewer
    exact bound.trans (Nat.add_le_add_left (Nat.mul_le_mul_right _ fewer) now)
  · exact all_current_iff names

end TaskManager

end TtRiingd.Core
