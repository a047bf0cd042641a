import Mathlib.Data.List.AList
import Mathlib.Data.List.Induction

/-!
# Tables

Facts about `AList`, the key-value tables of Mathlib, for code that inserts into hash maps and
walks over their entries.
-/

/-! ## The last value written under a key -/

namespace List

variable {α : Type} {β : Type} [DecidableEq α]

def lastValue : List (α × β) → α → Option β
  | [], _ => none
  | (key, value) :: rest, wanted => (lastValue rest wanted).or (if key = wanted then some value else none)

theorem lastValue_append (earlier later : List (α × β)) (wanted : α) :
    (earlier ++ later).lastValue wanted = (later.lastValue wanted).or (earlier.lastValue wanted) := by
  induction earlier with
  | nil => exact (Option.or_none).symm
  | cons write rest ih => rw [List.cons_append, lastValue, ih, lastValue, Option.or_assoc]

theorem lastValue_eq_none {writes : List (α × β)} {wanted : α} :
    writes.lastValue wanted = none ↔ wanted ∉ writes.map Prod.fst := by
  induction writes with
  | nil => simp [lastValue]
  | cons write rest ih =>
      rw [List.map_cons, List.mem_cons, not_or, ← ih, lastValue, Option.or_eq_none_iff]
      by_cases same : write.1 = wanted
      · simp [same]
      · simp [same, Ne.symm same]

theorem lastValue_of_last {earlier later : List (α × β)} {key : α} {value : β}
    (last : key ∉ later.map Prod.fst) : (earlier ++ (key, value) :: later).lastValue key = some value := by
  rw [lastValue_append, lastValue, lastValue_eq_none.mpr last, if_pos rfl, Option.none_or, Option.some_or]

theorem lastValue_mem {writes : List (α × β)} {wanted : α} {value : β}
    (written : writes.lastValue wanted = some value) : (wanted, value) ∈ writes := by
  induction writes with
  | nil => contradiction
  | cons write rest ih =>
      rw [lastValue, Option.or_eq_some_iff] at written
      rcases written with later | ⟨-, first⟩
      · exact List.mem_cons_of_mem _ (ih later)
      · rw [Option.ite_none_right_eq_some, Option.some.injEq] at first
        obtain ⟨rfl, rfl⟩ := first
        exact List.mem_cons_self

/-- Among numbered items, the last value of an item is its last position. -/
theorem lastValue_zipIdx (items : List α) (first : Nat) (wanted : α) (place : Nat) :
    (items.zipIdx first).lastValue wanted = some place ↔
      ∃ offset, place = first + offset ∧ items[offset]? = some wanted ∧ wanted ∉ items.drop (offset + 1) := by
  induction items generalizing first with
  | nil => simp [lastValue]
  | cons item rest ih =>
      have absent : (rest.zipIdx (first + 1)).lastValue wanted = none ↔ wanted ∉ rest := by
        rw [lastValue_eq_none, List.zipIdx_map_fst]
      rw [List.zipIdx_cons, lastValue, Option.or_eq_some_iff, ih, absent, Option.ite_none_right_eq_some,
        Option.some.injEq]
      constructor
      · rintro (⟨offset, rfl, here, last⟩ | ⟨last, same, rfl⟩)
        · exact ⟨offset + 1, by omega, here, last⟩
        · exact ⟨0, rfl, congrArg some same, last⟩
      · intro ⟨offset, placed, here, last⟩
        cases offset with
        | zero => exact .inr ⟨last, Option.some.inj here, placed.symm⟩
        | succ offset => exact .inl ⟨offset, by omega, here, last⟩

theorem lastValue_const {keys : List α} {wanted : α} (listed : wanted ∈ keys) (value : β) :
    (keys.map fun key => (key, value)).lastValue wanted = some value := by
  cases written : (keys.map fun key => (key, value)).lastValue wanted with
  | none =>
      have absent := lastValue_eq_none.mp written
      rw [List.map_map] at absent
      exact absurd (by simpa [Function.comp_def] using listed) absent
  | some other =>
      obtain ⟨key, -, same⟩ := List.mem_map.mp (lastValue_mem written)
      rw [(Prod.mk.inj same).2]

theorem flatMap_of_nodup {γ : Type} {pairs : List (α × β)} (distinct : (pairs.map Prod.fst).Nodup) (wanted : α)
    (part : β → List γ) :
    (pairs.flatMap fun pair => if pair.1 = wanted then part pair.2 else []) =
      ((pairs.lookup wanted).map part).getD [] := by
  induction pairs with
  | nil => rfl
  | cons pair rest ih =>
      rw [map_cons, nodup_cons] at distinct
      obtain ⟨key, value⟩ := pair
      rw [flatMap_cons]
      by_cases same : key = wanted
      · subst same
        have nothing : (rest.flatMap fun pair => if pair.1 = key then part pair.2 else []) = [] := by
          apply flatMap_eq_nil_iff.mpr
          intro other member
          have apart : other.1 ≠ key := fun same => distinct.1 (mem_map.mpr ⟨other, member, same⟩)
          exact if_neg apart
        rw [nothing, append_nil, if_pos rfl, lookup_cons_self]
        rfl
      · rw [if_neg same, nil_append, ih distinct.2, lookup_cons, beq_false_of_ne (Ne.symm same)]

end List

namespace AList

variable {α : Type} {β : Type} [DecidableEq α]

theorem lookup_insert_eq (table : AList fun _ : α => β) (key query : α) (value : β) :
    (table.insert key value).lookup query = if query = key then some value else table.lookup query := by
  by_cases same : query = key
  · subst same
    simp [lookup_insert]
  · rw [lookup_insert_ne same, if_neg same]

/-- Changing the value of a key that is there. -/
theorem lookup_insert_changed {table : AList fun _ : α => β} {key : α} {value : β}
    (found : table.lookup key = some value) (change : β → β) (query : α) :
    (table.insert key (change value)).lookup query =
      (table.lookup query).map fun held => if query = key then change held else held := by
  rw [lookup_insert_eq]
  by_cases same : query = key
  · rw [same, found, if_pos rfl, Option.map_some, if_pos rfl]
  · simp only [if_neg same, Option.map_id']

theorem lookup_changed_of_none {table : AList fun _ : α => β} {key : α} (absent : table.lookup key = none)
    (change : β → β) (query : α) :
    table.lookup query = (table.lookup query).map fun held => if query = key then change held else held := by
  by_cases same : query = key
  · rw [same, absent, Option.map_none]
  · simp only [if_neg same, Option.map_id']

theorem mem_entries_iff_lookup (table : AList fun _ : α => β) (key : α) (value : β) :
    (⟨key, value⟩ : Sigma fun _ : α => β) ∈ table.entries ↔ table.lookup key = some value :=
  (mem_lookup_iff (s := table) (a := key) (b := value)).symm

theorem lookup_entries (table : AList fun _ : α => β) (key : α) :
    (table.entries.map fun entry => (entry.1, entry.2)).lookup key = table.lookup key := by
  unfold AList.lookup
  induction table.entries with
  | nil => rfl
  | cons entry rest ih =>
      obtain ⟨stored, value⟩ := entry
      by_cases same : key = stored
      · subst same
        rw [List.map_cons, List.lookup_cons_self, List.dlookup_cons_eq]
      · rw [List.map_cons, List.lookup_cons, beq_false_of_ne same, List.dlookup_cons_ne _ _ same]
        exact ih

/-- `after` holds the value under the key, and under every other key what `before` holds. -/
def Sets (key : α) (value : β) (before after : AList fun _ : α => β) : Prop :=
  ∀ query, after.lookup query = if query = key then some value else before.lookup query

theorem sets_insert (table : AList fun _ : α => β) (key : α) (value : β) :
    Sets key value table (table.insert key value) :=
  fun query => lookup_insert_eq table key query value

theorem sets_of_lookup {table : AList fun _ : α => β} {key : α} {value : β}
    (held : table.lookup key = some value) : Sets key value table table := by
  intro query
  by_cases same : query = key
  · rw [if_pos same, same, held]
  · rw [if_neg same]

theorem Sets.lookup {key query : α} {value found : β} {before after : AList fun _ : α => β}
    (sets : Sets key value before after) (looked : after.lookup query = some found) :
    query = key ∧ value = found ∨ before.lookup query = some found := by
  rw [sets query] at looked
  by_cases same : query = key
  · rw [if_pos same, Option.some.injEq] at looked
    exact .inl ⟨same, looked⟩
  · rw [if_neg same] at looked
    exact .inr looked

/-- Keys numbered from 1 without a gap are as many as the last number. -/
theorem length_of_keys {table : AList fun _ : Nat => β} {count : Nat}
    (keys : ∀ key, key ∈ table ↔ 1 ≤ key ∧ key ≤ count) : table.entries.length = count := by
  have perm : table.keys.Perm (List.range' 1 count) := by
    apply (List.perm_ext_iff_of_nodup table.keys_nodup List.nodup_range').mpr
    intro key
    rw [← mem_keys, keys, List.mem_range'_1]
    omega
  calc
    table.entries.length = table.keys.length := (List.length_map _).symm
    _ = count := perm.length_eq.trans List.length_range'

/-! ## Inserting a list of pairs -/

def insertAll (table : AList fun _ : α => β) (pairs : List (α × β)) : AList fun _ : α => β :=
  pairs.foldl (fun acc pair => acc.insert pair.1 pair.2) table

theorem insertAll_cons (table : AList fun _ : α => β) (pair : α × β) (rest : List (α × β)) :
    table.insertAll (pair :: rest) = (table.insert pair.1 pair.2).insertAll rest := rfl

theorem lookup_insertAll_eq (table : AList fun _ : α => β) (pairs : List (α × β)) (key : α) :
    (table.insertAll pairs).lookup key = (pairs.lastValue key).or (table.lookup key) := by
  induction pairs generalizing table with
  | nil => rfl
  | cons pair rest ih =>
      rw [insertAll_cons, ih, lookup_insert_eq, List.lastValue, Option.or_assoc]
      by_cases same : key = pair.1
      · simp [same]
      · simp [same, Ne.symm same]

theorem lookup_insertAll {table : AList fun _ : α => β} {pairs : List (α × β)} {key : α} {value : β}
    (found : (table.insertAll pairs).lookup key = some value) :
    (key, value) ∈ pairs ∨ table.lookup key = some value := by
  rw [lookup_insertAll_eq, Option.or_eq_some_iff] at found
  rcases found with written | ⟨-, before⟩
  · exact .inl (List.lastValue_mem written)
  · exact .inr before

theorem lookup_insertAll_of_notMem {pairs : List (α × β)} {key : α}
    (absent : key ∉ pairs.map Prod.fst) (table : AList fun _ : α => β) :
    (table.insertAll pairs).lookup key = table.lookup key := by
  rw [lookup_insertAll_eq, List.lastValue_eq_none.mpr absent, Option.none_or]

theorem exists_lookup_insertAll {pairs : List (α × β)} {key : α} (written : key ∈ pairs.map Prod.fst)
    (table : AList fun _ : α => β) : ∃ value, (table.insertAll pairs).lookup key = some value := by
  cases last : pairs.lastValue key with
  | none => exact absurd written (List.lastValue_eq_none.mp last)
  | some value => exact ⟨value, by rw [lookup_insertAll_eq, last, Option.some_or]⟩

theorem lookup_insertAll_of_nodup {pairs : List (α × β)} {key : α} {value : β}
    (distinct : (pairs.map Prod.fst).Nodup) (member : (key, value) ∈ pairs)
    (table : AList fun _ : α => β) : (table.insertAll pairs).lookup key = some value := by
  obtain ⟨earlier, later, rfl⟩ := List.append_of_mem member
  rw [List.map_append, List.map_cons] at distinct
  have last : key ∉ later.map Prod.fst := (List.nodup_cons.mp (List.nodup_append.mp distinct).2.1).1
  rw [lookup_insertAll_eq, List.lastValue_of_last last, Option.some_or]

theorem insertAll_append (table : AList fun _ : α => β) (before after : List (α × β)) :
    table.insertAll (before ++ after) = (table.insertAll before).insertAll after := by
  unfold insertAll
  exact List.foldl_append

theorem lookup_insertAll_const (table : AList fun _ : α => β) (keys : List α) (value : β) (query : α) :
    (table.insertAll (keys.map fun key => (key, value))).lookup query =
      if query ∈ keys then some value else table.lookup query := by
  by_cases listed : query ∈ keys
  · rw [lookup_insertAll_eq, List.lastValue_const listed, if_pos listed, Option.some_or]
  · rw [if_neg listed, lookup_insertAll_of_notMem]
    simpa [Function.comp_def] using listed

/-- Inserting the keys of one group after the other leaves every key with its last group. -/
theorem lookup_insertAll_groups {γ : Type} (groups : List γ) (keys : γ → List α) (value : γ → β) (query : α) :
    ((∅ : AList fun _ : α => β).insertAll
        (groups.flatMap fun group => (keys group).map fun key => (key, value group))).lookup query =
      (groups.reverse.find? fun group => query ∈ keys group).map value := by
  induction groups using List.reverseRecOn with
  | nil => rfl
  | append_singleton groups last ih =>
      rw [List.flatMap_append, insertAll_append, List.flatMap_singleton, lookup_insertAll_const, ih,
        List.reverse_append]
      by_cases listed : query ∈ keys last
      · simp [listed]
      · simp [listed]

/-! ## Tables of sets

A set is a list without repetitions; a key without an entry has the empty set. -/

section Groups
variable {γ : Type}

def group (table : AList fun _ : α => List γ) (key : α) : List γ := (table.lookup key).getD []

theorem group_empty (key : α) : (∅ : AList fun _ : α => List γ).group key = [] := by
  simp [group]

variable [DecidableEq γ]

def addTo (table : AList fun _ : α => List γ) (key : α) (value : γ) : AList fun _ : α => List γ :=
  table.insert key ((table.group key).insert value)

def addAll (table : AList fun _ : α => List γ) (pairs : List (α × γ)) : AList fun _ : α => List γ :=
  pairs.foldl (fun acc pair => acc.addTo pair.1 pair.2) table

theorem addAll_cons (table : AList fun _ : α => List γ) (pair : α × γ) (rest : List (α × γ)) :
    table.addAll (pair :: rest) = (table.addTo pair.1 pair.2).addAll rest := rfl

theorem group_addTo (table : AList fun _ : α => List γ) (key other : α) (value : γ) :
    (table.addTo key value).group other =
      if other = key then (table.group key).insert value else table.group other := by
  unfold addTo group
  rw [lookup_insert_eq]
  by_cases same : other = key
  · rw [if_pos same, if_pos same, Option.getD_some]
  · rw [if_neg same, if_neg same]

theorem mem_group_addAll (table : AList fun _ : α => List γ) (pairs : List (α × γ)) (key : α) (value : γ) :
    value ∈ (table.addAll pairs).group key ↔ (key, value) ∈ pairs ∨ value ∈ table.group key := by
  induction pairs generalizing table with
  | nil => simp [addAll]
  | cons pair rest ih =>
      obtain ⟨stored, added⟩ := pair
      rw [addAll_cons, ih, group_addTo, List.mem_cons, Prod.mk.injEq]
      by_cases same : key = stored
      · rw [if_pos same, List.mem_insert_iff, same]
        tauto
      · rw [if_neg same]
        tauto

theorem nodup_group_addAll {table : AList fun _ : α => List γ} (distinct : ∀ key, (table.group key).Nodup)
    (pairs : List (α × γ)) (key : α) : ((table.addAll pairs).group key).Nodup := by
  induction pairs generalizing table with
  | nil => exact distinct key
  | cons pair rest ih =>
      apply ih
      intro other
      rw [group_addTo]
      split
      · exact (distinct pair.1).insert
      · exact distinct other

/-- Adding every element of each item to the item's own key. -/
theorem mem_group_addAll_items {ι : Type} (items : List ι) (key : ι → α) (elements : ι → List γ) (query : α)
    (value : γ) :
    value ∈ ((∅ : AList fun _ : α => List γ).addAll
        (items.flatMap fun item => (elements item).map fun element => (key item, element))).group query ↔
      ∃ item ∈ items, key item = query ∧ value ∈ elements item := by
  rw [mem_group_addAll, group_empty]
  simp only [List.mem_flatMap, List.mem_map, Prod.mk.injEq, List.not_mem_nil, or_false]
  constructor
  · intro ⟨item, member, element, inside, same, equal⟩
    exact ⟨item, member, same, equal ▸ inside⟩
  · intro ⟨item, member, same, inside⟩
    exact ⟨item, member, value, inside, same, rfl⟩

end Groups

end AList
