import Mathlib.Data.List.Nodup

/-!
# Appending what is missing

A pass over some items appends an entry for each item whose key no entry has. The test reads the list that
the pass extends, so an item that is listed twice is appended once.
-/

namespace List

variable {α β κ : Type}

/-- What a pass over the items appends to the entries. -/
structure Missing (key : β → κ) (tag : α → κ) (make : α → β) (entries : List β) (items : List α)
    (added : List β) : Prop where
  nodup : (added.map key).Nodup
  absent : ∀ entry ∈ added, key entry ∉ entries.map key
  origin : ∀ entry ∈ added, ∃ item ∈ items, tag item = key entry ∧ make item = entry

section Missing
variable {key : β → κ} {tag : α → κ} {make : α → β} {entries : List β} {items : List α}

theorem Missing.skip {item : α} {added : List β} (missing : Missing key tag make entries items added) :
    Missing key tag make entries (item :: items) added := by
  refine ⟨missing.nodup, missing.absent, fun entry member => ?_⟩
  obtain ⟨other, listed, origin⟩ := missing.origin entry member
  exact ⟨other, mem_cons_of_mem _ listed, origin⟩

theorem Missing.cons {item : α} {added : List β}
    (missing : Missing key tag make (entries ++ [make item]) items added)
    (keeps : key (make item) = tag item) (unlisted : tag item ∉ entries.map key) :
    Missing key tag make entries (item :: items) (make item :: added) := by
  have later : ∀ entry ∈ added, key entry ∉ entries.map key ∧ key entry ≠ key (make item) := by
    intro entry member
    have absent := missing.absent entry member
    rw [map_append, mem_append, not_or] at absent
    exact ⟨absent.1, fun same => absent.2 (mem_singleton.mpr same)⟩
  constructor
  · rw [map_cons, nodup_cons]
    refine ⟨fun member => ?_, missing.nodup⟩
    obtain ⟨entry, member, same⟩ := mem_map.mp member
    exact (later entry member).2 same
  · rw [forall_mem_cons, keeps]
    exact ⟨unlisted, fun entry member => (later entry member).1⟩
  · rw [forall_mem_cons]
    refine ⟨⟨item, mem_cons_self, keeps.symm, rfl⟩, fun entry member => ?_⟩
    obtain ⟨other, listed, origin⟩ := missing.origin entry member
    exact ⟨other, mem_cons_of_mem _ listed, origin⟩

end Missing

section Pass
variable [DecidableEq κ] (key : β → κ) (tag : α → κ) (make : α → β)

def addMissing (entries : List β) (item : α) : List β :=
  if tag item ∈ entries.map key then entries else entries ++ [make item]

def addAllMissing (entries : List β) (items : List α) : List β :=
  items.foldl (addMissing key tag make) entries

variable {key tag make} {entries : List β} {items : List α}

theorem addAllMissing_eq_append (keeps : ∀ item ∈ items, key (make item) = tag item) :
    ∃ added, addAllMissing key tag make entries items = entries ++ added ∧
      Missing key tag make entries items added := by
  induction items generalizing entries with
  | nil => exact ⟨[], (append_nil entries).symm, nodup_nil, by simp, by simp⟩
  | cons item rest ih =>
      rw [forall_mem_cons] at keeps
      simp only [addAllMissing, foldl_cons, addMissing]
      split
      · obtain ⟨added, result, missing⟩ := ih keeps.2
        exact ⟨added, result, missing.skip⟩
      · rename_i unlisted
        obtain ⟨added, result, missing⟩ := @ih (entries ++ [make item]) keeps.2
        rw [append_assoc, singleton_append] at result
        exact ⟨make item :: added, result, missing.cons keeps.1 unlisted⟩

theorem key_mem_addMissing {item : α} (keeps : key (make item) = tag item) :
    tag item ∈ (addMissing key tag make entries item).map key := by
  unfold addMissing
  split
  · assumption
  · rw [map_append, mem_append]
    exact .inr (mem_singleton.mpr keeps.symm)

theorem key_mem_addAllMissing (keeps : ∀ item ∈ items, key (make item) = tag item) {item : α}
    (listed : item ∈ items) : tag item ∈ (addAllMissing key tag make entries items).map key := by
  induction items generalizing entries with
  | nil => contradiction
  | cons first rest ih =>
      rw [forall_mem_cons] at keeps
      rcases mem_cons.mp listed with rfl | listed
      · obtain ⟨added, result, -⟩ := @addAllMissing_eq_append _ _ _ _ key tag make
          (addMissing key tag make entries item) rest keeps.2
        rw [addAllMissing] at result
        rw [addAllMissing, foldl_cons, result, map_append]
        exact mem_append_left _ (key_mem_addMissing keeps.1)
      · exact ih keeps.2 listed

theorem addAllMissing_of_listed (listed : ∀ item ∈ items, tag item ∈ entries.map key) :
    addAllMissing key tag make entries items = entries := by
  induction items with
  | nil => rfl
  | cons item rest ih =>
      rw [forall_mem_cons] at listed
      rw [addAllMissing, foldl_cons, addMissing, if_pos listed.1]
      exact ih listed.2

end Pass

end List
