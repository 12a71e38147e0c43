import Mathlib.Data.List.Nodup
import Mathlib.Tactic.Common

/-!
# Hashes

A hash keeps its entries in the order they were made, at most one for each key. `set` makes the entry
of its key the last one, `insert` leaves it in its place, `erase` deletes it, `mapValues` replaces every
value.
-/

namespace Curb.Misc

/-- A hash. -/
structure Table (κ ν : Type) where
  entries : List (κ × ν)
  nodup : (entries.map Prod.fst).Nodup

namespace Table

variable {κ ν : Type}

def empty : Table κ ν := ⟨[], List.nodup_nil⟩

def keys (table : Table κ ν) : List κ := table.entries.map Prod.fst

def mapValues (f : κ → ν → ν) (table : Table κ ν) : Table κ ν where
  entries := table.entries.map fun entry => (entry.1, f entry.1 entry.2)
  nodup := by
    rw [List.map_map]
    exact table.nodup

variable [DecidableEq κ]

def get (table : Table κ ν) (key : κ) : Option ν := table.entries.lookup key

def erase (table : Table κ ν) (key : κ) : Table κ ν where
  entries := table.entries.filter fun entry => entry.1 ≠ key
  nodup := table.nodup.sublist (List.filter_sublist.map Prod.fst)

def set (table : Table κ ν) (key : κ) (value : ν) : Table κ ν where
  entries := (table.erase key).entries ++ [(key, value)]
  nodup := by
    rw [List.map_append]
    refine List.Nodup.append (table.erase key).nodup (List.nodup_singleton key) ?_
    rw [List.map_singleton, List.disjoint_singleton]
    intro mem
    obtain ⟨entry, inside, same⟩ := List.mem_map.mp mem
    exact absurd same (of_decide_eq_true (List.mem_filter.mp inside).2)

def insert (table : Table κ ν) (key : κ) (value : ν) : Table κ ν :=
  if (table.get key).isSome then table.mapValues fun present old => if present = key then value else old
  else table.set key value

variable {table : Table κ ν} {key other : κ} {value : ν}

@[simp] theorem get_empty : (empty : Table κ ν).get key = none := rfl

theorem lookup_filter_ne (entries : List (κ × ν)) :
    (entries.filter fun entry => entry.1 ≠ other).lookup key =
      if key = other then none else entries.lookup key := by
  induction entries with
  | nil => simp
  | cons entry rest ih =>
    by_cases dropped : entry.1 = other
    · rw [List.filter_cons_of_neg (by simp [dropped]), ih]
      by_cases same : key = other
      · simp [same]
      · have differs : key ≠ entry.1 := by
          rw [dropped]
          exact same
        rw [if_neg same, if_neg same, List.lookup_cons, beq_false_of_ne differs]
    · rw [List.filter_cons_of_pos (by simp [dropped]), List.lookup_cons, List.lookup_cons, ih]
      by_cases here : key = entry.1
      · rw [here]
        simp [dropped]
      · simp [beq_false_of_ne here]

theorem lookup_append_singleton (entries : List (κ × ν)) :
    (entries ++ [(other, value)]).lookup key =
      (entries.lookup key).or (if key = other then some value else none) := by
  induction entries with
  | nil =>
    by_cases same : key = other
    · simp [same]
    · simp [same, List.lookup_cons, beq_false_of_ne same]
  | cons entry rest ih =>
    rw [List.cons_append, List.lookup_cons, List.lookup_cons, ih]
    cases key == entry.1 <;> rfl

theorem get_erase : (table.erase other).get key = if key = other then none else table.get key :=
  lookup_filter_ne table.entries

theorem get_set : (table.set other value).get key = if key = other then some value else table.get key := by
  show ((table.erase other).entries ++ [(other, value)]).lookup key = _
  rw [lookup_append_singleton]
  show ((table.erase other).get key).or _ = _
  rw [get_erase]
  by_cases same : key = other
  · simp [same]
  · simp [same]

theorem get_mapValues {f : κ → ν → ν} : (table.mapValues f).get key = (table.get key).map (f key) := by
  show (List.map _ table.entries).lookup key = (table.entries.lookup key).map (f key)
  induction table.entries with
  | nil => rfl
  | cons entry rest ih =>
    rw [List.map_cons, List.lookup_cons, List.lookup_cons, ih]
    by_cases here : key = entry.1
    · simp [here]
    · simp [beq_false_of_ne here]

theorem get_insert : (table.insert other value).get key = if key = other then some value else table.get key := by
  unfold insert
  by_cases present : (table.get other).isSome
  · rw [if_pos present, get_mapValues]
    by_cases same : key = other
    · obtain ⟨old, found⟩ := Option.isSome_iff_exists.mp present
      simp [same, found]
    · simp [same]
  · rw [if_neg present, get_set]

theorem mem_iff_lookup {entries : List (κ × ν)} (nodup : (entries.map Prod.fst).Nodup) :
    (key, value) ∈ entries ↔ entries.lookup key = some value := by
  induction entries with
  | nil => simp
  | cons entry rest ih =>
    rw [List.map_cons, List.nodup_cons] at nodup
    rw [List.mem_cons, List.lookup_cons, ih nodup.2]
    by_cases here : key = entry.1
    · have absent : rest.lookup key ≠ some value := by
        intro found
        have inside := (ih nodup.2).mpr found
        rw [here] at inside
        exact nodup.1 (List.mem_map.mpr ⟨_, inside, rfl⟩)
      rw [here, beq_self_eq_true]
      rw [here] at absent
      constructor
      · rintro (same | found)
        · rw [← same]
        · exact absurd found absent
      · intro same
        left
        exact Prod.ext rfl (Option.some.inj same).symm
    · rw [beq_false_of_ne here]
      constructor
      · rintro (same | found)
        · exact absurd (congrArg Prod.fst same) here
        · exact found
      · intro found
        exact Or.inr found

theorem mem_keys : key ∈ table.keys ↔ ∃ value, table.get key = some value := by
  unfold keys get
  rw [List.mem_map]
  constructor
  · rintro ⟨⟨_, value⟩, inside, rfl⟩
    exact ⟨value, (mem_iff_lookup table.nodup).mp inside⟩
  · rintro ⟨value, found⟩
    exact ⟨(key, value), (mem_iff_lookup table.nodup).mpr found, rfl⟩

end Table

end Curb.Misc
