import Curb.Misc.Table

/-!
# Caches of a table

A cache holds what has been made of some entries of a table, each under its key. An entry of the table
that goes takes what was made of it along, and so does one that changes.
-/

namespace Curb.Misc

variable {κ σ ν : Type} [DecidableEq κ] {good good' : κ → σ → ν → Prop}

/-- Everything in the cache is good for the entry that the table has under its key. -/
def Cached (good : κ → σ → ν → Prop) (table : Table κ σ) (cache : Table κ ν) : Prop :=
  ∀ key value, cache.get key = some value → ∃ entry, table.get key = some entry ∧ good key entry value

namespace Cached

variable {table : Table κ σ} {cache : Table κ ν} {key : κ} {entry : σ} {value : ν}

theorem empty : Cached good table .empty := by
  intro key value found
  rw [Table.get_empty] at found
  cases found

theorem imp (cached : Cached good table cache)
    (weaken : ∀ key entry value, table.get key = some entry → good key entry value → good' key entry value) :
    Cached good' table cache := by
  intro key value found
  obtain ⟨entry, present, holds⟩ := cached key value found
  exact ⟨entry, present, weaken key entry value present holds⟩

theorem erase (cached : Cached good table cache) (key : κ) : Cached good (table.erase key) (cache.erase key) := by
  intro other value found
  rw [Table.get_erase] at found
  split_ifs at found with same
  obtain ⟨entry, present, holds⟩ := cached other value found
  exact ⟨entry, by rw [Table.get_erase, if_neg same, present], holds⟩

/-- An entry that changes. -/
theorem change (cached : Cached good table cache) (key : κ) (entry : σ) :
    Cached good (table.insert key entry) (cache.erase key) := by
  intro other value found
  rw [Table.get_erase] at found
  split_ifs at found with same
  obtain ⟨old, present, holds⟩ := cached other value found
  exact ⟨old, by rw [Table.get_insert, if_neg same, present], holds⟩

/-- An entry that is new, or stays what it is. -/
theorem insert (cached : Cached good table cache)
    (keeps : table.get key = none ∨ table.get key = some entry) : Cached good (table.insert key entry) cache := by
  intro other value found
  obtain ⟨old, present, holds⟩ := cached other value found
  refine ⟨old, ?_, holds⟩
  rw [Table.get_insert]
  split_ifs with same
  · subst same
    rcases keeps with absent | stays
    · rw [absent] at present
      cases present
    · rw [← stays, present]
  · exact present

/-- A value that is made of the entry. -/
theorem store (cached : Cached good table cache) (present : table.get key = some entry)
    (holds : good key entry value) : Cached good table (cache.insert key value) := by
  intro other value' found
  rw [Table.get_insert] at found
  split_ifs at found with same
  · obtain rfl := Option.some.inj found
    exact ⟨entry, by rw [same, present], by rw [same]; exact holds⟩
  · exact cached other value' found

end Cached

end Curb.Misc
