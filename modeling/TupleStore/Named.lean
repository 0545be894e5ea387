/-!
# Named values

Entries of distinct names in increasing order.  `Named.ofList` sorts entries; of
several entries with one name the last one counts.
-/

namespace TupleStore.Named

variable {α : Type}

abbrev Sorted (entries : List (String × α)) : Prop :=
  entries.Pairwise fun l r => l.1 < r.1

/-- Adds an entry at the place of its name; an entry with that name is replaced. -/
def insert (name : String) (value : α) : List (String × α) → List (String × α)
  | [] => [(name, value)]
  | entry :: entries =>
      if entry.1 = name then (name, value) :: entries
      else if name < entry.1 then (name, value) :: entry :: entries
      else entry :: insert name value entries

theorem fst_mem_insert {name : String} {value : α} {entries : List (String × α)}
    {other : String × α} (member : other ∈ insert name value entries) :
    other.1 = name ∨ other ∈ entries := by
  induction entries with
  | nil => simp_all [insert]
  | cons entry entries ih =>
      simp only [insert] at member
      split at member
      · rcases List.mem_cons.mp member with rfl | h
        · exact .inl rfl
        · exact .inr (List.mem_cons_of_mem _ h)
      · split at member
        · rcases List.mem_cons.mp member with rfl | h
          · exact .inl rfl
          · exact .inr h
        · rcases List.mem_cons.mp member with rfl | h
          · exact .inr List.mem_cons_self
          · exact (ih h).imp_right (List.mem_cons_of_mem _)

theorem sorted_insert {name : String} {value : α} {entries : List (String × α)}
    (sorted : Sorted entries) : Sorted (insert name value entries) := by
  induction entries with
  | nil => simp [insert]
  | cons entry entries ih =>
      obtain ⟨above, rest⟩ := List.pairwise_cons.mp sorted
      simp only [insert]
      split
      · rename_i same
        exact List.pairwise_cons.mpr ⟨fun other member => same ▸ above other member, rest⟩
      · split
        · rename_i before
          refine List.pairwise_cons.mpr ⟨fun other member => ?_, sorted⟩
          rcases List.mem_cons.mp member with rfl | h
          · exact before
          · exact String.lt_trans before (above other h)
        · rename_i differs notBefore
          refine List.pairwise_cons.mpr ⟨fun other member => ?_, ih rest⟩
          rcases fst_mem_insert member with h | h
          · rcases Std.lt_trichotomy entry.1 name with less | equal | greater
            · exact h ▸ less
            · exact absurd equal differs
            · exact absurd greater notBefore
          · exact above other h

def ofList (entries : List (String × α)) : List (String × α) :=
  entries.foldl (fun sorted entry => insert entry.1 entry.2 sorted) []

def get? (entries : List (String × α)) (name : String) : Option α :=
  (entries.find? fun entry => entry.1 == name).map Prod.snd

end TupleStore.Named
