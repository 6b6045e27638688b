/-!
# Entries by key

Lists of keys with values, in which a key counts where it first occurs. Putting a value under a
key keeps the place of the key, so the order of entries is the order in which their keys came.

The lemmas are those of a finite map: what is put is found, everything else stays, and among
distinct keys to be found is to be in the list.
-/

namespace TypedClients.Entries

variable {κ α : Type} [BEq κ]

/-- Entries with a value under a key, in the place of the value that was there. -/
def put (key : κ) (value : α) : List (κ × α) → List (κ × α)
  | [] => [(key, value)]
  | entry :: entries =>
    if key == entry.1 then (key, value) :: entries else entry :: put key value entries

/-- What was put under a key is found there. -/
theorem lookup_put_self [LawfulBEq κ] (key : κ) (value : α) (entries : List (κ × α)) :
    (put key value entries).lookup key = some value := by
  induction entries with
  | nil => simp only [put, List.lookup_cons_self]
  | cons entry entries ih =>
    obtain ⟨held, kept⟩ := entry
    by_cases same : key == held
    · simp only [put, same, if_true, List.lookup_cons_self]
    · simp [put, same, List.lookup_cons, ih]

/-- Under every other key there is what was there before, also when the key is a new one. -/
theorem lookup_put_of_ne [LawfulBEq κ] {key other : κ} (differ : other ≠ key) (value : α)
    (entries : List (κ × α)) : (put key value entries).lookup other = entries.lookup other := by
  have notKey : (other == key) = false := by simpa using differ
  induction entries with
  | nil => simp [put, List.lookup_cons, notKey]
  | cons entry entries ih =>
    obtain ⟨held, kept⟩ := entry
    by_cases same : key == held
    · have first : key = held := by simpa using same
      simp [put, List.lookup_cons, ← first, notKey]
    · simp [put, same, List.lookup_cons, ih]

/-- Among entries of different keys each is found under its key. -/
theorem lookup_eq_some_iff_mem [LawfulBEq κ] {entries : List (κ × α)}
    (distinct : (entries.map Prod.fst).Nodup) {key : κ} {value : α} :
    entries.lookup key = some value ↔ (key, value) ∈ entries := by
  induction entries with
  | nil => simp
  | cons entry entries ih =>
    obtain ⟨held, kept⟩ := entry
    obtain ⟨first, others⟩ := List.nodup_cons.mp distinct
    rw [List.lookup_cons, List.mem_cons]
    by_cases same : key = held
    · subst same
      have alone : (key, value) ∉ entries := fun member =>
        first (List.mem_map.mpr ⟨_, member, rfl⟩)
      simp [alone, eq_comm]
    · rw [beq_eq_false_iff_ne.mpr same]
      simp [ih others, same]

end TypedClients.Entries
