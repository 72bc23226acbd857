import Mathlib.Data.List.Induction
import Relational.Entries

/-!
# Looking up entries

What `setEntry`, `removeEntry` and `collectEntries` do to the keys of a list of entries and to what stands under
each key. Most lists of entries have every key once; then an entry is in the list exactly if its key finds it.
-/

namespace Relational

variable {α β : Type} [BEq α] [LawfulBEq α]

/-! ## Keys -/

theorem lookup_cons_of_ne {key k : α} (h : key ≠ k) (value : β) (entries : List (α × β)) :
    ((k, value) :: entries).lookup key = entries.lookup key := by
  rw [List.lookup_cons, beq_eq_false_iff_ne.2 h]

theorem lookup_eq_some_of_mem {key : α} {value : β} {entries : List (α × β)}
    (nodup : (entries.map Prod.fst).Nodup) (h : (key, value) ∈ entries) :
    entries.lookup key = some value := by
  induction entries with
  | nil => cases h
  | cons entry entries ih =>
    obtain ⟨k, v⟩ := entry
    simp only [List.map_cons, List.nodup_cons] at nodup
    rcases List.mem_cons.1 h with heq | hmem
    · cases heq
      exact List.lookup_cons_self
    · have hne : key ≠ k := by
        rintro rfl
        exact nodup.1 (List.mem_map_of_mem hmem)
      rw [lookup_cons_of_ne hne]
      exact ih nodup.2 hmem

theorem mem_of_lookup_eq_some {key : α} {value : β} {entries : List (α × β)}
    (h : entries.lookup key = some value) : (key, value) ∈ entries := by
  obtain ⟨l₁, l₂, rfl, -⟩ := List.lookup_eq_some_iff.1 h
  simp

theorem lookup_eq_some_iff_mem {key : α} {value : β} {entries : List (α × β)}
    (nodup : (entries.map Prod.fst).Nodup) : entries.lookup key = some value ↔ (key, value) ∈ entries :=
  ⟨mem_of_lookup_eq_some, lookup_eq_some_of_mem nodup⟩

theorem not_mem_of_lookup_eq_none {key : α} {entries : List (α × β)} (h : entries.lookup key = none) :
    key ∉ entries.map Prod.fst := by
  intro hmem
  obtain ⟨entry, hentry, rfl⟩ := List.mem_map.1 hmem
  simpa using List.lookup_eq_none_iff.1 h entry hentry

omit [LawfulBEq α] in
/-- Another value in the place of each leaves the keys where they are. -/
theorem lookup_map_value {γ : Type} (f : β → γ) (entries : List (α × β)) (key : α) :
    (entries.map fun entry => (entry.1, f entry.2)).lookup key = (entries.lookup key).map f := by
  induction entries with
  | nil => rfl
  | cons entry entries ih =>
    rw [List.map_cons, List.lookup_cons, List.lookup_cons, ih]
    cases key == entry.1 <;> rfl

/-! ## Setting an entry -/

theorem setEntry_of_not_mem {key : α} {value : β} {entries : List (α × β)}
    (h : key ∉ entries.map Prod.fst) : setEntry key value entries = entries ++ [(key, value)] := by
  induction entries with
  | nil => rfl
  | cons entry entries ih =>
    obtain ⟨k, v⟩ := entry
    simp only [List.map_cons, List.mem_cons, not_or] at h
    rw [setEntry, if_neg (by simpa using Ne.symm h.1), ih h.2, List.cons_append]

theorem keys_setEntry_of_mem {key : α} {value : β} {entries : List (α × β)}
    (h : key ∈ entries.map Prod.fst) : (setEntry key value entries).map Prod.fst = entries.map Prod.fst := by
  induction entries with
  | nil => cases h
  | cons entry entries ih =>
    obtain ⟨k, v⟩ := entry
    by_cases hk : k = key
    · simp [setEntry, hk]
    · have hmem : key ∈ entries.map Prod.fst := by
        rcases List.mem_cons.1 h with heq | hmem
        · exact absurd heq.symm hk
        · exact hmem
      simp [setEntry, hk, ih hmem]

theorem nodup_setEntry {key : α} {value : β} {entries : List (α × β)}
    (nodup : (entries.map Prod.fst).Nodup) : ((setEntry key value entries).map Prod.fst).Nodup := by
  by_cases h : key ∈ entries.map Prod.fst
  · rwa [keys_setEntry_of_mem h]
  · rw [setEntry_of_not_mem h, List.map_append, List.nodup_append]
    refine ⟨nodup, by simp, ?_⟩
    rintro a ha b hb rfl
    rw [List.map_singleton, List.mem_singleton] at hb
    subst hb
    exact h ha

theorem lookup_setEntry (key k : α) (value : β) (entries : List (α × β)) :
    (setEntry key value entries).lookup k = if k == key then some value else entries.lookup k := by
  induction entries with
  | nil => by_cases hk : k = key <;> simp [setEntry, hk]
  | cons entry entries ih =>
    obtain ⟨k', v⟩ := entry
    by_cases hk' : k' = key
    · subst hk'
      by_cases hk : k = k'
      · simp [setEntry, hk]
      · simp [setEntry, lookup_cons_of_ne hk, hk]
    · by_cases hk : k = k'
      · subst hk
        simp [setEntry, hk']
      · simp [setEntry, lookup_cons_of_ne hk, hk', ih]

@[simp] theorem lookup_setEntry_self (key : α) (value : β) (entries : List (α × β)) :
    (setEntry key value entries).lookup key = some value := by
  simp [lookup_setEntry]

theorem lookup_setEntry_of_ne {key k : α} (h : k ≠ key) (value : β) (entries : List (α × β)) :
    (setEntry key value entries).lookup k = entries.lookup k := by
  simp [lookup_setEntry, h]

/-- Setting what is there changes nothing. -/
theorem setEntry_eq_self {key : α} {value : β} {entries : List (α × β)} (h : entries.lookup key = some value) :
    setEntry key value entries = entries := by
  induction entries with
  | nil => cases h
  | cons entry entries ih =>
    obtain ⟨k, v⟩ := entry
    by_cases hk : k = key
    · subst hk
      rw [List.lookup_cons_self, Option.some.injEq] at h
      rw [setEntry, if_pos (by simp), h]
    · rw [lookup_cons_of_ne (Ne.symm hk)] at h
      rw [setEntry, if_neg (by simpa using hk), ih h]

/-- An entry of the changed list is the new one, or an old one under another key. -/
theorem mem_setEntry {key k : α} {value v : β} {entries : List (α × β)}
    (nodup : (entries.map Prod.fst).Nodup) :
    (k, v) ∈ setEntry key value entries ↔ (k = key ∧ v = value) ∨ (k ≠ key ∧ (k, v) ∈ entries) := by
  rw [← lookup_eq_some_iff_mem (nodup_setEntry nodup), ← lookup_eq_some_iff_mem nodup, lookup_setEntry]
  by_cases h : k = key
  · simp [h, eq_comm]
  · simp [h]

/-! ## Removing an entry -/

omit [LawfulBEq α] in
theorem removeEntry_sublist (key : α) (entries : List (α × β)) :
    (removeEntry key entries).Sublist entries := by
  induction entries with
  | nil => exact .refl _
  | cons entry entries ih =>
    obtain ⟨k, v⟩ := entry
    rw [removeEntry]
    split
    · exact List.sublist_cons_self _ _
    · exact ih.cons_cons _

omit [LawfulBEq α] in
theorem nodup_removeEntry {key : α} {entries : List (α × β)} (nodup : (entries.map Prod.fst).Nodup) :
    ((removeEntry key entries).map Prod.fst).Nodup :=
  nodup.sublist ((removeEntry_sublist key entries).map _)

theorem removeEntry_of_not_mem {key : α} {entries : List (α × β)} (h : key ∉ entries.map Prod.fst) :
    removeEntry key entries = entries := by
  induction entries with
  | nil => rfl
  | cons entry entries ih =>
    obtain ⟨k, v⟩ := entry
    simp only [List.map_cons, List.mem_cons, not_or] at h
    rw [removeEntry, if_neg (by simpa using Ne.symm h.1), ih h.2]

/-- An entry that is left stands under another key. -/
theorem mem_removeEntry {key k : α} {v : β} {entries : List (α × β)}
    (nodup : (entries.map Prod.fst).Nodup) : (k, v) ∈ removeEntry key entries ↔ k ≠ key ∧ (k, v) ∈ entries := by
  induction entries with
  | nil => simp [removeEntry]
  | cons entry entries ih =>
    obtain ⟨k', v'⟩ := entry
    simp only [List.map_cons, List.nodup_cons] at nodup
    by_cases hk' : k' = key
    · subst hk'
      rw [removeEntry, if_pos (by simp)]
      -- the entry that goes away is the only one under its key
      have hne : (k, v) ∈ entries → k ≠ k' := by
        rintro hmem rfl
        exact nodup.1 (List.mem_map_of_mem hmem)
      rw [List.mem_cons, Prod.mk.injEq]
      constructor
      · exact fun h => ⟨hne h, .inr h⟩
      · rintro ⟨hk, ⟨rfl, -⟩ | h⟩
        · exact absurd rfl hk
        · exact h
    · rw [removeEntry, if_neg (by simpa using hk'), List.mem_cons, ih nodup.2, List.mem_cons, Prod.mk.injEq]
      constructor
      · rintro (⟨rfl, rfl⟩ | ⟨hk, h⟩)
        · exact ⟨hk', .inl ⟨rfl, rfl⟩⟩
        · exact ⟨hk, .inr h⟩
      · rintro ⟨hk, h | h⟩
        · exact .inl h
        · exact .inr ⟨hk, h⟩

theorem lookup_removeEntry_of_ne {key k : α} (h : k ≠ key) (entries : List (α × β)) :
    (removeEntry key entries).lookup k = entries.lookup k := by
  induction entries with
  | nil => rfl
  | cons entry entries ih =>
    obtain ⟨k', v⟩ := entry
    by_cases hk' : k' = key
    · subst hk'
      simp [removeEntry, lookup_cons_of_ne h]
    · by_cases hk : k = k'
      · subst hk
        simp [removeEntry, hk']
      · simp [removeEntry, lookup_cons_of_ne hk, hk', ih]

/-! ## Collecting entries -/

/-- Entries that already have every key once stay as they are. -/
theorem collectEntries_of_nodup {entries : List (α × β)} (nodup : (entries.map Prod.fst).Nodup) :
    collectEntries entries = entries := by
  -- those found so far stand in front, and share no key with the rest
  suffices h : ∀ found : List (α × β), ((found ++ entries).map Prod.fst).Nodup →
      entries.foldl (fun found entry => setEntry entry.1 entry.2 found) found = found ++ entries by
    exact h [] nodup
  clear nodup
  induction entries with
  | nil => simp
  | cons entry entries ih =>
    intro found hnodup
    obtain ⟨k, v⟩ := entry
    have hk : k ∉ found.map Prod.fst := by
      intro hk
      rw [List.map_append, List.nodup_append] at hnodup
      exact hnodup.2.2 k hk k (by simp) rfl
    rw [List.foldl_cons, setEntry_of_not_mem hk, ih _ (by simpa using hnodup)]
    simp

omit [LawfulBEq α] in
/-- One more entry is set last. -/
theorem collectEntries_concat (entries : List (α × β)) (key : α) (value : β) :
    collectEntries (entries ++ [(key, value)]) = setEntry key value (collectEntries entries) := by
  simp [collectEntries]

/-- Of several entries under one key the last is found. -/
theorem lookup_collectEntries (entries : List (α × β)) (key : α) :
    (collectEntries entries).lookup key = entries.reverse.lookup key := by
  induction entries using List.reverseRec with
  | nil => rfl
  | append_singleton entries last ih =>
    obtain ⟨k, v⟩ := last
    rw [collectEntries_concat, lookup_setEntry, List.reverse_append, List.reverse_singleton, List.singleton_append,
      List.lookup_cons, ih]
    cases key == k <;> rfl

omit [LawfulBEq α] in
theorem mem_of_mem_setEntry {key : α} {value : β} {entries : List (α × β)} {entry : α × β}
    (h : entry ∈ setEntry key value entries) : entry.2 = value ∨ entry ∈ entries := by
  induction entries with
  | nil =>
    rw [setEntry, List.mem_singleton] at h
    exact .inl (congrArg Prod.snd h)
  | cons other entries ih =>
    obtain ⟨k, v⟩ := other
    rw [setEntry] at h
    split at h
    · rcases List.mem_cons.1 h with rfl | h
      · exact .inl rfl
      · exact .inr (List.mem_cons_of_mem _ h)
    · rcases List.mem_cons.1 h with rfl | h
      · exact .inr (by simp)
      · exact (ih h).imp id (List.mem_cons_of_mem _)

omit [LawfulBEq α] in
/-- What holds of the values of all entries, holds of the values collected. -/
theorem forall_mem_collectEntries {P : β → Prop} {entries : List (α × β)} (h : ∀ entry ∈ entries, P entry.2) :
    ∀ entry ∈ collectEntries entries, P entry.2 := by
  induction entries using List.reverseRec with
  | nil => simp [collectEntries]
  | append_singleton entries last ih =>
    obtain ⟨key, value⟩ := last
    rw [collectEntries_concat]
    intro entry hentry
    rcases mem_of_mem_setEntry hentry with hvalue | hmem
    · rw [hvalue]
      exact h (key, value) (by simp)
    · exact ih (fun e he => h e (List.mem_append_left _ he)) entry hmem

end Relational
