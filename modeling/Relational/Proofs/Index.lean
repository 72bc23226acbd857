import Relational.Cell
import Relational.Index
import Relational.Proofs.Entries
import Relational.Proofs.Failure

/-!
# Searching an index

An index that was filled with the keys of all rows finds for a key without NULL exactly the places at which it
stands. Keys are cut after their first NULL before they are indexed; that does not matter, since a key with a
NULL is not kept.
-/

namespace Relational

namespace Index

/-! ## Keys with a NULL -/

theorem hasNull_cons (text : String) (key : List String) :
    hasNull (text :: key) = (isNullText text || hasNull key) := rfl

/-- A key, cut after its first NULL. -/
def upToNull : List String → List String
  | [] => []
  | text :: key => if isNullText text then [text] else text :: upToNull key

theorem upToNull_of_hasNull_eq_false {key : List String} (h : hasNull key = false) : upToNull key = key := by
  induction key with
  | nil => rfl
  | cons text key ih =>
    rw [hasNull_cons, Bool.or_eq_false_iff] at h
    rw [upToNull, if_neg (by simp [h.1]), ih h.2]

theorem hasNull_upToNull (key : List String) : hasNull (upToNull key) = hasNull key := by
  induction key with
  | nil => rfl
  | cons text key ih =>
    rw [upToNull]
    split
    · rename_i hnull
      simp [hasNull_cons, hnull]
    · rw [hasNull_cons, hasNull_cons, ih]

/-- No cut key is a key without NULL but that key itself. -/
theorem upToNull_eq_iff {key other : List String} (h : hasNull key = false) : upToNull other = key ↔ other = key := by
  constructor
  · intro heq
    have hother : hasNull other = false := by rw [← hasNull_upToNull, heq, h]
    rwa [upToNull_of_hasNull_eq_false hother] at heq
  · rintro rfl
    exact upToNull_of_hasNull_eq_false h

/-! ## Places -/

/-- The places, counted from `start`, at which a key stands. -/
def placesFrom (start : Nat) (key : List String) : List (List String) → List Nat
  | [] => []
  | k :: keys => if k == key then start :: placesFrom (start + 1) key keys else placesFrom (start + 1) key keys

theorem placesFrom_of_ne {k key : List String} (h : k ≠ key) (start : Nat) (keys : List (List String)) :
    placesFrom start key (k :: keys) = placesFrom (start + 1) key keys := by
  rw [placesFrom, if_neg (by simpa using h)]

theorem entries_insert {index : Index} {key : List String} (h : hasNull key = false) (row : Nat) :
    (index.insert key row).entries = setEntry key ((index.entries.lookup key).getD [] ++ [row]) index.entries := by
  rw [insert, if_neg (by simp [h])]

theorem insert_of_hasNull {index : Index} {key : List String} (h : hasNull key = true) (row : Nat) :
    index.insert key row = index := by
  rw [insert, if_pos h]

theorem lookup_insert_of_ne (index : Index) {k key : List String} (h : key ≠ k) (row : Nat) :
    (index.insert k row).entries.lookup key = index.entries.lookup key := by
  cases hk : hasNull k with
  | true => rw [insert_of_hasNull hk]
  | false => rw [entries_insert hk, lookup_setEntry_of_ne h]

/-- Filling an index adds to the rows of a key the places at which it stands. -/
theorem lookup_insertKeys {key : List String} (h : hasNull key = false) (start : Nat) (index : Index)
    (keys : List (List String)) :
    ((insertKeys start index keys).entries.lookup key).getD []
      = (index.entries.lookup key).getD [] ++ placesFrom start key keys := by
  induction keys generalizing start index with
  | nil => simp [insertKeys, placesFrom]
  | cons k keys ih =>
    rw [insertKeys, ih]
    by_cases hk : k = key
    · subst hk
      rw [entries_insert h, lookup_setEntry_self, placesFrom, if_pos (by simp), Option.getD_some,
        List.append_assoc, List.singleton_append]
    · rw [lookup_insert_of_ne index (Ne.symm hk), placesFrom_of_ne hk]

/-- A filled index finds the places of every key without NULL. -/
theorem search_ofKeys {key : List String} (h : hasNull key = false) (index : Index) (keys : List (List String)) :
    (index.ofKeys keys).search key = placesFrom 0 key keys := by
  rw [search, if_neg (by simp [h]), ofKeys, lookup_insertKeys h]
  simp [clear]

/-! ## What filling leaves alone -/

theorem clear_insert (index : Index) (key : List String) (row : Nat) : (index.insert key row).clear = index.clear := by
  unfold insert
  split <;> rfl

theorem clear_insertKeys (start : Nat) (index : Index) (keys : List (List String)) :
    (insertKeys start index keys).clear = index.clear := by
  induction keys generalizing start index with
  | nil => rfl
  | cons key keys ih => rw [insertKeys, ih, clear_insert]

@[simp] theorem clear_ofKeys (index : Index) (keys : List (List String)) : (index.ofKeys keys).clear = index.clear :=
  clear_insertKeys 0 index.clear keys

/-- Nothing but the name, the columns and the kind of an index matters when it is filled again. -/
theorem ofKeys_congr {index index' : Index} (h : index.clear = index'.clear) (keys : List (List String)) :
    index.ofKeys keys = index'.ofKeys keys := by
  rw [ofKeys, ofKeys, h]

@[simp] theorem columns_ofKeys (index : Index) (keys : List (List String)) :
    (index.ofKeys keys).columns = index.columns := by
  show (index.ofKeys keys).clear.columns = index.clear.columns
  rw [clear_ofKeys]

@[simp] theorem name_ofKeys (index : Index) (keys : List (List String)) : (index.ofKeys keys).name = index.name := by
  show (index.ofKeys keys).clear.name = index.clear.name
  rw [clear_ofKeys]

@[simp] theorem unique_ofKeys (index : Index) (keys : List (List String)) :
    (index.ofKeys keys).unique = index.unique := by
  show (index.ofKeys keys).clear.unique = index.clear.unique
  rw [clear_ofKeys]

end Index

/-! ## Keys of rows -/

namespace Cell

theorem keyTexts_ofTexts (texts : List String) : keyTexts (ofTexts texts) = .ok (Index.upToNull texts) := by
  induction texts with
  | nil => rfl
  | cons text texts ih =>
    rw [ofTexts] at ih
    rw [ofTexts, List.map_cons, keyTexts, ih, Index.upToNull, asText, ok_bind]
    split <;> rfl

theorem ofTexts_injective {texts texts' : List String} (h : ofTexts texts = ofTexts texts') : texts = texts' :=
  List.map_injective_iff.2 (fun _ _ h => by injection h) h

end Cell

end Relational
