/-!
# Label maps

Labels and annotations of a node, a pod or a claim: a finite map from keys to values. The entries
are kept in ascending order of their keys, so two maps with the same values are equal.

## Main definitions

* `LabelMap` – entries with strictly ascending keys.
* `LabelMap.get?`, `LabelMap.insert`, `LabelMap.overlay` – looking up, writing one value, writing
  all values of another map.

## Main statements

* `LabelMap.get?_insert` – what a map holds after a write.
* `LabelMap.get?_overlay` – a map that is written over another one wins where it has a value.
-/

namespace DriverHandover

/-- Writes a value under a key of an ascending list, in place of an older value. -/
def insertEntry (key value : String) : List (String × String) → List (String × String)
  | [] => [(key, value)]
  | (k, v) :: rest =>
    if key < k then (key, value) :: (k, v) :: rest
    else if key = k then (key, value) :: rest
    else (k, v) :: insertEntry key value rest

theorem mem_insertEntry {key value : String} {entries : List (String × String)}
    {e : String × String} (h : e ∈ insertEntry key value entries) :
    e = (key, value) ∨ e ∈ entries := by
  induction entries with
  | nil => simpa [insertEntry] using h
  | cons head rest ih =>
    obtain ⟨k, v⟩ := head
    simp only [insertEntry] at h
    split at h
    · simpa using h
    · split at h
      · rcases List.mem_cons.1 h with h | h
        · exact .inl h
        · exact .inr (List.mem_cons_of_mem _ h)
      · rcases List.mem_cons.1 h with h | h
        · exact .inr (h ▸ List.mem_cons_self)
        · exact (ih h).imp_right (List.mem_cons_of_mem _)

/-- The keys of a list of entries ascend strictly. -/
abbrev Ascending (entries : List (String × String)) : Prop :=
  entries.Pairwise fun a b => a.1 < b.1

theorem Ascending.insertEntry {key value : String} {entries : List (String × String)}
    (h : Ascending entries) : Ascending (insertEntry key value entries) := by
  induction entries with
  | nil => simp [DriverHandover.insertEntry]
  | cons head rest ih =>
    obtain ⟨k, v⟩ := head
    have hcons := List.pairwise_cons.1 h
    simp only [DriverHandover.insertEntry]
    split
    · rename_i hlt
      refine List.pairwise_cons.2 ⟨fun e he => ?_, h⟩
      rcases List.mem_cons.1 he with he | he
      · exact he ▸ hlt
      · exact String.lt_trans hlt (hcons.1 e he)
    · rename_i hlt
      split
      · rename_i heq
        exact List.pairwise_cons.2 ⟨fun e he => heq ▸ hcons.1 e he, hcons.2⟩
      · rename_i hne
        refine List.pairwise_cons.2 ⟨fun e he => ?_, ih hcons.2⟩
        rcases mem_insertEntry he with he | he
        · exact he ▸ Std.lt_of_le_of_ne (String.not_lt.1 hlt) (Ne.symm hne)
        · exact hcons.1 e he

/-- A finite map from label keys to label values. -/
structure LabelMap where
  entries : List (String × String)
  ascending : Ascending entries
  deriving DecidableEq, Repr

namespace LabelMap

/-- The map without a value. -/
def empty : LabelMap := ⟨[], List.Pairwise.nil⟩

instance : Inhabited LabelMap := ⟨empty⟩

/-- The value under a key. -/
def get? (m : LabelMap) (key : String) : Option String :=
  m.entries.lookup key

/-- The value under a key, where a missing one counts as the empty value. -/
def getD (m : LabelMap) (key : String) : String :=
  (m.get? key).getD ""

/-- Whether there is a value under a key. -/
def contains (m : LabelMap) (key : String) : Bool :=
  (m.get? key).isSome

/-- Writes a value under a key. -/
def insert (m : LabelMap) (key value : String) : LabelMap :=
  ⟨insertEntry key value m.entries, m.ascending.insertEntry⟩

/-- Writes the values of `upper` over those of `lower`. -/
def overlay (lower upper : LabelMap) : LabelMap :=
  upper.entries.foldl (fun m e => m.insert e.1 e.2) lower

/-- The map of a list of entries; of two values under one key the later one counts. -/
def ofList (entries : List (String × String)) : LabelMap :=
  entries.foldl (fun m e => m.insert e.1 e.2) empty

theorem lookup_insertEntry (key value k : String) (entries : List (String × String)) :
    (insertEntry key value entries).lookup k =
      if k = key then some value else entries.lookup k := by
  induction entries with
  | nil =>
    by_cases h : k = key
    · simp [insertEntry, h]
    · simp [insertEntry, List.lookup_cons, h, beq_false_of_ne h]
  | cons head rest ih =>
    obtain ⟨k', v'⟩ := head
    simp only [insertEntry]
    split
    · by_cases h : k = key
      · simp [h]
      · simp [List.lookup_cons, h, beq_false_of_ne h]
    · split
      · rename_i heq
        subst heq
        by_cases h : k = key
        · simp [h]
        · simp [List.lookup_cons, h, beq_false_of_ne h]
      · rename_i hne
        by_cases h : k = k'
        · subst h
          simp [Ne.symm hne]
        · simp [List.lookup_cons, beq_false_of_ne h, ih]

/-- After a write the key holds the new value and every other key what it held before. -/
@[simp] theorem get?_insert (m : LabelMap) (key value k : String) :
    (m.insert key value).get? k = if k = key then some value else m.get? k :=
  lookup_insertEntry key value k m.entries

@[simp] theorem get?_empty (k : String) : empty.get? k = none := rfl

theorem get?_foldl_insert (entries : List (String × String)) (h : Ascending entries)
    (m : LabelMap) (k : String) :
    (entries.foldl (fun m e => m.insert e.1 e.2) m).get? k =
      (entries.lookup k).or (m.get? k) := by
  induction entries generalizing m with
  | nil => simp
  | cons head rest ih =>
    obtain ⟨k', v'⟩ := head
    have hcons := List.pairwise_cons.1 h
    simp only [List.foldl_cons, ih hcons.2, get?_insert]
    by_cases hk : k = k'
    · subst hk
      have hnone : rest.lookup k = none := by
        rw [List.lookup_eq_none_iff]
        intro e he
        simpa using fun heq => String.lt_irrefl _ (heq ▸ hcons.1 e he)
      simp [hnone]
    · simp [List.lookup_cons, hk, beq_false_of_ne hk]

/-- A map that is written over another one wins where it has a value. -/
theorem get?_overlay (lower upper : LabelMap) (k : String) :
    (lower.overlay upper).get? k = (upper.get? k).or (lower.get? k) :=
  get?_foldl_insert upper.entries upper.ascending lower k

end LabelMap

end DriverHandover
