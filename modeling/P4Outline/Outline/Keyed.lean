/-!
# Records under distinct names

A `Keyed` collection holds records under pairwise distinct names, in the order in which the names
first came. Storing under a name that is there already replaces the record and leaves the name where
it stands.
-/

namespace P4Outline

/-- The names of a list of named records. -/
abbrev keysOf (es : List (String × α)) : List String := es.map Prod.fst

/-- Stores a record under a name: in place of the record it had, else at the end. -/
def insertEntry (name : String) (a : α) : List (String × α) → List (String × α)
  | [] => [(name, a)]
  | (n, b) :: rest => if n = name then (name, a) :: rest else (n, b) :: insertEntry name a rest

/-- Changes the record of a name, if it has one. -/
def modifyEntry (name : String) (f : α → α) : List (String × α) → List (String × α)
  | [] => []
  | (n, b) :: rest => if n = name then (n, f b) :: rest else (n, b) :: modifyEntry name f rest

theorem keysOf_insertEntry (name : String) (a : α) (es : List (String × α)) :
    keysOf (insertEntry name a es) = if name ∈ keysOf es then keysOf es
      else keysOf es ++ [name] := by
  induction es with
  | nil => simp [insertEntry]
  | cons e es ih =>
    obtain ⟨n, b⟩ := e
    by_cases h : n = name
    · subst h; simp [insertEntry]
    · have h' : ¬ name = n := fun e => h e.symm
      rw [insertEntry, if_neg h]
      simp only [keysOf, List.map_cons, List.mem_cons, h', false_or] at ih ⊢
      rw [ih]
      split <;> simp

theorem keysOf_modifyEntry (name : String) (f : α → α) (es : List (String × α)) :
    keysOf (modifyEntry name f es) = keysOf es := by
  induction es with
  | nil => rfl
  | cons e es ih =>
    obtain ⟨n, b⟩ := e
    rw [modifyEntry]
    split
    · simp
    · simp only [keysOf, List.map_cons] at ih ⊢; rw [ih]

theorem lookup_entry_cons (k : String) (b : α) (es : List (String × α)) (n : String) :
    ((k, b) :: es).lookup n = if n = k then some b else es.lookup n := by
  rw [List.lookup_cons]
  by_cases h : n = k
  · simp [h]
  · rw [if_neg h, beq_eq_false_iff_ne.2 h]

theorem lookup_insertEntry (name : String) (a : α) (es : List (String × α)) (n : String) :
    (insertEntry name a es).lookup n = if n = name then some a else es.lookup n := by
  induction es with
  | nil => exact lookup_entry_cons name a [] n
  | cons e es ih =>
    obtain ⟨k, b⟩ := e
    rw [insertEntry]
    by_cases hk : k = name
    · subst hk
      rw [if_pos rfl, lookup_entry_cons, lookup_entry_cons]
      split <;> rfl
    · rw [if_neg hk, lookup_entry_cons, lookup_entry_cons, ih]
      by_cases h : n = k
      · subst h; rw [if_pos rfl, if_neg hk, if_pos rfl]
      · rw [if_neg h, if_neg h]

theorem lookup_modifyEntry (name : String) (f : α → α) (es : List (String × α)) (n : String) :
    (modifyEntry name f es).lookup n = if n = name then (es.lookup n).map f else es.lookup n := by
  induction es with
  | nil => simp [modifyEntry]
  | cons e es ih =>
    obtain ⟨k, b⟩ := e
    rw [modifyEntry]
    by_cases hk : k = name
    · subst hk
      rw [if_pos rfl, lookup_entry_cons, lookup_entry_cons]
      split <;> rfl
    · rw [if_neg hk, lookup_entry_cons, lookup_entry_cons, ih]
      by_cases h : n = k
      · subst h; rw [if_pos rfl, if_neg hk, if_pos rfl]
      · rw [if_neg h, if_neg h]

theorem isSome_lookup (es : List (String × α)) (n : String) :
    (es.lookup n).isSome ↔ n ∈ keysOf es := by
  induction es with
  | nil => simp
  | cons e es ih =>
    obtain ⟨k, b⟩ := e
    rw [lookup_entry_cons, keysOf, List.map_cons, List.mem_cons, ← ih]
    by_cases h : n = k <;> simp [h]

/-- Changing the record that was just stored is storing the changed one. -/
theorem modifyEntry_insertEntry (name : String) (a : α) (f : α → α) (es : List (String × α)) :
    modifyEntry name f (insertEntry name a es) = insertEntry name (f a) es := by
  induction es with
  | nil => simp [insertEntry, modifyEntry]
  | cons e es ih =>
    obtain ⟨k, b⟩ := e
    rw [insertEntry, insertEntry]
    by_cases h : k = name
    · simp [h, modifyEntry]
    · rw [if_neg h, if_neg h, modifyEntry, if_neg h, ih]

theorem insertEntry_of_lookup {name : String} {a : α} {es : List (String × α)}
    (h : es.lookup name = some a) :
    insertEntry name a es = es := by
  induction es with
  | nil => simp at h
  | cons e es ih =>
    obtain ⟨k, b⟩ := e
    rw [insertEntry]
    by_cases hk : k = name
    · subst hk
      rw [lookup_entry_cons, if_pos rfl] at h
      rw [if_pos rfl, Option.some.inj h]
    · rw [lookup_entry_cons, if_neg (Ne.symm hk)] at h
      rw [if_neg hk, ih h]

theorem insertEntry_of_notMem {name : String} {a : α} {es : List (String × α)}
    (h : name ∉ keysOf es) :
    insertEntry name a es = es ++ [(name, a)] := by
  induction es with
  | nil => rfl
  | cons e es ih =>
    obtain ⟨k, b⟩ := e
    simp only [keysOf, List.map_cons, List.mem_cons, not_or] at h ih
    rw [insertEntry, if_neg (Ne.symm h.1), ih h.2, List.cons_append]

/-- Records under pairwise distinct names, in the order of their names' first coming. -/
structure Keyed (α : Type u) where
  entries : List (String × α)
  nodup : (keysOf entries).Nodup
  deriving DecidableEq, Repr

namespace Keyed

variable {α : Type u}

/-- The collection without records. -/
def empty : Keyed α := ⟨[], List.nodup_nil⟩

instance : Inhabited (Keyed α) := ⟨empty⟩

/-- The names, in order. -/
def keys (m : Keyed α) : List String := keysOf m.entries

/-- The records, in order. -/
def values (m : Keyed α) : List α := m.entries.map Prod.snd

/-- How many records there are. -/
def size (m : Keyed α) : Nat := m.entries.length

/-- Whether there are no records. -/
def isEmpty (m : Keyed α) : Bool := m.entries.isEmpty

/-- Whether a name has a record. -/
def contains (m : Keyed α) (name : String) : Bool := m.keys.contains name

/-- The record of a name. -/
def get? (m : Keyed α) (name : String) : Option α := m.entries.lookup name

/-- Stores a record under a name. -/
def insert (m : Keyed α) (name : String) (a : α) : Keyed α where
  entries := insertEntry name a m.entries
  nodup := by
    rw [keysOf_insertEntry]
    split
    · exact m.nodup
    · next h =>
      refine List.nodup_append.2 ⟨m.nodup, by simp, fun n hn k hk e => h ?_⟩
      rw [List.mem_singleton.1 hk] at e
      exact e ▸ hn

/-- Changes the record of a name, if it has one. -/
def modify (m : Keyed α) (name : String) (f : α → α) : Keyed α where
  entries := modifyEntry name f m.entries
  nodup := by rw [keysOf_modifyEntry]; exact m.nodup

/-- The collection that a list of named records builds up, one after the other. -/
def ofList (es : List (String × α)) : Keyed α := es.foldl (fun m e => m.insert e.1 e.2) empty

@[simp] theorem keys_insert (m : Keyed α) (name : String) (a : α) :
    (m.insert name a).keys = if name ∈ m.keys then m.keys else m.keys ++ [name] :=
  keysOf_insertEntry name a m.entries

@[simp] theorem keys_modify (m : Keyed α) (name : String) (f : α → α) :
    (m.modify name f).keys = m.keys :=
  keysOf_modifyEntry name f m.entries

@[ext] theorem ext {m n : Keyed α} (h : m.entries = n.entries) : m = n := by
  cases m; cases n; cases h; rfl

@[simp] theorem get?_empty (name : String) : (empty : Keyed α).get? name = none := rfl

@[simp] theorem get?_insert (m : Keyed α) (name : String) (a : α) (n : String) :
    (m.insert name a).get? n = if n = name then some a else m.get? n :=
  lookup_insertEntry name a m.entries n

@[simp] theorem get?_modify (m : Keyed α) (name : String) (f : α → α) (n : String) :
    (m.modify name f).get? n = if n = name then (m.get? n).map f else m.get? n :=
  lookup_modifyEntry name f m.entries n

theorem contains_iff {m : Keyed α} {name : String} : m.contains name = true ↔ name ∈ m.keys :=
  List.contains_iff_mem

theorem mem_keys_iff {m : Keyed α} {name : String} : name ∈ m.keys ↔ (m.get? name).isSome :=
  (isSome_lookup m.entries name).symm

theorem contains_of_get? {m : Keyed α} {name : String} {a : α} (h : m.get? name = some a) :
    m.contains name = true :=
  contains_iff.2 (mem_keys_iff.2 (by rw [h]; rfl))

@[simp] theorem modify_insert (m : Keyed α) (name : String) (a : α) (f : α → α) :
    (m.insert name a).modify name f = m.insert name (f a) :=
  ext (modifyEntry_insertEntry name a f m.entries)

theorem insert_of_get? {m : Keyed α} {name : String} {a : α} (h : m.get? name = some a) :
    m.insert name a = m :=
  ext (insertEntry_of_lookup h)

theorem entries_insert_of_notMem {m : Keyed α} {name : String} {a : α} (h : name ∉ m.keys) :
    (m.insert name a).entries = m.entries ++ [(name, a)] :=
  insertEntry_of_notMem h

end Keyed

end P4Outline
