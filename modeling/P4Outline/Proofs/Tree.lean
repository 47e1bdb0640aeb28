import P4Outline.Config.Reference
import P4Outline.Config.Tree

/-!
# Addresses in trees

What keys lead to in a tree that others were made into: by laying it over another one, by reading
its references, and by putting a value somewhere else in it.

* `Value.find?_store`: an entry that is stored is found, and the others are as they were.
* `Value.Distinct`: in no mapping on the way a text is a key twice.
* `Entries.find?_overlay`, `Value.at?_overlay`: of two trees the upper one settles what it has, and
  what it blocks.
* `Value.at?_expand`: keys lead to what references are read in.
* `Entries.at?_put`, `Entries.at?_put_of_apart`: a value is where it was put, and nothing else has
  changed.
-/

namespace P4Outline

/-! ### Entries -/

namespace Value

/-- Only the same text is the same key as a text. -/
theorem sameKey_text_iff {k : Value} {key : String} :
    k.sameKey (.text key) = true ↔ k = .text key := by
  constructor
  · intro h
    cases k with
    | text s => rw [eq_of_beq (show (s == key) = true from h)]
    | _ => cases h
  · rintro rfl
    exact beq_self_eq_true key

theorem eq_text_of_sameKey {key : String} {k : Value} (h : (Value.text key).sameKey k = true) :
    k = .text key := by
  cases k with
  | text s => rw [eq_of_beq (show (key == s) = true from h)]
  | _ => cases h

/-- Keys that are the same are the same texts, if they are texts. -/
theorem sameKey_text_congr {k k' : Value} (h : k'.sameKey k = true) (key : String) :
    k'.sameKey (.text key) = k.sameKey (.text key) := by
  rw [Bool.eq_iff_iff, sameKey_text_iff, sameKey_text_iff]
  constructor
  · rintro rfl
    exact eq_text_of_sameKey h
  · rintro rfl
    exact sameKey_text_iff.1 h

theorem find?_cons (key : Value) (k v : Value) (entries : Entries) :
    find? key ((k, v) :: entries) = if k.sameKey key = true then some v else find? key entries := by
  rfl

/-- An entry that is stored is found under its key, and what other keys have is left alone. -/
theorem find?_store (k v : Value) (entries : Entries) (key : String) :
    find? (.text key) (store k v entries) = if k.sameKey (.text key) = true then some v
      else find? (.text key) entries := by
  induction entries with
  | nil => exact find?_cons (.text key) k v []
  | cons e entries ih =>
    obtain ⟨k', v'⟩ := e
    unfold store
    split
    · next hsame =>
      rw [find?_cons, find?_cons, sameKey_text_congr hsame]
      split <;> rfl
    · next hother =>
      rw [find?_cons, find?_cons, ih]
      split
      · next hkey' =>
        have hkey : ¬ k.sameKey (.text key) = true := by
          intro hkey
          rw [sameKey_text_iff.1 hkey] at hother
          exact hother hkey'
        rw [if_neg hkey]
      · rfl

theorem find?_store_text (key : String) (v : Value) (entries : Entries) (other : String) :
    find? (.text other) (store (.text key) v entries) = if key = other then some v
      else find? (.text other) entries := by
  rw [find?_store]
  by_cases h : key = other
  · rw [if_pos h, if_pos (sameKey_text_iff.2 (by rw [h]))]
  · have hother : ¬ (Value.text key).sameKey (.text other) = true := by
      intro hsame
      cases sameKey_text_iff.1 hsame
      exact h rfl
    rw [if_neg h, if_neg hother]

end Value

/-! ### Distinct keys -/

mutual

/-- Whether no mapping within mappings has a text as a key twice. -/
def Value.Distinct : Value → Prop
  | .map entries => Entries.Distinct entries
  | _ => True

/-- Whether no text is a key twice among entries and in the mappings that they hold. -/
def Entries.Distinct : Entries → Prop
  | [] => True
  | (k, v) :: rest =>
    (∀ key, k = .text key → Value.find? (.text key) rest = none) ∧ v.Distinct ∧
    Entries.Distinct rest

end

theorem Entries.distinct_nil : Entries.Distinct [] := by
  unfold Entries.Distinct
  trivial

theorem Entries.distinct_of_find? {entries : Entries} (h : Entries.Distinct entries) {key v : Value}
    (hv : Value.find? key entries = some v) : v.Distinct := by
  induction entries with
  | nil => cases hv
  | cons e entries ih =>
    obtain ⟨k, w⟩ := e
    unfold Entries.Distinct at h
    rw [Value.find?_cons] at hv
    split at hv
    · cases hv
      exact h.2.1
    · exact ih h.2.2 hv

theorem Entries.distinct_store {entries : Entries} (h : Entries.Distinct entries)
    (k : Value) {v : Value} (hv : v.Distinct) : Entries.Distinct (Value.store k v entries) := by
  induction entries with
  | nil =>
    unfold Value.store Entries.Distinct
    exact ⟨fun _ _ => rfl, hv, h⟩
  | cons e entries ih =>
    obtain ⟨k', v'⟩ := e
    unfold Entries.Distinct at h
    obtain ⟨hkey, hv', hrest⟩ := h
    unfold Value.store
    split
    · unfold Entries.Distinct
      exact ⟨hkey, hv, hrest⟩
    · next hother =>
      unfold Entries.Distinct
      -- a key that is stored further behind is not this one, else it would have been found here
      refine ⟨?_, hv', ih hrest⟩
      rintro key rfl
      have hk : ¬ k.sameKey (.text key) = true := by
        intro hsame
        apply hother
        rw [Value.sameKey_text_iff.1 hsame]
        exact Value.sameKey_text_iff.2 rfl
      rw [Value.find?_store, if_neg hk]
      exact hkey key rfl

/-! ### Addresses -/

namespace Value

@[simp] theorem at?_nil (v : Value) : at? [] v = some v := by
  unfold at?
  rfl

@[simp] theorem at?_cons_map (key : String) (keys : List String) (entries : Entries) :
    at? (key :: keys) (.map entries) = (find? (.text key) entries).bind (at? keys) := by
  conv => lhs; unfold at?

/-- Whether a value is a mapping. -/
def isMap : Value → Bool
  | .map _ => true
  | _ => false

theorem at?_cons_of_not_isMap {v : Value} (h : v.isMap = false) (key : String)
    (keys : List String) :
    at? (key :: keys) v = none := by
  cases v with
  | map entries => cases h
  | _ => unfold at?; rfl

/-- Whether something that is no mapping is in the way of keys: some of them lead to it, and others
are left. -/
def Blocks (keys : List String) (v : Value) : Prop :=
  ∃ front rest w, keys = front ++ rest ∧ rest ≠ [] ∧ at? front v = some w ∧ w.isMap = false

theorem blocks_of_not_isMap {v : Value} (h : v.isMap = false) (key : String) (keys : List String) :
    Blocks (key :: keys) v :=
  ⟨[], key :: keys, v, rfl, by simp, at?_nil v, h⟩

theorem blocks_cons_map_iff {key : String} {keys : List String} {entries : Entries} :
    Blocks (key :: keys) (.map entries) ↔
      ∃ v, find? (.text key) entries = some v ∧ Blocks keys v := by
  constructor
  · rintro ⟨front, rest, w, he, hrest, hw, hmap⟩
    cases front with
    | nil =>
      rw [at?_nil] at hw
      cases hw
      cases hmap
    | cons key' front =>
      obtain ⟨rfl, rfl⟩ := List.cons.inj he
      rw [at?_cons_map] at hw
      obtain ⟨v, hv, hw⟩ := Option.bind_eq_some_iff.1 hw
      exact ⟨v, hv, front, rest, w, rfl, hrest, hw, hmap⟩
  · rintro ⟨v, hv, front, rest, w, rfl, hrest, hw, hmap⟩
    refine ⟨key :: front, rest, w, rfl, hrest, ?_, hmap⟩
    rw [at?_cons_map, hv]
    exact hw

theorem not_blocks_nil (v : Value) : ¬ Blocks [] v := by
  rintro ⟨front, rest, w, he, hrest, -, -⟩
  exact hrest (List.append_eq_nil_iff.1 he.symm).2

/-- What is in the way of keys is found along them. -/
def blocks : List String → Value → Bool
  | [], _ => false
  | key :: keys, .map entries => (find? (.text key) entries).any (blocks keys)
  | _ :: _, _ => true

theorem blocks_iff {keys : List String} {v : Value} : blocks keys v = true ↔ Blocks keys v := by
  induction keys generalizing v with
  | nil =>
    unfold blocks
    exact ⟨by simp, fun h => absurd h (not_blocks_nil v)⟩
  | cons key keys ih =>
    cases v with
    | map entries =>
      conv => lhs; unfold blocks
      rw [blocks_cons_map_iff, Option.any_eq_true]
      simp only [ih]
    | _ =>
      unfold blocks
      exact ⟨fun _ => blocks_of_not_isMap rfl key keys, fun _ => rfl⟩

instance (keys : List String) (v : Value) : Decidable (Blocks keys v) :=
  decidable_of_iff _ blocks_iff

end Value

/-! ### Trees over trees -/

theorem Value.overlay_of_not_isMap {v : Value} (h : v.isMap = false) (lower : Option Value) :
    v.overlay lower = v := by
  cases v with
  | map entries => cases h
  | _ => unfold Value.overlay; rfl

theorem Value.overlay_map_map (lower upper : Entries) :
    (Value.map upper).overlay (some (.map lower)) = .map (Entries.overlay lower upper) := by
  conv => lhs; unfold Value.overlay

theorem Value.overlay_of_lower {lower : Option Value} (h : ∀ w ∈ lower, w.isMap = false)
    (v : Value) :
    v.overlay lower = v := by
  cases v with
  | map upper =>
    unfold Value.overlay
    split
    · exact absurd (h _ rfl) (by simp [isMap])
    · rfl
  | _ => exact Value.overlay_of_not_isMap rfl lower

/-- Of two trees the upper one settles what it has under a key, with what the lower one has there
below it. -/
theorem Entries.find?_overlay {upper : Entries} (h : Entries.Distinct upper) (lower : Entries)
    (key : String) :
    Value.find? (.text key) (Entries.overlay lower upper) =
      match Value.find? (.text key) upper with
      | some v => some (v.overlay (Value.find? (.text key) lower))
      | none => Value.find? (.text key) lower := by
  induction upper generalizing lower with
  | nil => unfold Entries.overlay; rfl
  | cons e upper ih =>
    obtain ⟨k, v⟩ := e
    unfold Entries.Distinct at h
    obtain ⟨hkey, -, hrest⟩ := h
    unfold Entries.overlay
    rw [ih hrest, Value.find?_cons, Value.find?_store]
    by_cases hk : k.sameKey (.text key) = true
    · -- the entry is the only one of its key, so nothing is laid over it in turn
      cases Value.sameKey_text_iff.1 hk
      rw [if_pos hk, if_pos hk, hkey key rfl]
    · rw [if_neg hk, if_neg hk]

/-- What keys lead to in a tree that is laid over another one. -/
theorem Value.at?_overlay {v : Value} (h : v.Distinct) (lower : Option Value) (keys : List String) :
    (∀ w, Value.at? keys v = some w →
      Value.at? keys (v.overlay lower) = some (w.overlay (lower.bind (Value.at? keys)))) ∧
    (Value.at? keys v = none → Value.Blocks keys v → Value.at? keys (v.overlay lower) = none) ∧
    (Value.at? keys v = none → ¬ Value.Blocks keys v →
      Value.at? keys (v.overlay lower) = lower.bind (Value.at? keys)) := by
  induction keys generalizing v lower with
  | nil =>
    refine ⟨?_, by simp, by simp⟩
    intro w hw
    rw [at?_nil] at hw
    cases hw
    have hlower : lower.bind (Value.at? []) = lower := by cases lower <;> simp
    rw [hlower, at?_nil]
  | cons key keys ih =>
    cases v with
    | map upper =>
      cases hlower : lower with
      | none =>
        rw [Value.overlay_of_lower (by simp)]
        exact ⟨fun w hw => by rw [hw, Value.overlay_of_lower (by simp)],
          fun hn _ => hn, fun hn _ => hn⟩
      | some l =>
        cases hmap : l.isMap with
        | false =>
          have hl : ∀ w ∈ some l, w.isMap = false := by simpa using hmap
          have hnone : (some l).bind (Value.at? (key :: keys)) = none :=
            Value.at?_cons_of_not_isMap hmap key keys
          rw [Value.overlay_of_lower hl, hnone]
          exact ⟨fun w hw => by rw [hw, Value.overlay_of_lower (by simp)],
            fun hn _ => hn, fun hn _ => hn⟩
        | true =>
          obtain ⟨entries, rfl⟩ : ∃ entries, l = .map entries := by
            cases l with
            | map entries => exact ⟨entries, rfl⟩
            | _ => cases hmap
          unfold Value.Distinct at h
          have hbind : (some (Value.map entries)).bind (Value.at? (key :: keys)) =
              (Value.find? (.text key) entries).bind (Value.at? keys) :=
            Value.at?_cons_map key keys entries
          rw [Value.overlay_map_map, at?_cons_map, at?_cons_map, Entries.find?_overlay h, hbind,
            Value.blocks_cons_map_iff]
          cases hfind : Value.find? (.text key) upper with
          | none => simp
          | some w =>
            -- both trees go on below the key
            simpa using ih (Entries.distinct_of_find? h hfind) (Value.find? (.text key) entries)
    | _ =>
      rw [Value.overlay_of_not_isMap rfl, at?_cons_of_not_isMap rfl]
      exact ⟨by simp, by simp, fun _ hb => absurd (Value.blocks_of_not_isMap rfl key keys) hb⟩

/-! ### References -/

theorem Value.find?_expandEntries (valueOf? : String → Option String)
    (entries : Entries) (key : Value) :
    Value.find? key (Value.expandEntries valueOf? entries) =
      (Value.find? key entries).map (Value.expand valueOf?) := by
  induction entries with
  | nil => unfold Value.expandEntries; rfl
  | cons e entries ih =>
    obtain ⟨k, v⟩ := e
    unfold Value.expandEntries
    rw [Value.find?_cons, Value.find?_cons, ih]
    split <;> rfl

theorem Value.isMap_expand (valueOf? : String → Option String) (v : Value) :
    (v.expand valueOf?).isMap = v.isMap := by
  cases v <;> unfold Value.expand <;> rfl

/-- Keys lead to the same value with its references read. -/
theorem Value.at?_expand (valueOf? : String → Option String) (keys : List String) (v : Value) :
    Value.at? keys (v.expand valueOf?) = (Value.at? keys v).map (Value.expand valueOf?) := by
  induction keys generalizing v with
  | nil => rw [at?_nil, at?_nil]; rfl
  | cons key keys ih =>
    cases hmap : v.isMap with
    | true =>
      cases v with
      | map entries =>
        conv => lhs; unfold Value.expand
        rw [at?_cons_map, at?_cons_map, Value.find?_expandEntries, Option.bind_map, Option.map_bind]
        congr 1
        funext w
        exact ih w
      | _ => cases hmap
    | false =>
      rw [at?_cons_of_not_isMap hmap, at?_cons_of_not_isMap (by rw [Value.isMap_expand, hmap])]
      rfl

/-! ### Values put in -/

/-- The entries of the mapping that a key has; none if it has something else or nothing. -/
def Entries.inner (key : String) (entries : Entries) : Entries :=
  match Value.find? (.text key) entries with
  | some (.map inner) => inner
  | _ => []

theorem Entries.put_cons (value : Value) (key : String) {keys : List String} (h : keys ≠ [])
    (entries : Entries) :
    Entries.put value (key :: keys) entries =
      Value.store (.text key)
        (.map (Entries.put value keys (Entries.inner key entries))) entries := by
  cases keys with
  | nil => exact absurd rfl h
  | cons next keys => rfl

/-- Below a key there is what is in its mapping. -/
theorem Entries.at?_inner (key : String) {keys : List String} (h : keys ≠ []) (entries : Entries) :
    Value.at? keys (.map (Entries.inner key entries)) = Value.at? (key :: keys) (.map entries) := by
  obtain ⟨next, keys, rfl⟩ := List.exists_cons_of_ne_nil h
  rw [Value.at?_cons_map key, Entries.inner]
  -- what is no mapping makes room for an empty one
  cases hfind : Value.find? (.text key) entries with
  | none => exact Value.at?_cons_map next keys []
  | some w =>
    cases hmap : w.isMap with
    | true =>
      cases w with
      | map inner => rfl
      | _ => cases hmap
    | false =>
      rw [Option.bind_some, Value.at?_cons_of_not_isMap hmap]
      cases w with
      | map inner => cases hmap
      | _ => exact Value.at?_cons_map next keys []

/-- Keys lead to a value that was put there, whatever was there and on the way before. -/
theorem Entries.at?_put {keys : List String} (h : keys ≠ []) (value : Value) (entries : Entries) :
    Value.at? keys (.map (Entries.put value keys entries)) = some value := by
  induction keys generalizing entries with
  | nil => exact absurd rfl h
  | cons key keys ih =>
    cases keys with
    | nil =>
      show Value.at? [key] (.map (Value.store (.text key) value entries)) = some value
      rw [Value.at?_cons_map, Value.find?_store_text, if_pos rfl]
      exact Value.at?_nil value
    | cons next keys =>
      rw [Entries.put_cons value key (by simp), Value.at?_cons_map, Value.find?_store_text,
        if_pos rfl]
      exact ih (by simp) _

/-- Whether neither of two addresses leads on to the other. -/
def Apart (keys target : List String) : Prop := ¬ keys <+: target ∧ ¬ target <+: keys

instance (keys target : List String) : Decidable (Apart keys target) :=
  inferInstanceAs (Decidable (¬ keys <+: target ∧ ¬ target <+: keys))

/-- Keys that lead neither to nor past the place where a value is put lead to what they led to
before. -/
theorem Entries.at?_put_of_apart {keys target : List String} (h : Apart keys target) (value : Value)
    (entries : Entries) :
    Value.at? keys (.map (Entries.put value target entries)) = Value.at? keys (.map entries) := by
  induction target generalizing keys entries with
  | nil => exact absurd List.nil_prefix h.2
  | cons key target ih =>
    cases keys with
    | nil => exact absurd List.nil_prefix h.1
    | cons key' keys =>
      by_cases hkey : key = key'
      · subst hkey
        -- the two addresses part further down, so each of them goes on
        have hrest : Apart keys target := by
          refine ⟨fun hp => h.1 ?_, fun hp => h.2 ?_⟩
          · exact List.cons_prefix_cons.2 ⟨rfl, hp⟩
          · exact List.cons_prefix_cons.2 ⟨rfl, hp⟩
        have hkeys : keys ≠ [] := by
          rintro rfl
          exact hrest.1 List.nil_prefix
        have htarget : target ≠ [] := by
          rintro rfl
          exact hrest.2 List.nil_prefix
        rw [Entries.put_cons value key htarget, Value.at?_cons_map, Value.find?_store_text,
          if_pos rfl, Option.bind_some, ih hrest, Entries.at?_inner key hkeys]
      · have hput : ∃ w, Entries.put value (key :: target) entries =
            Value.store (.text key) w entries := by
          cases target with
          | nil => exact ⟨value, rfl⟩
          | cons next target => exact ⟨_, Entries.put_cons value key (by simp) entries⟩
        obtain ⟨w, hw⟩ := hput
        rw [hw, Value.at?_cons_map, Value.find?_store_text, if_neg hkey, Value.at?_cons_map]

end P4Outline
