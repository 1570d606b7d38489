/-
# BrowserScript.Params -- the parameters of a command

A finite map from keys to values. **The keys stand in ascending order of their code
points**, each once, and the type says so: two maps with the same entries are equal,
and every way of writing one out walks it in the same order.
-/

namespace BrowserScript

/-- Whether a key comes before another. -/
def KeyBefore (a b : String × String) : Prop :=
  a.1 < b.1

/-- The entries with a key set to a value, at the key's place. -/
def insertEntry (key value : String) : List (String × String) → List (String × String)
  | [] => [(key, value)]
  | e :: es =>
    if key < e.1 then (key, value) :: e :: es
    else if key = e.1 then (key, value) :: es
    else e :: insertEntry key value es

theorem mem_insertEntry {key value : String} {es : List (String × String)} {x : String × String}
    (h : x ∈ insertEntry key value es) : x = (key, value) ∨ x ∈ es := by
  induction es with
  | nil => exact Or.inl (by simpa [insertEntry] using h)
  | cons e es ih =>
    simp only [insertEntry] at h
    split at h
    · simpa using h
    · split at h
      · rcases List.mem_cons.1 h with h | h
        · exact Or.inl h
        · exact Or.inr (List.mem_cons_of_mem _ h)
      · rcases List.mem_cons.1 h with h | h
        · exact Or.inr (h ▸ List.mem_cons_self)
        · rcases ih h with h | h
          · exact Or.inl h
          · exact Or.inr (List.mem_cons_of_mem _ h)

/-- Setting a key keeps the keys in order. -/
theorem pairwise_insertEntry (key value : String) {es : List (String × String)}
    (h : es.Pairwise KeyBefore) : (insertEntry key value es).Pairwise KeyBefore := by
  induction es with
  | nil => simp [insertEntry]
  | cons e es ih =>
    obtain ⟨he, hes⟩ := List.pairwise_cons.1 h
    simp only [insertEntry]
    split
    · rename_i hlt
      refine List.pairwise_cons.2 ⟨fun x hx => ?_, h⟩
      rcases List.mem_cons.1 hx with rfl | hx
      · exact hlt
      · exact String.lt_trans hlt (he x hx)
    · rename_i hlt
      split
      · rename_i heq
        refine List.pairwise_cons.2 ⟨fun x hx => ?_, hes⟩
        have := he x hx
        simpa [KeyBefore, heq] using this
      · rename_i hne
        have hgt : e.1 < key := by
          rw [← String.not_le]
          exact fun hle => hne (String.le_antisymm hle (String.not_lt.1 hlt))
        refine List.pairwise_cons.2 ⟨fun x hx => ?_, ih hes⟩
        rcases mem_insertEntry hx with rfl | hx
        · exact hgt
        · exact he x hx

/-- The first entry that has a key decides its value. -/
theorem lookup_entry_cons (k : String) (e : String × String) (es : List (String × String)) :
    (e :: es).lookup k = if k = e.1 then some e.2 else es.lookup k := by
  obtain ⟨m, value⟩ := e
  rw [List.lookup_cons]
  by_cases h : k = m
  · simp [h]
  · simp [h, beq_false_of_ne h]

theorem lookup_insertEntry (key value k : String) (es : List (String × String)) :
    (insertEntry key value es).lookup k = if k = key then some value else es.lookup k := by
  induction es with
  | nil => simp [insertEntry]
  | cons e es ih =>
    simp only [insertEntry]
    split
    · rw [lookup_entry_cons]
    · split
      · rename_i he
        simp only [lookup_entry_cons, ← he]
        split <;> rfl
      · rename_i he
        simp only [lookup_entry_cons, ih]
        by_cases h : k = e.1
        · have hk : ¬ k = key := fun hk => he (hk.symm.trans h)
          simp [h, Ne.symm he]
        · simp [h]

/-- Parameters by key. -/
structure Params where
  entries : List (String × String)
  ascending : entries.Pairwise KeyBefore
  deriving DecidableEq

namespace Params

/-- No parameters. -/
def empty : Params :=
  ⟨[], List.Pairwise.nil⟩

/-- Sets a key to a value, in place of the one that it had. -/
def insert (ps : Params) (key value : String) : Params :=
  ⟨insertEntry key value ps.entries, pairwise_insertEntry key value ps.ascending⟩

/-- The value of a key. -/
def get? (ps : Params) (key : String) : Option String :=
  ps.entries.lookup key

@[simp]
theorem get?_empty (k : String) : empty.get? k = none := rfl

/-- A key that is set has its new value, and the other keys have theirs. -/
@[simp]
theorem get?_insert (ps : Params) (key value k : String) :
    (ps.insert key value).get? k = if k = key then some value else ps.get? k :=
  lookup_insertEntry key value k ps.entries

/-- The parameters of a row of keys and values. **Of two values for one key the later
counts.** -/
def ofList (pairs : List (String × String)) : Params :=
  pairs.foldl (fun ps p => ps.insert p.1 p.2) empty

end Params

end BrowserScript
