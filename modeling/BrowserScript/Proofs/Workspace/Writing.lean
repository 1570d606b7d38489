/-
# BrowserScript.Proofs.Workspace.Writing -- what is read after a text was written

Reading a file gives a text exactly when the bytes of the file are the bytes of this text,
so that a file holds one text at most. Putting bytes into a file that can be read changes
this file and **leaves everything at other names as it was**, directories included: a file
stood there before, and one stands there afterwards, so that no path is opened or closed.
A writing puts the text there, or it fails and leaves what its error says.
-/
import BrowserScript.Workspace

namespace BrowserScript.Workspace

/-! ## Reading -/

theorem fromUTF8?_eq_some_iff {content : ByteArray} {text : String} :
    String.fromUTF8? content = some text ↔ content = text.toUTF8 := by
  unfold String.fromUTF8?
  constructor
  · intro h
    split at h
    · obtain rfl := Option.some.inj h
      rfl
    · exact absurd h (Option.some_ne_none text).symm
  · rintro rfl
    rw [String.toUTF8_eq_toByteArray, dif_pos text.isValidUTF8]
    rfl

/-- A path that can be followed: it says something, and every directory that it goes back up
from is there. -/
def CanFollow (ws : Workspace) (path : String) : Prop :=
  path.isEmpty = false ∧ ws.climb (climbed path) = .ok ()

theorem entry_eq_file_iff {ws : Workspace} {ns : List String} {content : ByteArray} :
    ws.entry ns = .ok (.file content) ↔ ws.entries.lookup ns = some (.file content) := by
  unfold entry
  cases hentry : ws.entries.lookup ns with
  | none =>
      -- nothing stands there, or a directory that other entries are in
      simp only [reduceCtorEq, iff_false]
      repeat' split
      all_goals exact nofun
  | some entry => cases entry <;> simp

/-- **A file is found by its name**, unless the path cannot be followed or takes the file for a
directory. -/
theorem find_eq_file_iff {ws : Workspace} {path : String} {content : ByteArray} :
    ws.find path = .ok (.file content) ↔
      CanFollow ws path ∧ ws.entries.lookup (names path) = some (.file content) ∧
        namesDirectory path = false := by
  rw [← entry_eq_file_iff, CanFollow, find]
  cases path.isEmpty with
  | true => simp
  | false =>
      cases ws.climb (climbed path) with
      | error e => simp
      | ok _ =>
          cases ws.entry (names path) with
          | error e => simp
          | ok entry =>
              cases entry with
              | unreadable e => simp [Entry.isFile]
              | directory => simp [Entry.isFile]
              | file bytes => cases namesDirectory path <;> simp [Entry.isFile]

/-- **A path is read as a text** when a file with the bytes of this text is found there. -/
theorem read_eq_ok_iff {ws : Workspace} {path text : String} :
    ws.read path = .ok text ↔ ws.find path = .ok (.file text.toUTF8) := by
  unfold read
  cases ws.find path with
  | error e => simp
  | ok entry =>
      cases entry with
      | unreadable e => simp
      | directory => simp
      | file content =>
          simp only [Except.ok.injEq, Entry.file.injEq, ← fromUTF8?_eq_some_iff]
          cases String.fromUTF8? content <;> simp

/-- The bytes of a file that was read. -/
theorem lookup_of_read {ws : Workspace} {path text : String} (h : ws.read path = .ok text) :
    ws.entries.lookup (names path) = some (.file text.toUTF8) :=
  (find_eq_file_iff.1 (read_eq_ok_iff.1 h)).2.1

/-- A file is found under its name by a path that does not go back up. -/
theorem find_of_lookup {ws : Workspace} {path : String} {content : ByteArray}
    (hsaid : path.isEmpty = false) (hclimbed : climbed path = [])
    (hfile : namesDirectory path = false)
    (h : ws.entries.lookup (names path) = some (.file content)) :
    ws.find path = .ok (.file content) := by
  refine find_eq_file_iff.2 ⟨⟨hsaid, ?_⟩, h, hfile⟩
  rw [hclimbed, climb]

theorem content?_of_read {ws : Workspace} {path text : String} (h : ws.read path = .ok text) :
    ws.content? path = some text.toUTF8 := by
  rw [content?, lookup_of_read h]

/-! ## Putting bytes into a file -/

/-- Putting changes the entries at one name, and makes none. -/
theorem lookup_put (ws : Workspace) (path : String) (new : ByteArray) (ns : List String) :
    (ws.put path new).entries.lookup ns =
      if ns = names path then (ws.entries.lookup ns).map fun _ => .file new
      else ws.entries.lookup ns := by
  obtain ⟨entries, _⟩ := ws
  simp only [put]
  induction entries with
  | nil => simp
  | cons e es ih =>
      obtain ⟨ms, entry⟩ := e
      rw [List.map_cons]
      by_cases hns : ns = ms
      · by_cases hms : ms = names path <;> simp [hns, hms]
      · -- the entry has another name, before and after
        have hne : (ns == ms) = false := beq_false_of_ne hns
        have hlater : ∀ later : Entry, ∀ rest : List (List String × Entry),
            ((ms, later) :: rest).lookup ns = rest.lookup ns := by
          intro later rest
          rw [List.lookup_cons, hne]
        rw [hlater, ← ih]
        split <;> exact hlater _ _

/-- Putting keeps all names. -/
theorem any_put_name (ws : Workspace) (path : String) (new : ByteArray)
    (p : List String → Bool) :
    (ws.put path new).entries.any (fun e => p e.1) = ws.entries.any fun e => p e.1 := by
  rw [put, List.any_map]
  congr 1
  funext e
  rw [Function.comp_apply]
  split <;> rfl

section

variable {ws : Workspace} {path : String} {content : ByteArray}
  (h : ws.entries.lookup (names path) = some (.file content)) (new : ByteArray)

include h

/-- Putting bytes into a file makes a file of nothing else. -/
theorem any_put_file (p : List String → Bool) :
    (ws.put path new).entries.any (fun e => p e.1 && e.2.isFile) =
      ws.entries.any fun e => p e.1 && e.2.isFile := by
  have hmem : (names path, Entry.file content) ∈ ws.entries := by
    obtain ⟨before, after, heq, _⟩ := List.lookup_eq_some_iff.1 h
    rw [heq]
    exact List.mem_append_right before List.mem_cons_self
  rw [Bool.eq_iff_iff, List.any_eq_true, List.any_eq_true]
  constructor
  · rintro ⟨_, hwritten, hp⟩
    obtain ⟨e, he, rfl⟩ := List.mem_map.1 hwritten
    by_cases hname : e.1 = names path
    · -- the first entry of this name was a file before
      refine ⟨_, hmem, ?_⟩
      simpa [hname, Entry.isFile] using hp
    · rw [if_neg hname] at hp
      exact ⟨e, he, hp⟩
  · rintro ⟨e, he, hp⟩
    refine ⟨_, List.mem_map.2 ⟨e, he, rfl⟩, ?_⟩
    split
    · rw [Bool.and_eq_true] at hp ⊢
      exact ⟨hp.1, rfl⟩
    · exact hp

theorem lookup_put_self : (ws.put path new).entries.lookup (names path) = some (.file new) := by
  rw [lookup_put, if_pos rfl, h]
  rfl

theorem entry_put_of_ne {ns : List String} (hne : ns ≠ names path) :
    (ws.put path new).entry ns = ws.entry ns := by
  unfold entry
  simp only [lookup_put, if_neg hne, any_put_name ws path new ns.isPrefixOf,
    any_put_file h new fun ms => ms.isPrefixOf ns]

/-- A file is no directory to go back up from, whatever is in it. -/
theorem climb_put (directories : List (List String)) :
    (ws.put path new).climb directories = ws.climb directories := by
  induction directories with
  | nil => rfl
  | cons ns rest ih =>
      rw [climb, climb, ih]
      by_cases hname : ns = names path
      · rw [hname, entry_eq_file_iff.2 h, entry_eq_file_iff.2 (lookup_put_self h new)]
      · rw [entry_put_of_ne h new hname]

/-- **Putting bytes into a file leaves everything else as it was.** -/
theorem find_put_of_ne {path' : String} (hne : names path' ≠ names path) :
    (ws.put path new).find path' = ws.find path' := by
  rw [find, find, climb_put h, entry_put_of_ne h new hne]

end

theorem find_put {ws : Workspace} {path old : String} (h : ws.read path = .ok old)
    (new : ByteArray) : (ws.put path new).find path = .ok (.file new) := by
  obtain ⟨⟨hsaid, hclimb⟩, hentry, hfile⟩ := find_eq_file_iff.1 (read_eq_ok_iff.1 h)
  refine find_eq_file_iff.2 ⟨⟨hsaid, ?_⟩, lookup_put_self hentry new, hfile⟩
  rw [climb_put hentry, hclimb]

/-- **What was put there is read**, if it is a text. -/
theorem read_put {ws : Workspace} {path old : String} (h : ws.read path = .ok old)
    (text : String) : (ws.put path text.toUTF8).read path = .ok text :=
  read_eq_ok_iff.2 (find_put h text.toUTF8)

/-- What was put there decides what is read. -/
theorem read_put_congr {ws ws' : Workspace} {path old old' : String} (h : ws.read path = .ok old)
    (h' : ws'.read path = .ok old') (new : ByteArray) :
    (ws'.put path new).read path = (ws.put path new).read path := by
  rw [read, read, find_put h, find_put h']

theorem content?_put {ws : Workspace} {path old : String} (h : ws.read path = .ok old)
    (new : ByteArray) : (ws.put path new).content? path = some new := by
  rw [content?, lookup_put_self (lookup_of_read h)]

/-! ## Writing -/

/-- Two workspaces that differ at one path, if at all. -/
def SameElsewhere (path : String) (ws ws' : Workspace) : Prop :=
  ∀ path', names path' ≠ names path → ws'.find path' = ws.find path'

theorem sameElsewhere_refl (path : String) (ws : Workspace) : SameElsewhere path ws ws :=
  fun _ _ => rfl

theorem sameElsewhere_put {ws : Workspace} {path old : String} (h : ws.read path = .ok old)
    (new : ByteArray) : SameElsewhere path ws (ws.put path new) :=
  fun _ hne => find_put_of_ne (lookup_of_read h) new hne

/-- The file at a path can be written: no error is in store for it. -/
def IsWritable (ws : Workspace) (path : String) : Prop :=
  ws.writeError? path = none

instance (ws : Workspace) (path : String) : Decidable (IsWritable ws path) :=
  inferInstanceAs (Decidable (ws.writeError? path = none))

theorem write_of_isWritable {ws : Workspace} {path : String} (h : IsWritable ws path)
    (text : String) : ws.write path text = (ws.put path text.toUTF8, none) := by
  simp only [write, show ws.writeError? path = none from h]

/-- **A writing that fails says why**, leaves everything else as it was and, in the file, what its
error says. -/
theorem write_of_error {ws : Workspace} {path old : String} {e : WriteError}
    (h : ws.read path = .ok old) (he : ws.writeError? path = some e) (text : String) :
    (ws.write path text).2 = some e ∧ SameElsewhere path ws (ws.write path text).1 ∧
      (ws.write path text).1.content? path = some (e.left old.toUTF8 text.toUTF8) := by
  cases e with
  | refused reason =>
      simp only [write, he, true_and]
      exact ⟨sameElsewhere_refl path ws, content?_of_read h⟩
  | cutShort bytes reason =>
      simp only [write, he, true_and]
      exact ⟨sameElsewhere_put h _, content?_put h _⟩

/-- What a writing does to a file depends on this file only. -/
theorem write_congr {ws ws' : Workspace} {path old : String} (h : ws.read path = .ok old)
    (h' : ws'.read path = .ok old) (hw : ws'.writeError? path = ws.writeError? path)
    (text : String) :
    (ws'.write path text).2 = (ws.write path text).2 ∧
      (ws'.write path text).1.read path = (ws.write path text).1.read path := by
  unfold write
  rw [hw]
  cases ws.writeError? path with
  | none => exact ⟨rfl, read_put_congr h h' _⟩
  | some e =>
      cases e with
      | refused reason => exact ⟨rfl, h'.trans h.symm⟩
      | cutShort bytes reason => exact ⟨rfl, read_put_congr h h' _⟩

end BrowserScript.Workspace
