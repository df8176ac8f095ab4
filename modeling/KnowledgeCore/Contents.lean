import KnowledgeCore.Export

/-!
# What a vault holds

The entries of a vault: objects, documents and lineage overlays, each with a row in the
database, and for an object the file it is kept in. The same is said of the directory of a
snapshot, which has the form of a vault.
-/

namespace KnowledgeCore

/-- An entry of a vault: an object under its hash, a document, or a lineage overlay. -/
inductive Item
  | object (hash : String)
  | document (id : String)
  | overlay (id : String)

/-- Whether a database has the row of an entry. -/
def Db.Lists (db : Db) : Item → Prop
  | .object hash => hash ∈ db.objects
  | .document id => id ∈ db.docs
  | .overlay id => id ∈ db.lineageOverlays

instance (db : Db) : (item : Item) → Decidable (db.Lists item)
  | .object hash => inferInstanceAs (Decidable (hash ∈ db.objects))
  | .document id => inferInstanceAs (Decidable (id ∈ db.docs))
  | .overlay id => inferInstanceAs (Decidable (id ∈ db.lineageOverlays))

/-- Whether the database of a directory has the row of an entry. -/
def Lists (dir : Dir Content) (item : Item) : Prop :=
  ∃ file, Vault.dbFile dir = some file ∧ file.db.Lists item

/-- The path of an object below a vault or a snapshot, if its hash has the form of one. -/
def objectPath (hash : String) : Option RelPath :=
  match Export.objectPrefix hash with
  | .ok dir => some (Export.relPath (Export.objectRel dir hash))
  | .error _ => none

/-- Whether a directory has the file an entry needs. Only objects need one. -/
def HasFile (dir : Dir Content) : Item → Prop
  | .object hash => ∃ path content, objectPath hash = some path ∧ dir.get path = some content
  | _ => True

/-- Whether a vault holds an entry: its database has the row, and an object has its file. -/
def Holds (dir : Dir Content) (item : Item) : Prop :=
  Lists dir item ∧ HasFile dir item

theorem lists_congr {dir dir' : Dir Content} {item : Item}
    (h : dir.get Vault.dbPath = dir'.get Vault.dbPath) :
  Lists dir item ↔ Lists dir' item
  := by
  simp only [Lists, Vault.dbFile, h]

/-- Opening a database file brings in no rows. -/
theorem lists_of_openDbFile {ext : Externals} {key : Option String} {content : Option Content}
    {file : SqliteFile} {item : Item} (h : Vault.openDbFile ext key content = .ok file)
    (hl : file.db.Lists item) :
  ∃ file', content = some (.sqlite file') ∧ file'.db.Lists item
  := by
  match content with
  | none =>
    simp only [Vault.openDbFile, AppResult.bind_eq_ok] at h
    obtain ⟨db, hm, h⟩ := h
    cases h
    rw [Externals.commit_db, Db.applyMigrations_eq_ok hm] at hl
    cases item <;> simp [Db.Lists, Db.empty] at hl
  | some (.sqlite file') =>
    use file', rfl
    rw [(Vault.openDbFile_tables h).1] at hl
    cases item <;> exact hl
  | some (.raw _) | some (.text _) | some (.json _ _) | some (.zip _) =>
    cases h

/-- Opening a database file drops no rows. -/
theorem lists_openDbFile {ext : Externals} {key : Option String} {file file' : SqliteFile} {item : Item}
    (h : Vault.openDbFile ext key (some (.sqlite file)) = .ok file') (hl : file.db.Lists item) :
  file'.db.Lists item
  := by
  rw [(Vault.openDbFile_tables h).1]
  cases item <;> exact hl

theorem splitPath_append_slash (component : List Char) (l rest : List Char)
    (hl : '/' ∉ l) :
  Export.splitPath component (l ++ '/' :: rest)
    = (component.reverse ++ l) :: Export.splitPath [] rest
  := by
  induction l generalizing component with
  | nil => simp [Export.splitPath]
  | cons c l ih =>
    simp only [List.mem_cons, not_or] at hl
    rw [List.cons_append, Export.splitPath, if_neg (Ne.symm hl.1), ih _ hl.2]
    simp

/-- Objects are kept in the store. -/
theorem head_objectPath {hash : String} {path : RelPath} (h : objectPath hash = some path) :
  path.head? = some "store"
  := by
  unfold objectPath at h
  split at h
  · next dir _ =>
    cases h
    have hrel : (Export.objectRel dir hash).toList = "store".toList
        ++ '/' :: ("objects/".toList ++ dir.toList ++ "/".toList ++ hash.toList) := by
      simp [Export.objectRel, String.toList_append]
    rw [Export.relPath, hrel, splitPath_append_slash _ _ _ (by decide)]
    rfl
  · cases h

end KnowledgeCore
