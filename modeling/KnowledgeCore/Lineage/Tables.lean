import KnowledgeCore.Lib.CrashLogic
import KnowledgeCore.Lifecycle.Policy

/-!
# The tables lineage is edited with

The locks, the roles with their permissions, and the overlays, with the statements of SQL that
read and write them. A statement that fails leaves the tables as they were.
-/

namespace KnowledgeCore

/-- A row of `lineage_permissions`. -/
structure LineagePermissionRow where
  roleName : String
  action : String
  allowed : Bool

/-- A row of `lineage_role_bindings`. -/
structure LineageRoleBindingRow where
  subjectId : String
  roleName : String
  grantedBy : String
  grantedAtMs : Int64

/-- The database with the tables that say who may edit the lineage. Of a role only its rank is
kept, and the locks on scopes are under the kind and the value of the scope. -/
structure LineageDb extends OwnerDb where
  lineageRoles : Table Int64
  lineagePermissions : List LineagePermissionRow
  lineageRoleBindings : List LineageRoleBindingRow
  lineageLockScopes : String × String → Option LineageEditLockRow

/-- What a lock is on: a document, or a scope. -/
inductive LockKey
  | doc (docId : String)
  | scope (scopeKind scopeValue : String)
deriving DecidableEq

namespace LineageDb

/-! ### Locks -/

def lockRow (db : LineageDb) : LockKey → Option LineageEditLockRow
  | .doc docId => db.lineageEditLocks[docId]?
  | .scope kind value => db.lineageLockScopes (kind, value)

/-- Write the lock under a key, or remove it. -/
def setLock (db : LineageDb) (key : LockKey) (row : Option LineageEditLockRow) : LineageDb :=
  match key with
  | .doc docId => { db with lineageEditLocks := db.lineageEditLocks.alter docId fun _ => row }
  | .scope kind value =>
    { db with lineageLockScopes := Function.update db.lineageLockScopes (kind, value) row }

@[simp] theorem lockRow_setLock (db : LineageDb) (key key' : LockKey)
    (row : Option LineageEditLockRow) :
  (db.setLock key row).lockRow key' = if key' = key then row else db.lockRow key'
  := by
  cases key with
  | doc docId =>
    cases key' with
    | doc docId' =>
      simp only [lockRow, setLock, Std.ExtTreeMap.getElem?_alter,
        Std.LawfulEqCmp.compare_eq_iff_eq, LockKey.doc.injEq,
        eq_comm (a := docId')]
    | scope kind value => simp [lockRow, setLock]
  | scope kind value =>
    cases key' with
    | doc docId => simp [lockRow, setLock]
    | scope kind' value' =>
      simp only [lockRow, setLock, Function.update_apply, Prod.mk.injEq, LockKey.scope.injEq]

@[simp] theorem lineageOverlays_setLock (db : LineageDb) (key : LockKey)
    (row : Option LineageEditLockRow) :
  (db.setLock key row).lineageOverlays = db.lineageOverlays
  := by
  cases key <;> rfl

@[simp] theorem docs_setLock (db : LineageDb) (key : LockKey)
    (row : Option LineageEditLockRow) :
  (db.setLock key row).docs = db.docs
  := by
  cases key <;> rfl

/-- Whether the row a lock refers to is there. A scope refers to none. -/
def refers (db : LineageDb) : LockKey → Bool
  | .doc docId => docId ∈ db.docs
  | .scope _ _ => true

/-! ### Permissions -/

/-- The role of a subject that decides on an action: the one of the least rank among those with
a permission for it, and then the first by name. -/
def permissionRow (db : LineageDb) (subjectId action : String) : Option (String × Int64 × Bool) :=
  let matched := db.lineageRoleBindings.filterMap fun binding =>
    if binding.subjectId = subjectId then do
      let rank ← db.lineageRoles[binding.roleName]?
      let permission ← db.lineagePermissions.find? fun permission =>
        permission.roleName = binding.roleName ∧ permission.action = action
      some (binding.roleName, rank, permission.allowed)
    else
      none
  let sorted := matched.insertionSort fun a b =>
    a.2.1 < b.2.1 ∨ a.2.1 = b.2.1 ∧ a.1 ≤ b.1
  sorted.head?

end LineageDb

/-! ### Statements -/

/-- Why an overlay is not inserted: one with the same fields is there, or another reason. -/
inductive InsertError
  | unique
  | other (error : String)

/-- The statements of SQL the lineage is edited with. The evaluation of the policies is one. -/
inductive LineageOp
  | readLock (key : LockKey)
  | writeLock (key : LockKey) (row : LineageEditLockRow)
  | deleteLock (key : LockKey)
  | permission (subjectId action : String)
  | policyAllows (subjectId action : String) (docId : Option String) (nowMs : Int64)
  | overlayDoc (overlayId : String)
  | insertOverlay (overlayId : String) (row : LineageOverlayRow)
  | deleteOverlay (overlayId : String)

abbrev LineageOp.Ans : LineageOp → Type
  | .readLock _ => Except String (Option LineageEditLockRow)
  | .writeLock _ _ => Except String Unit
  | .deleteLock _ => Except String Unit
  | .permission _ _ => Except String (Option (String × Int64 × Bool))
  | .policyAllows _ _ _ _ => AppResult Unit
  | .overlayDoc _ => Except String (Option String)
  | .insertOverlay _ _ => Except InsertError Unit
  | .deleteOverlay _ => Except String Nat

/-- A program over the lineage tables. -/
abbrev LineageProg := Prog LineageOp LineageOp.Ans AppError

namespace LineageDb

/-- The columns of an overlay that no two overlays have in common. -/
def overlayFields (row : LineageOverlayRow) : List String :=
  [row.docId, row.fromNodeId, row.toNodeId, row.relation, row.evidence]

/-- The database with other overlays. -/
def withOverlays (db : LineageDb) (overlays : Table LineageOverlayRow) : LineageDb :=
  { db with lineageOverlays := overlays }

@[simp] theorem lineageOverlays_withOverlays (db : LineageDb)
    (overlays : Table LineageOverlayRow) :
  (db.withOverlays overlays).lineageOverlays = overlays
  := rfl

/-- Insert an overlay. The columns that have to differ are checked before the primary key, and
the document it refers to after that. -/
def insertOverlay (overlayId : String) (row : LineageOverlayRow) (db : LineageDb) :
  Except InsertError Unit × LineageDb
  :=
  if db.lineageOverlays.toList.any (fun e => overlayFields e.2 = overlayFields row) = true then
    (.error .unique, db)
  else if overlayId ∈ db.lineageOverlays then
    (.error (.other "UNIQUE constraint failed: lineage_overlays.overlay_id"), db)
  else if row.docId ∉ db.docs then
    (.error (.other "FOREIGN KEY constraint failed"), db)
  else
    (.ok (), db.withOverlays (db.lineageOverlays.insert overlayId row))

/-- What a statement answers and does when the database is at its service. -/
def perform (parse : JsonParser) (faults : Faults) :
    (op : LineageOp) → LineageDb → op.Ans × LineageDb
  | .readLock key, db => (.ok (db.lockRow key), db)
  | .writeLock key row, db =>
    if db.refers key = true then
      (.ok (), db.setLock key (some row))
    else
      (.error "FOREIGN KEY constraint failed", db)
  | .deleteLock key, db => (.ok (), db.setLock key none)
  | .permission subjectId action, db => (.ok (db.permissionRow subjectId action), db)
  | .policyAllows subjectId action docId nowMs, db =>
    let (result, after) := LineagePolicy.ensureLineagePolicyAllows parse faults subjectId action
      docId nowMs db.toOwnerDb
    (result, { db with toOwnerDb := after })
  | .overlayDoc overlayId, db =>
    (.ok (db.lineageOverlays[overlayId]?.map LineageOverlayRow.docId), db)
  | .insertOverlay overlayId row, db => insertOverlay overlayId row db
  | .deleteOverlay overlayId, db =>
    (.ok (if overlayId ∈ db.lineageOverlays then 1 else 0),
      db.withOverlays (db.lineageOverlays.erase overlayId))

/-- The answer of a statement that the database fails with an error. -/
def refused : (op : LineageOp) → String → Option op.Ans
  | .readLock _, error => some (.error error)
  | .writeLock _ _, error => some (.error error)
  | .deleteLock _, error => some (.error error)
  | .permission _ _, error => some (.error error)
  | .policyAllows _ _ _ _, _ => none
  | .overlayDoc _, error => some (.error error)
  | .insertOverlay _ _, error => some (.error (.other error))
  | .deleteOverlay _, error => some (.error error)

/-- What a statement may do: it is performed, or fails and changes nothing. -/
def Effect (parse : JsonParser) : Prog.Effect LineageOp LineageOp.Ans LineageDb :=
  fun op db ans after =>
    (∃ faults, perform parse faults op db = (ans, after))
      ∨ ∃ error, refused op error = some ans ∧ after = db

theorem effect_perform (parse : JsonParser) (op : LineageOp) (db : LineageDb) :
  Effect parse op db (perform parse noFaults op db).1 (perform parse noFaults op db).2
  := by
  left
  use noFaults

end LineageDb

end KnowledgeCore
