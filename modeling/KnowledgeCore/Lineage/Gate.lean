import KnowledgeCore.Lifecycle.Outcome
import KnowledgeCore.Lineage.Overlay

/-!
# The gate before the overlays

What each call on the locks and the overlays may do to the database, whichever of its statements
fail. Only a call that presents the token of a lock that has not run out, on behalf of a subject
whom the roles and the policies allow to, changes an overlay.
-/

namespace KnowledgeCore

namespace LineagePolicy

variable {parse : JsonParser} {faults : Faults} {db : OwnerDb} {subjectId action : String}
  {docId : Option String}

/-- A decision that is made does not depend on which statements might have failed. -/
theorem lineagePolicyDecision_noFaults {decision : LineagePolicyDecisionV3}
    (h : lineagePolicyDecision parse faults db subjectId action docId = .ok decision) :
  lineagePolicyDecision parse noFaults db subjectId action docId = .ok decision
  := by
  rw [lineagePolicyDecision] at h ⊢
  split_ifs at h ⊢ with hblank
  obtain ⟨policies, hpolicies, h⟩ := AppResult.bind_eq_ok.mp h
  obtain ⟨-, hpolicies⟩ := attempt_eq_ok.mp hpolicies
  apply AppResult.bind_eq_ok.mpr
  use policies, attempt_eq_ok.mpr ⟨rfl, hpolicies⟩

/-- Only the record of the decisions grows, and consent is given by a decision that is put there
under the name of the subject. -/
theorem ensureLineagePolicyAllows_cases (parse : JsonParser) (faults : Faults)
    (subjectId action : String) (docId : Option String) (nowMs : Int64) (db : OwnerDb) :
  ∃ rows, (ensureLineagePolicyAllows parse faults subjectId action docId nowMs db).2
        = { db with lineagePolicyAudit := db.lineagePolicyAudit ++ rows }
      ∧ ((ensureLineagePolicyAllows parse faults subjectId action docId nowMs db).1 = .ok () →
        (∃ row, rows = [row] ∧ row.subjectId = subjectId)
          ∧ ∃ decision, lineagePolicyDecision parse noFaults db subjectId action docId
            = .ok decision ∧ decision.allowed = true)
  := by
  rw [ensureLineagePolicyAllows]
  cases hdecision : lineagePolicyDecision parse faults db subjectId action docId with
  | error e =>
    use []
    rw [List.append_nil]
    use rfl
    rintro ⟨⟩
  | ok decision =>
    obtain ⟨e, haudit, -⟩ | ⟨row, hrow, haudit⟩ := writePolicyAudit_cases faults decision nowMs db
    · simp only [haudit]
      use []
      rw [List.append_nil]
      use rfl
      rintro ⟨⟩
    · simp only [haudit]
      use [row], rfl
      intro h
      obtain ⟨-, hsubject, -⟩ := lineagePolicyDecision_eq_ok hdecision
      use ⟨row, rfl, hrow.subjectId.trans hsubject⟩
      use decision, lineagePolicyDecision_noFaults hdecision
      by_contra hdenied
      rw [if_neg hdenied] at h
      cases h

end LineagePolicy

namespace Lineage

open Prog (Safe Ends Reads safe_bind safe_bind_reads safe_check safe_perform_bind safe_ofExcept)
open LineageDb (Effect)

-- No text is to be examined character by character.
attribute [local irreducible] requireNonEmpty isBlank

variable {ext : Externals} {parse : JsonParser} {db after : LineageDb}

/-- Nothing is asked of the points at which a call is cut off. -/
abbrev Anywhere : LineageDb → Prop := fun _ => True

/-! ### Statements -/

/-- A statement that reads leaves the database as it is, and finds what is there if it does not
fail. -/
theorem eq_of_read {α : Type} {found : α} {ans : Except String α}
    (h : (∃ _ : Faults, ((.ok found, db) : Except String α × LineageDb) = (ans, after))
      ∨ ∃ error, some (.error error : Except String α) = some ans ∧ after = db) :
  after = db ∧ ∀ row, ans = .ok row → row = found
  := by
  obtain ⟨faults, ⟨⟩⟩ | ⟨error, ⟨⟩, rfl⟩ := h
  · use rfl
    rintro row ⟨⟩
    rfl
  · use rfl
    rintro row ⟨⟩

theorem effect_readLock {key : LockKey} {ans : Except String (Option LineageEditLockRow)}
    (h : Effect parse (.readLock key) db ans after) :
  after = db ∧ ∀ lock, ans = .ok lock → lock = db.lockRow key
  := eq_of_read h

theorem effect_permission {subjectId action : String}
    {ans : Except String (Option (String × Int64 × Bool))}
    (h : Effect parse (.permission subjectId action) db ans after) :
  after = db ∧ ∀ row, ans = .ok row → row = db.permissionRow subjectId action
  := eq_of_read h

theorem effect_overlayDoc {overlayId : String} {ans : Except String (Option String)}
    (h : Effect parse (.overlayDoc overlayId) db ans after) :
  after = db ∧ ∀ docId, ans = .ok docId
    → docId = db.lineageOverlays[overlayId]?.map LineageOverlayRow.docId
  := eq_of_read h

theorem effect_writeLock {key : LockKey} {row : LineageEditLockRow} {ans : Except String Unit}
    (h : Effect parse (.writeLock key row) db ans after) :
  (ans = .ok () ∧ db.refers key = true ∧ after = db.setLock key (some row))
    ∨ ∃ error, ans = .error error ∧ after = db
  := by
  obtain ⟨faults, h⟩ | ⟨error, ⟨⟩, rfl⟩ := h
  · rw [LineageDb.perform] at h
    split_ifs at h with hrefers
    · cases h
      left
      use rfl, hrefers
    · cases h
      right
      exact ⟨_, rfl, rfl⟩
  · right
    exact ⟨error, rfl, rfl⟩

theorem effect_deleteLock {key : LockKey} {ans : Except String Unit}
    (h : Effect parse (.deleteLock key) db ans after) :
  (ans = .ok () ∧ after = db.setLock key none) ∨ ∃ error, ans = .error error ∧ after = db
  := by
  obtain ⟨faults, ⟨⟩⟩ | ⟨error, ⟨⟩, rfl⟩ := h
  · left
    use rfl
  · right
    exact ⟨error, rfl, rfl⟩

theorem effect_insertOverlay {overlayId : String} {row : LineageOverlayRow}
    {ans : Except InsertError Unit}
    (h : Effect parse (.insertOverlay overlayId row) db ans after) :
  (ans = .ok () ∧ db.lineageOverlays[overlayId]? = none ∧ row.docId ∈ db.docs
      ∧ after = db.withOverlays (db.lineageOverlays.insert overlayId row))
    ∨ ∃ e, ans = .error e ∧ after = db
  := by
  obtain ⟨faults, h⟩ | ⟨error, ⟨⟩, rfl⟩ := h
  · rw [LineageDb.perform, LineageDb.insertOverlay] at h
    split_ifs at h with hunique hkey hdoc
    · cases h
      right
      exact ⟨_, rfl, rfl⟩
    · cases h
      right
      exact ⟨_, rfl, rfl⟩
    · cases h
      left
      use rfl, Std.ExtTreeMap.getElem?_eq_none hkey, hdoc
    · cases h
      right
      exact ⟨_, rfl, rfl⟩
  · right
    exact ⟨_, rfl, rfl⟩

theorem effect_deleteOverlay {overlayId : String} {ans : Except String Nat}
    (h : Effect parse (.deleteOverlay overlayId) db ans after) :
  (ans = .ok (if overlayId ∈ db.lineageOverlays then 1 else 0)
      ∧ after = db.withOverlays (db.lineageOverlays.erase overlayId))
    ∨ ∃ error, ans = .error error ∧ after = db
  := by
  obtain ⟨faults, ⟨⟩⟩ | ⟨error, ⟨⟩, rfl⟩ := h
  · left
    use rfl
  · right
    exact ⟨error, rfl, rfl⟩

/-- The database with more decisions on record. -/
def withAudit (db : LineageDb) (rows : List LineagePolicyAuditRow) : LineageDb :=
  { db with lineagePolicyAudit := db.lineagePolicyAudit ++ rows }

@[simp] theorem withAudit_nil (db : LineageDb) :
  withAudit db [] = db
  := by
  rw [withAudit, List.append_nil]

@[simp] theorem lineageOverlays_withAudit (db : LineageDb)
    (rows : List LineagePolicyAuditRow) :
  (withAudit db rows).lineageOverlays = db.lineageOverlays
  := rfl

theorem effect_policyAllows {subjectId action : String} {docId : Option String} {nowMs : Int64}
    {ans : AppResult Unit}
    (h : Effect parse (.policyAllows subjectId action docId nowMs) db ans after) :
  ∃ rows, after = withAudit db rows
    ∧ (ans = .ok () → (∃ row, rows = [row] ∧ row.subjectId = subjectId)
      ∧ ∃ decision, LineagePolicy.lineagePolicyDecision parse noFaults db.toOwnerDb subjectId
        action docId = .ok decision ∧ decision.allowed = true)
  := by
  obtain ⟨faults, h⟩ | ⟨error, ⟨⟩, -⟩ := h
  obtain ⟨rows, hafter, hok⟩ := LineagePolicy.ensureLineagePolicyAllows_cases parse faults
    subjectId action docId nowMs db.toOwnerDb
  rw [LineageDb.perform] at h
  cases hensure : LineagePolicy.ensureLineagePolicyAllows parse faults subjectId action docId
    nowMs db.toOwnerDb with
  | mk result owner =>
    rw [hensure] at h hafter hok
    obtain ⟨rfl, rfl⟩ := Prod.mk.inj h
    use rows, congrArg (fun owner => { db with toOwnerDb := owner }) hafter, hok

/-! ### What an edit takes -/

/-- The token is that of the lock on the document, which has not run out. -/
structure HoldsLock (db : LineageDb) (docId token : String) (nowMs : Int64)
    (lock : LineageEditLockRow) : Prop where
  stored : db.lineageEditLocks[docId]? = some lock
  token : lock.token = token
  unexpired : nowMs < lock.expiresAtMs

/-- The roles and the policies both allow the subject to edit the overlays of the document. -/
structure Allowed (parse : JsonParser) (db : LineageDb) (subject docId : String) : Prop where
  roles : ∃ row, db.permissionRow subject OVERLAY_WRITE_ACTION = some row ∧ row.2.2 = true
  policies : ∃ decision, LineagePolicy.lineagePolicyDecision parse noFaults db.toOwnerDb subject
    OVERLAY_WRITE_ACTION (some docId) = .ok decision ∧ decision.allowed = true

theorem reads_error {α : Type} (P : α → Prop) (e : AppError) :
  Reads db P (.error e : AppResult α) db
  := by
  use rfl
  intro a ha
  cases ha

theorem reads_readLockRow (docId : String) :
  (readLockRow docId).Safe (Effect parse) Anywhere
    (Reads db fun lock => lock = db.lineageEditLocks[docId]?) db
  := by
  rw [readLockRow, safe_perform_bind]
  use trivial
  intro ans after h
  obtain ⟨rfl, h⟩ := effect_readLock h
  rw [safe_ofExcept]
  use trivial, rfl
  intro lock hlock
  apply h lock (mapErr_eq_ok.mp hlock)

theorem reads_requireValidLock (docId token : String) (nowMs : Int64) :
  (requireValidLock docId token nowMs).Safe (Effect parse) Anywhere
    (Reads db (HoldsLock db docId token nowMs)) db
  := by
  rw [requireValidLock, lineageLockStatus, Prog.bind_assoc]
  apply safe_bind_reads (reads_readLockRow docId) (reads_error _)
  rintro lock rfl
  rw [Prog.pure_eq, Prog.ret_bind]
  by_cases hheld : (lockStatus docId nowMs db.lineageEditLocks[docId]?).held = false
  · rw [if_pos hheld]
    apply And.intro trivial (reads_error _ _)
  · rw [if_neg hheld]
    apply safe_bind_reads (reads_readLockRow docId) (reads_error _)
    rintro lock rfl
    cases hlock : db.lineageEditLocks[docId]? with
    | none => apply And.intro trivial (reads_error _ _)
    | some lock =>
      rw [hlock] at hheld
      dsimp only
      split_ifs with htoken
      · apply And.intro trivial (reads_error _ _)
      · use trivial, rfl
        rintro lock' ⟨⟩
        use hlock, not_not.mp htoken
        simpa [lockStatus] using hheld

theorem reads_lineagePermissionDecision (subjectId action : String) :
  (lineagePermissionDecision subjectId action).Safe (Effect parse) Anywhere
    (Reads db fun decision => decision.allowed
      = (db.permissionRow subjectId action).any fun row => row.2.2) db
  := by
  rw [lineagePermissionDecision]
  apply safe_check trivial
  · intro e _
    apply reads_error
  intro _ _
  apply safe_check trivial
  · intro e _
    apply reads_error
  intro _ _
  rw [safe_perform_bind]
  use trivial
  intro ans after h
  obtain ⟨rfl, hrow⟩ := effect_permission h
  apply safe_check trivial
  · intro e _
    apply reads_error
  intro row hans
  rw [Prog.pure_eq, Prog.safe_ret]
  use trivial, rfl
  intro decision hdecision
  rw [← Except.ok.inj hdecision, hrow row (mapErr_eq_ok.mp hans)]

theorem reads_ensureLineagePermission (subjectId : String) (docId : Option String) :
  (ensureLineagePermission subjectId OVERLAY_WRITE_ACTION docId).Safe (Effect parse) Anywhere
    (Reads db fun _ => ∃ row, db.permissionRow subjectId OVERLAY_WRITE_ACTION = some row
      ∧ row.2.2 = true) db
  := by
  rw [ensureLineagePermission]
  apply safe_bind_reads (reads_lineagePermissionDecision subjectId OVERLAY_WRITE_ACTION)
  · intro e
    apply reads_error
  intro decision hallowed
  by_cases h : decision.allowed = true
  · rw [if_pos h, Prog.pure_eq, Prog.safe_ret]
    use trivial, rfl
    intro _ _
    apply (Option.any_eq_true _ _).mp (hallowed.symm.trans h)
  · rw [if_neg h, Prog.safe_fail]
    use trivial
    apply reads_error

theorem safe_ensureLineagePolicyAllows (subjectId docId : String) (nowMs : Int64) :
  (ensureLineagePolicyAllows subjectId OVERLAY_WRITE_ACTION (some docId) nowMs).Safe
    (Effect parse) Anywhere
    (fun r after => ∃ rows, after = withAudit db rows
      ∧ (r = .ok () → (∃ row, rows = [row] ∧ row.subjectId = subjectId)
        ∧ ∃ decision, LineagePolicy.lineagePolicyDecision parse noFaults db.toOwnerDb subjectId
          OVERLAY_WRITE_ACTION (some docId) = .ok decision ∧ decision.allowed = true)) db
  := by
  rw [ensureLineagePolicyAllows, safe_perform_bind]
  use trivial
  intro ans after h
  rw [safe_ofExcept]
  use trivial
  apply effect_policyAllows h

/-! ### Adding and removing -/

/-- What an add comes to. -/
inductive AddOutcome (ext : Externals) (parse : JsonParser) (req : LineageOverlayAddReq)
    (db : LineageDb) : AppResult LineageOverlayEntryV1 → LineageDb → Prop
  | failed (e : AppError) (rows : List LineagePolicyAuditRow) :
    AddOutcome ext parse req db (.error e) (withAudit db rows)
  | added (entry : LineageOverlayEntryV1) (lock : LineageEditLockRow)
      (row : LineagePolicyAuditRow) (overlayId : String)
      (hvalid : validateOverlayFields req.docId req.fromNodeId req.toNodeId req.relation
        req.evidence req.createdBy = .ok ())
      (hlock : HoldsLock db req.docId req.lockToken req.createdAtMs lock)
      (hallowed : Allowed parse db req.createdBy req.docId)
      (hrow : row.subjectId = req.createdBy)
      (hid : overlayId = overlayIdFor ext req.docId req.fromNodeId req.toNodeId req.relation
        req.evidence)
      (hfresh : db.lineageOverlays[overlayId]? = none) :
    AddOutcome ext parse req db (.ok entry)
      ((withAudit db [row]).withOverlays (db.lineageOverlays.insert overlayId req.row))

/-- What a removal comes to. -/
inductive RemoveOutcome (parse : JsonParser) (overlayId lockToken : String) (nowMs : Int64)
    (db : LineageDb) : AppResult Unit → LineageDb → Prop
  | failed (e : AppError) (rows : List LineagePolicyAuditRow) :
    RemoveOutcome parse overlayId lockToken nowMs db (.error e) (withAudit db rows)
  | removed (overlay : LineageOverlayRow) (lock : LineageEditLockRow)
      (row : LineagePolicyAuditRow)
      (hstored : db.lineageOverlays[overlayId]? = some overlay)
      (hlock : HoldsLock db overlay.docId lockToken nowMs lock)
      (hallowed : Allowed parse db lock.owner overlay.docId)
      (hrow : row.subjectId = lock.owner) :
    RemoveOutcome parse overlayId lockToken nowMs db (.ok ())
      ((withAudit db [row]).withOverlays (db.lineageOverlays.erase overlayId))

/-- An add that fails before the policies are asked. -/
theorem AddOutcome.failed_unchanged {req : LineageOverlayAddReq} (e : AppError) :
  AddOutcome ext parse req db (.error e) db
  := by
  have h : AddOutcome ext parse req db (.error e) (withAudit db []) := .failed e []
  rwa [withAudit_nil] at h

theorem safe_lineageOverlayAdd (req : LineageOverlayAddReq) :
  (lineageOverlayAdd ext req).Safe (Effect parse) Anywhere (AddOutcome ext parse req db) db
  := by
  rw [lineageOverlayAdd]
  apply safe_check trivial
  · intro e _
    apply AddOutcome.failed_unchanged
  intro _ hvalid
  apply safe_bind_reads (reads_requireValidLock _ _ _) AddOutcome.failed_unchanged
  intro lock hlock
  apply safe_bind_reads (reads_ensureLineagePermission _ _) AddOutcome.failed_unchanged
  intro _ hroles
  rw [safe_bind]
  apply (safe_ensureLineagePolicyAllows req.createdBy req.docId req.createdAtMs).mono
  · intro t ht
    exact ht
  intro r after h
  obtain ⟨rows, rfl, hok⟩ := h
  cases r with
  | error e => apply AddOutcome.failed
  | ok =>
    obtain ⟨⟨row, rfl, hrow⟩, hpolicies⟩ := hok rfl
    rw [Prog.then_ok, safe_perform_bind]
    use trivial
    intro ans after h
    obtain ⟨rfl, hfresh, -, rfl⟩ | ⟨e, rfl, rfl⟩ := effect_insertOverlay h
    · rw [mapErr_ok, Prog.ofExcept_ok, Prog.ret_bind, Prog.pure_eq, Prog.safe_ret]
      use trivial
      apply AddOutcome.added _ lock row _ hvalid hlock ⟨hroles, hpolicies⟩ hrow rfl hfresh
    · rw [mapErr_error, Prog.ofExcept_error, Prog.fail_bind, Prog.safe_fail]
      use trivial
      apply AddOutcome.failed

theorem RemoveOutcome.failed_unchanged {overlayId lockToken : String} {nowMs : Int64}
    (e : AppError) :
  RemoveOutcome parse overlayId lockToken nowMs db (.error e) db
  := by
  have h : RemoveOutcome parse overlayId lockToken nowMs db (.error e) (withAudit db []) :=
    .failed e []
  rwa [withAudit_nil] at h

theorem safe_lineageOverlayRemove (overlayId lockToken : String) (nowMs : Int64) :
  (lineageOverlayRemove overlayId lockToken nowMs).Safe (Effect parse) Anywhere
    (RemoveOutcome parse overlayId lockToken nowMs db) db
  := by
  rw [lineageOverlayRemove, safe_perform_bind]
  use trivial
  intro ans after h
  obtain ⟨rfl, hdoc⟩ := effect_overlayDoc h
  apply safe_check trivial
  · intro e _
    apply RemoveOutcome.failed_unchanged
  intro docId hans
  have hdocId := hdoc docId (mapErr_eq_ok.mp hans)
  cases docId with
  | none =>
    rw [Prog.safe_fail]
    use trivial
    apply RemoveOutcome.failed_unchanged
  | some docId =>
    obtain ⟨overlay, hstored, rfl⟩ := Option.map_eq_some_iff.mp hdocId.symm
    apply safe_bind_reads (reads_requireValidLock overlay.docId lockToken nowMs)
    · apply RemoveOutcome.failed_unchanged
    intro lock hlock
    apply safe_bind_reads (reads_ensureLineagePermission lock.owner (some overlay.docId))
    · apply RemoveOutcome.failed_unchanged
    intro _ hroles
    rw [safe_bind]
    apply (safe_ensureLineagePolicyAllows lock.owner overlay.docId nowMs).mono
    · intro t ht
      exact ht
    intro r after h
    obtain ⟨rows, rfl, hok⟩ := h
    cases r with
    | error e => apply RemoveOutcome.failed
    | ok =>
      obtain ⟨⟨row, rfl, hrow⟩, hpolicies⟩ := hok rfl
      rw [Prog.then_ok, safe_perform_bind]
      use trivial
      intro ans after h
      obtain ⟨rfl, rfl⟩ | ⟨e, rfl, rfl⟩ := effect_deleteOverlay h
      · have hmem : overlayId ∈ (withAudit after [row]).lineageOverlays :=
          Std.ExtTreeMap.mem_iff_isSome_getElem?.mpr (by
            rw [lineageOverlays_withAudit, hstored, Option.isSome_some])
        rw [if_pos hmem, mapErr_ok, Prog.ofExcept_ok, Prog.ret_bind, if_neg Nat.one_ne_zero,
          Prog.pure_eq, Prog.safe_ret]
        use trivial
        apply RemoveOutcome.removed overlay lock row hstored hlock ⟨hroles, hpolicies⟩ hrow
      · rw [mapErr_error, Prog.ofExcept_error, Prog.fail_bind, Prog.safe_fail]
        use trivial
        apply RemoveOutcome.failed

/-! ### Locks -/

/-- The statements on locks. -/
def OnLock : LineageOp → Prop
  | .readLock _ => True
  | .writeLock _ _ => True
  | .deleteLock _ => True
  | _ => False

theorem effect_onLock {op : LineageOp} {ans : op.Ans} (hop : OnLock op)
    (h : Effect parse op db ans after) :
  after.lineageOverlays = db.lineageOverlays
  := by
  cases op with
  | readLock key =>
    obtain ⟨rfl, -⟩ := effect_readLock h
    rfl
  | writeLock key row =>
    obtain ⟨-, -, rfl⟩ | ⟨e, -, rfl⟩ := effect_writeLock h
    · apply LineageDb.lineageOverlays_setLock
    · rfl
  | deleteLock key =>
    obtain ⟨-, rfl⟩ | ⟨e, -, rfl⟩ := effect_deleteLock h
    · apply LineageDb.lineageOverlays_setLock
    · rfl
  | _ => cases hop

/-- A program on the locks leaves the overlays as they are. -/
theorem lineageOverlays_of_onLock {α : Type} {p : LineageProg α} (hp : p.AllOps OnLock)
    {r : AppResult α} (h : Ends (Effect parse) p db r after) :
  after.lineageOverlays = db.lineageOverlays
  := by
  apply hp.ends_frame (fun db => db.lineageOverlays) _ h
  intro op s ans t hop ht
  apply effect_onLock hop ht

theorem onLock_acquireLock (key : LockKey) (row : LineageEditLockRow)
    (readFailed : String → AppError) (held : LineageEditLockRow → AppError)
    (writeFailed : String → AppError) :
  (acquireLock key row readFailed held writeFailed).AllOps OnLock
  := by
  rw [acquireLock]
  use trivial
  intro ans
  apply Prog.AllOps.bind (Prog.allOps_ofExcept _)
  intro lock
  cases lock.filter fun lock => lock.expiresAtMs > row.acquiredAtMs with
  | some lock => trivial
  | none =>
    use trivial
    intro ans
    apply Prog.allOps_ofExcept

theorem onLock_lineageLockAcquire (docId owner : String) (nowMs : Int64) :
  (lineageLockAcquire ext docId owner nowMs).AllOps OnLock
  := by
  rw [lineageLockAcquire]
  split_ifs with hblank
  · trivial
  · apply Prog.AllOps.bind (onLock_acquireLock _ _ _ _ _)
    intro _
    trivial

theorem onLock_lineageLockRelease (docId token : String) :
  (lineageLockRelease docId token).AllOps OnLock
  := by
  rw [lineageLockRelease, releaseLock]
  use trivial
  intro ans
  apply Prog.AllOps.bind (Prog.allOps_ofExcept _)
  intro lock
  cases lock with
  | none => trivial
  | some lock =>
    dsimp only
    split_ifs with htoken
    · trivial
    · use trivial
      intro ans
      apply Prog.allOps_ofExcept

/-- A lock is written when what it is on is there and no lock is held on it. -/
theorem eval_acquireLock_isOk (key : LockKey) (row : LineageEditLockRow)
    (readFailed : String → AppError) (held : LineageEditLockRow → AppError)
    (writeFailed : String → AppError) :
  ((acquireLock key row readFailed held writeFailed).eval (LineageDb.perform parse noFaults)
      db).1.isOk = true
    ↔ db.refers key = true
      ∧ (db.lockRow key).all (fun lock => lock.expiresAtMs ≤ row.acquiredAtMs) = true
  := by
  rw [acquireLock, Prog.perform_bind, Prog.eval_op, LineageDb.perform, mapErr_ok,
    Prog.ofExcept_ok, Prog.ret_bind]
  have hwrite : ((Prog.op (.writeLock key row) fun written =>
      Prog.ofExcept (mapErr writeFailed written) : LineageProg Unit).eval
        (LineageDb.perform parse noFaults) db).1.isOk = true ↔ db.refers key = true := by
    rw [Prog.eval_op, LineageDb.perform, Prog.eval_ofExcept]
    split_ifs with hrefers
    · rw [mapErr_ok]
      simp [hrefers, Except.isOk, Except.toBool]
    · rw [mapErr_error]
      simp [hrefers, Except.isOk, Except.toBool]
  cases hlock : db.lockRow key with
  | none =>
    rw [Option.all_none, and_iff_left rfl, ← hwrite]
    rfl
  | some lock =>
    rw [Option.all_some, decide_eq_true_iff]
    by_cases hheld : lock.expiresAtMs > row.acquiredAtMs
    · rw [Option.filter_some, if_pos (decide_eq_true hheld)]
      have hnot : ¬ lock.expiresAtMs ≤ row.acquiredAtMs := Int64.not_le.mpr hheld
      simp [hnot, Except.isOk, Except.toBool]
    · rw [Option.filter_some, if_neg (by simpa using hheld),
        and_iff_left (Int64.not_lt.mp hheld), ← hwrite]
      rfl

/-- A lock is acquired on a document that is there and on which no lock is held. -/
theorem eval_lineageLockAcquire_isOk {docId owner : String} (nowMs : Int64)
    (hdocId : isBlank docId = false) (howner : isBlank owner = false) :
  ((lineageLockAcquire ext docId owner nowMs).eval (LineageDb.perform parse noFaults)
      db).1.isOk = true
    ↔ docId ∈ db.docs ∧ ∃ status,
      ((lineageLockStatus docId nowMs).eval (LineageDb.perform parse noFaults) db).1 = .ok status
        ∧ status.held = false
  := by
  have hblank : ¬ (isBlank docId = true ∨ isBlank owner = true) := by
    rw [hdocId, howner]
    simp
  have hstatus : ((lineageLockStatus docId nowMs).eval (LineageDb.perform parse noFaults) db).1
      = .ok (lockStatus docId nowMs db.lineageEditLocks[docId]?) := rfl
  have hheld : (lockStatus docId nowMs db.lineageEditLocks[docId]?).held = false
      ↔ (db.lockRow (.doc docId)).all (fun lock => lock.expiresAtMs ≤ nowMs) = true := by
    rw [LineageDb.lockRow]
    cases db.lineageEditLocks[docId]? with
    | none => simp [lockStatus]
    | some lock => simp [lockStatus]
  simp only [lineageLockAcquire, if_neg hblank, Prog.pure_eq, Prog.isOk_eval_bind_ret,
    eval_acquireLock_isOk, hstatus, Except.ok.injEq, exists_eq_left', hheld, leaseRow,
    LineageDb.refers, decide_eq_true_iff]

/-! ### Runs -/

/-- The calls on the locks and the overlays. -/
inductive Call
  | acquire (docId owner : String) (nowMs : Int64)
  | release (docId token : String)
  | add (req : LineageOverlayAddReq)
  | remove (overlayId lockToken : String) (nowMs : Int64)

def Call.prog (ext : Externals) : Call → LineageProg Unit
  | .acquire docId owner nowMs => do
    let _ ← lineageLockAcquire ext docId owner nowMs
    pure ()
  | .release docId token => lineageLockRelease docId token
  | .add req => do
    let _ ← lineageOverlayAdd ext req
    pure ()
  | .remove overlayId lockToken nowMs => lineageOverlayRemove overlayId lockToken nowMs

/-- What a call on the overlays presents: a token, a time, and the subject that is checked when
the lock is found. -/
structure Presented where
  lockToken : String
  nowMs : Int64
  subject : LineageEditLockRow → String

def Call.presents : Call → Option Presented
  | .acquire _ _ _ => none
  | .release _ _ => none
  | .add req => some ⟨req.lockToken, req.createdAtMs, fun _ => req.createdBy⟩
  | .remove _ lockToken nowMs => some ⟨lockToken, nowMs, LineageEditLockRow.owner⟩

/-- A call of a run, with its result and the databases before and after it. -/
structure Step where
  call : Call
  before : LineageDb
  result : AppResult Unit
  after : LineageDb

/-- The runs of calls, any of whose statements may fail. -/
inductive Run (ext : Externals) (parse : JsonParser) (db : LineageDb) :
    List Step → LineageDb → Prop
  | nil : Run ext parse db [] db
  | snoc {steps s t} (call : Call) (result : AppResult Unit) : Run ext parse db steps s →
      Ends (Effect parse) (call.prog ext) s result t →
      Run ext parse db (steps ++ [⟨call, s, result, t⟩]) t

/-- Exactly one row is inserted or deleted, and it is one of the document. -/
def ChangesRow (docId : String) (before after : Table LineageOverlayRow) : Prop :=
  ∃ (overlayId : String) (overlay : LineageOverlayRow), overlay.docId = docId
    ∧ (before[overlayId]? = none ∧ after[overlayId]? = some overlay
      ∨ before[overlayId]? = some overlay ∧ after[overlayId]? = none)
    ∧ ∀ other ≠ overlayId, after[other]? = before[other]?

/-- The overlays are changed by a call only when it presents the token of a lock that has not run
out, for a subject that is allowed to, and by a call that succeeds. -/
structure Gated (parse : JsonParser) (step : Step) : Prop where
  changed : step.after.lineageOverlays ≠ step.before.lineageOverlays →
    ∃ presented docId lock, step.call.presents = some presented
      ∧ HoldsLock step.before docId presented.lockToken presented.nowMs lock
      ∧ Allowed parse step.before (presented.subject lock) docId
      ∧ ChangesRow docId step.before.lineageOverlays step.after.lineageOverlays
  failed : ∀ e, step.result = .error e →
    step.after.lineageOverlays = step.before.lineageOverlays

theorem changesRow_insert {overlays : Table LineageOverlayRow} {overlayId : String}
    (overlay : LineageOverlayRow) (h : overlays[overlayId]? = none) :
  ChangesRow overlay.docId overlays (overlays.insert overlayId overlay)
  := by
  use overlayId, overlay, rfl
  constructor
  · left
    use h
    apply Std.ExtTreeMap.getElem?_insert_self
  · intro other hother
    rw [Std.ExtTreeMap.getElem?_insert, if_neg]
    intro heq
    apply hother
    apply (Std.LawfulEqCmp.compare_eq_iff_eq.mp heq).symm

theorem changesRow_erase {overlays : Table LineageOverlayRow} {overlayId : String}
    {overlay : LineageOverlayRow} (h : overlays[overlayId]? = some overlay) :
  ChangesRow overlay.docId overlays (overlays.erase overlayId)
  := by
  use overlayId, overlay, rfl
  constructor
  · right
    use h
    apply Std.ExtTreeMap.getElem?_erase_self
  · intro other hother
    rw [Std.ExtTreeMap.getElem?_erase, if_neg]
    intro heq
    apply hother
    apply (Std.LawfulEqCmp.compare_eq_iff_eq.mp heq).symm

/-- A call on the locks leaves the overlays as they are. -/
theorem gated_of_unchanged {step : Step}
    (h : step.after.lineageOverlays = step.before.lineageOverlays) :
  Gated parse step
  := by
  constructor
  · intro hne
    contradiction
  · intro e _
    apply h

theorem gated_of_ends {call : Call} {result : AppResult Unit}
    (h : Ends (Effect parse) (call.prog ext) db result after) :
  Gated parse ⟨call, db, result, after⟩
  := by
  cases call with
  | acquire docId owner nowMs =>
    obtain ⟨r, hr, -⟩ := Prog.ends_bind_ret h
    apply gated_of_unchanged (lineageOverlays_of_onLock (onLock_lineageLockAcquire _ _ _) hr)
  | release docId token =>
    apply gated_of_unchanged (lineageOverlays_of_onLock (onLock_lineageLockRelease _ _) h)
  | add req =>
    obtain ⟨r, hr, hok⟩ := Prog.ends_bind_ret h
    cases (safe_lineageOverlayAdd req).ends hr with
    | failed e rows => apply gated_of_unchanged rfl
    | added entry lock row overlayId hvalid hlock hallowed hrow hid hfresh =>
      constructor
      · intro _
        use ⟨req.lockToken, req.createdAtMs, fun _ => req.createdBy⟩, req.docId, lock, rfl, hlock,
          hallowed
        apply changesRow_insert req.row hfresh
      · rintro e ⟨⟩
        cases hok
  | remove overlayId lockToken nowMs =>
    cases (safe_lineageOverlayRemove overlayId lockToken nowMs).ends h with
    | failed e rows => apply gated_of_unchanged rfl
    | removed overlay lock row hstored hlock hallowed hrow =>
      constructor
      · intro _
        use ⟨lockToken, nowMs, LineageEditLockRow.owner⟩, overlay.docId, lock, rfl, hlock, hallowed
        apply changesRow_erase hstored
      · rintro e ⟨⟩

/-- Every step of a run is gated. In every state it leads to, a lock on a document that is there
is acquired exactly when it is reported as not held. -/
theorem overlays_gated {steps : List Step} (h : Run ext parse db steps after) :
  (∀ step ∈ steps, Gated parse step)
    ∧ ∀ docId owner nowMs, isBlank docId = false → isBlank owner = false → docId ∈ after.docs →
      (((lineageLockAcquire ext docId owner nowMs).eval (LineageDb.perform parse noFaults)
          after).1.isOk = true
        ↔ ∃ status, ((lineageLockStatus docId nowMs).eval (LineageDb.perform parse noFaults)
          after).1 = .ok status ∧ status.held = false)
  := by
  constructor
  · induction h with
    | nil =>
      intro step hstep
      cases hstep
    | snoc call result _ hend ih =>
      intro step hstep
      rw [List.mem_append, List.mem_singleton] at hstep
      obtain hstep | rfl := hstep
      · apply ih step hstep
      · apply gated_of_ends hend
  · intro docId owner nowMs hdocId howner hdoc
    rw [eval_lineageLockAcquire_isOk nowMs hdocId howner, and_iff_right hdoc]

/-- A database with one document, in which only the subject `editor` may edit overlays. -/
def Sample.lineageDb : LineageDb where
  __ := Sample.ownerDb "owner" [] [{
    subjectId := "editor"
    policyId := "policy"
    boundBy := "owner"
    boundAtMs := 0 }]
  docs := Sample.documentDb.docs
  lineageRoles := (∅ : Table Int64).insert "editor" 20
  lineagePermissions := [{
    roleName := "editor"
    action := OVERLAY_WRITE_ACTION
    allowed := true }]
  lineageRoleBindings := [{
    subjectId := "editor"
    roleName := "editor"
    grantedBy := "owner"
    grantedAtMs := 0 }]
  lineageLockScopes _ := none

/-- A request of `editor` to add an overlay to the document under a lock of the given owner. -/
def Sample.overlayReq (owner : String) : LineageOverlayAddReq where
  docId := "document"
  fromNodeId := "doc:document"
  toNodeId := "note:overlay"
  relation := "supports"
  evidence := "note"
  lockToken := lockTokenFor Sample.ext "document" owner 0
  createdAtMs := 1
  createdBy := "editor"

/-- The state a call leads to when no statement fails. -/
def Sample.next (call : Call) (db : LineageDb) : AppResult Unit × LineageDb :=
  (call.prog Sample.ext).eval (LineageDb.perform JsonText.parse noFaults) db

theorem Sample.ends_next (call : Call) (db : LineageDb) :
  Ends (Effect JsonText.parse) (call.prog Sample.ext) db (Sample.next call db).1
    (Sample.next call db).2
  := by
  apply Prog.ends_eval
  apply LineageDb.effect_perform

/-- An overlay is added under a lock. -/
theorem overlays_gated_add :
  let locked := Sample.next (.acquire "document" "editor" 0) Sample.lineageDb
  let added := Sample.next (.add (Sample.overlayReq "editor")) locked.2
  added.1.isOk = true
    ∧ Gated JsonText.parse ⟨.add (Sample.overlayReq "editor"), locked.2, added.1, added.2⟩
  := by
  intro locked added
  constructor
  · decide +kernel
  · have hrun := Run.snoc _ _ (Run.snoc _ _ (Run.nil) (Sample.ends_next
      (.acquire "document" "editor" 0) Sample.lineageDb))
      (Sample.ends_next (.add (Sample.overlayReq "editor")) locked.2)
    apply (overlays_gated hrun).1
    apply List.mem_append_right
    apply List.mem_singleton_self

/-- No lock is held on a document that is not there, and yet none is acquired. -/
theorem acquire_refused_missing_document :
  ∃ status, ((lineageLockStatus "missing" 0).eval (LineageDb.perform JsonText.parse noFaults)
      Sample.lineageDb).1 = .ok status
    ∧ status.held = false ∧ isBlank "missing" = false ∧ isBlank "editor" = false
    ∧ ((lineageLockAcquire Sample.ext "missing" "editor" 0).eval
      (LineageDb.perform JsonText.parse noFaults) Sample.lineageDb).1.isOk = false
  := by
  use lockStatus "missing" 0 none, rfl, rfl
  decide +kernel

/-! ### The holder of the lock -/

/-- The subject that the roles and the policies were asked about, as the record of the decision
says, is the owner of the lock the token is of. -/
def ChecksHolder (parse : JsonParser) (docId token : String) (nowMs : Int64)
    (db after : LineageDb) : Prop :=
  ∃ lock row, HoldsLock db docId token nowMs lock
    ∧ after.lineagePolicyAudit = db.lineagePolicyAudit ++ [row] ∧ row.subjectId = lock.owner
    ∧ Allowed parse db lock.owner docId

/-- A removal that goes through has asked about the holder of the lock. -/
theorem remove_checksHolder {overlayId lockToken : String} {nowMs : Int64}
    (h : Ends (Effect parse) (lineageOverlayRemove overlayId lockToken nowMs) db (.ok ()) after) :
  ∃ overlay, db.lineageOverlays[overlayId]? = some overlay
    ∧ ChecksHolder parse overlay.docId lockToken nowMs db after
  := by
  cases (safe_lineageOverlayRemove overlayId lockToken nowMs).ends h with
  | removed overlay lock row hstored hlock hallowed hrow =>
    use overlay, hstored, lock, row, hlock, rfl, hrow

/-- An add that goes through has asked about the holder of the lock exactly when the holder is
who it is made in the name of. -/
theorem add_checksHolder_iff {req : LineageOverlayAddReq} {entry : LineageOverlayEntryV1}
    (h : Ends (Effect parse) (lineageOverlayAdd ext req) db (.ok entry) after) :
  ChecksHolder parse req.docId req.lockToken req.createdAtMs db after
    ↔ db.lineageEditLocks[req.docId]?.map LineageEditLockRow.owner = some req.createdBy
  := by
  cases (safe_lineageOverlayAdd req).ends h with
  | added _ lock row overlayId hvalid hlock hallowed hrow hid hfresh =>
    rw [hlock.stored, Option.map_some, Option.some.injEq]
    constructor
    · rintro ⟨lock', row', hlock', haudit, hsubject, -⟩
      have hsame : lock' = lock := Option.some.inj (hlock'.stored.symm.trans hlock.stored)
      have hrows : [row] = [row'] := List.append_cancel_left haudit
      rw [← hsame, ← hsubject, ← List.head_eq_of_cons_eq hrows, hrow]
    · intro howner
      use lock, row, hlock, rfl
      rw [howner]
      use hrow

/-- The document is locked by the given owner. -/
def Sample.lockedBy (owner : String) : LineageDb :=
  (Sample.next (.acquire "document" owner 0) Sample.lineageDb).2

/-- What an add by `editor` comes to under that lock. -/
def Sample.addedUnder (owner : String) : AppResult LineageOverlayEntryV1 × LineageDb :=
  (lineageOverlayAdd Sample.ext (Sample.overlayReq owner)).eval
    (LineageDb.perform JsonText.parse noFaults) (Sample.lockedBy owner)

theorem Sample.ends_addedUnder (owner : String) :
  Ends (Effect JsonText.parse) (lineageOverlayAdd Sample.ext (Sample.overlayReq owner))
    (Sample.lockedBy owner) (Sample.addedUnder owner).1 (Sample.addedUnder owner).2
  := by
  apply Prog.ends_eval
  apply LineageDb.effect_perform

/-- The holder of the lock adds an overlay. -/
theorem add_checksHolder_editor :
  ChecksHolder JsonText.parse "document" (lockTokenFor Sample.ext "document" "editor" 0) 1
    (Sample.lockedBy "editor") (Sample.addedUnder "editor").2
  := by
  have hok : (Sample.addedUnder "editor").1.isOk = true := by decide +kernel
  have howner : (Sample.lockedBy "editor").lineageEditLocks["document"]?.map
      LineageEditLockRow.owner = some "editor" := by decide +kernel
  obtain ⟨entry, hentry⟩ := exists_of_isOk hok
  have hends := Sample.ends_addedUnder "editor"
  rw [hentry] at hends
  apply (add_checksHolder_iff hends).mpr howner

/-- Another subject adds an overlay under a lock whose holder has no role. -/
theorem add_under_another_holder :
  (∃ entry, Ends (Effect JsonText.parse)
      (lineageOverlayAdd Sample.ext (Sample.overlayReq "owner")) (Sample.lockedBy "owner")
      (.ok entry) (Sample.addedUnder "owner").2)
    ∧ ¬ ChecksHolder JsonText.parse "document" (lockTokenFor Sample.ext "document" "owner" 0) 1
      (Sample.lockedBy "owner") (Sample.addedUnder "owner").2
  := by
  have hok : (Sample.addedUnder "owner").1.isOk = true := by decide +kernel
  have howner : (Sample.lockedBy "owner").lineageEditLocks["document"]?.map
      LineageEditLockRow.owner = some "owner" := by decide +kernel
  have hrole : ((Sample.lockedBy "owner").permissionRow "owner" OVERLAY_WRITE_ACTION).isNone
      = true := by decide +kernel
  constructor
  · obtain ⟨entry, hentry⟩ := exists_of_isOk hok
    use entry
    rw [← hentry]
    apply Sample.ends_addedUnder
  · rintro ⟨lock, row, hlock, -, -, hallowed⟩
    rw [hlock.stored, Option.map_some, Option.some.injEq] at howner
    obtain ⟨role, hfound, -⟩ := hallowed.roles
    rw [howner] at hfound
    rw [hfound] at hrole
    cases hrole

end Lineage

end KnowledgeCore
