import KnowledgeCore.Sync.QuietPull
import KnowledgeCore.Sync.Signing

/-!
# Heads of unknown authors

A head reaches a vault through a pull or through the preview of a merge, from a file target or
from a remote one. Each of the four checks the head in its own way before it goes on. Remote
targets always check the author. A file target lets a preview, and a pull that is not strict,
go on with any head.
-/

namespace KnowledgeCore

namespace Sync

open Prog (AllOps)
open SyncAuth (AuthorAccepted)

variable {ext : Externals} {host : Host} {s : Site} {target : String} {nowMs : Int64}

/-! ### Getting past a head -/

/-- What every flow does first once it has checked the head. -/
def beyondHead : Op := .readState "sync_remote_head_seen"

/-- An operation of the checks of a head. -/
def Op.Inspects (o : Op) : Prop :=
  o.Reads ∧ o ≠ beyondHead

/-- A run that stops at the head: it does not get past it, it fails, and it changes nothing. -/
structure StopsAtHead {α : Type} (ext : Externals) (host : Host) (p : SyncM α) (s : Site) :
    Prop where
  before : beyondHead ∉ p.issued (perform ext host) s
  fails : ∃ e, p.eval (perform ext host) s = (.error e, s)

/-- A flow that inspects the head and then goes on stops at the head exactly when the
inspection fails. -/
theorem stopsAtHead_iff {α β : Type} {p : SyncM α} {f : α → SyncM β}
    (hp : p.AllOps Op.Inspects)
    (hf : ∀ a t, beyondHead ∈ (f a).issued (perform ext host) t) :
  StopsAtHead ext host (p >>= f) s ↔ ∀ a, p.eval (perform ext host) s ≠ (.ok a, s)
  := by
  have hstate := eval_reads ext host (hp.mono fun _ ho => ho.1) s
  have hno : beyondHead ∉ p.issued (perform ext host) s := fun ho => (hp.of_issued ho).2 rfl
  constructor
  · rintro ⟨hbefore, -⟩ a ha
    apply hbefore
    apply Prog.mem_issued_bind.mpr
    right
    use a, s, ha, hf a s
  · intro hnot
    rcases hrun : p.eval (perform ext host) s with ⟨e | a, t⟩
    · rw [hrun] at hstate
      obtain rfl : t = s := hstate
      constructor
      · intro ho
        rcases Prog.mem_issued_bind.mp ho with ho | ⟨a, u, ha, -⟩
        · exact hno ho
        · rw [hrun] at ha
          cases ha
      · use e
        rw [Prog.eval_bind_error hrun]
    · rw [hrun] at hstate
      obtain rfl : t = s := hstate
      exact absurd hrun (hnot a)

/-- What follows the inspection starts with what the vault has seen. -/
theorem beyondHead_mem {α : Type} {f : Option String → SyncM α} (t : Site) :
  beyondHead ∈ (readState "sync_remote_head_seen" >>= f).issued (perform ext host) t
  := by
  apply List.mem_cons_self

/-! ### The flows -/

/-- The ways of a head into a vault. -/
inductive HeadFlow
  | pull (mode : Option SyncAutoMergeMode) (strictAuth : Bool)
  | preview (policy : Option String)
  | s3Pull (mode : Option SyncAutoMergeMode) (strictAuth : Bool)
  | s3Preview (policy : Option String)

namespace HeadFlow

/-- The head a flow finds. -/
def found (flow : HeadFlow) (s : Site) : AppResult (Option SyncHeadV1) :=
  match flow with
  | pull _ _ | preview _ => readHeadFile s.target
  | s3Pull _ _ | s3Preview _ =>
    parseHead "failed parsing s3 sync head" s.bucket[S3_HEAD_KEY]?

/-- Whether a flow stops at the head. -/
def Stops (ext : Externals) (host : Host) (target : String) (nowMs : Int64) (s : Site) :
    HeadFlow → Prop
  | pull mode strictAuth =>
    StopsAtHead ext host (syncPullWithMode ext target nowMs mode strictAuth) s
  | preview policy =>
    StopsAtHead ext host (syncMergePreviewFileTarget ext target policy nowMs) s
  | s3Pull mode strictAuth =>
    StopsAtHead ext host (syncPullS3Target ext host target nowMs mode strictAuth) s
  | s3Preview policy =>
    StopsAtHead ext host (syncMergePreviewS3Target ext host target policy nowMs) s

end HeadFlow

/-! ### Inspections -/

/-- The inspection of a head by a pull from a file target. -/
def inspectPull (ext : Externals) (target : String) (strictAuth : Bool) :
  SyncM (VaultJsonV3 × SyncHeadV1)
  := do
  ensureSyncTables
  mainDbPath
  let vault ← vaultOpen
  let head ← readHead
  let remoteHead ← Prog.ofExcept (requireHead [("target_path", .str target)] head)
  checkStrictAuth ext target strictAuth remoteHead
  pure (vault, remoteHead)

/-- The inspection of a head by a preview of a merge with a file target. -/
def inspectPreview (target : String) : SyncM SyncHeadV1 := do
  ensureSyncTables
  let head ← readHead
  Prog.ofExcept (okOrElse
    (mergePreconditionFailed "sync merge preview requires a remote head"
      [("target_path", .str target)])
    head)

/-- The inspection of a head by a pull from a remote target. -/
def inspectS3Pull (ext : Externals) (host : Host) (target : String) (nowMs : Int64)
    (strictAuth : Bool) : SyncM (VaultJsonV3 × SyncTrustV1 × SyncHeadV1) := do
  ensureSyncTables
  mainDbPath
  let vault ← vaultOpen
  let localTrust ← Prog.ofExcept (SyncAuth.deriveLocalSyncTrust ext host vault nowMs)
  let remoteHead ← acceptHeadS3 ext target strictAuth localTrust
  pure (vault, localTrust, remoteHead)

/-- The inspection of a head by a preview of a merge with a remote target. -/
def inspectS3Preview (ext : Externals) (host : Host) (target : String) (nowMs : Int64) :
  SyncM SyncHeadV1
  := do
  ensureSyncTables
  let vault ← vaultOpen
  let localTrust ← Prog.ofExcept (SyncAuth.deriveLocalSyncTrust ext host vault nowMs)
  let head ← readHeadS3
  let remoteHead ← Prog.ofExcept (okOrElse
    (mergePreconditionFailed "sync merge preview requires a remote head"
      [("target", .str target)])
    head)
  checkRemoteTrust ext (some remoteHead) localTrust
  pure remoteHead

theorem inspects_checkStrictAuth (strictAuth : Bool) (head : SyncHeadV1) :
  (checkStrictAuth ext target strictAuth head).AllOps Op.Inspects
  := by
  unfold checkStrictAuth
  repeat' first | apply AllOps.bind | intro _ | split
  all_goals simp [readDb, Op.Inspects, Op.Reads, beyondHead]

theorem inspects_readHeadS3 :
  readHeadS3.AllOps Op.Inspects
  := by
  unfold readHeadS3
  repeat' first | apply AllOps.bind | intro _
  all_goals simp [s3Read, Op.Inspects, Op.Reads, beyondHead]

theorem inspects_checkRemoteTrust (head : Option SyncHeadV1) (trust : SyncTrustV1) :
  (checkRemoteTrust ext head trust).AllOps Op.Inspects
  := by
  unfold checkRemoteTrust
  repeat' first | apply AllOps.bind | intro _
  all_goals simp [readDb, Op.Inspects, Op.Reads, beyondHead]

theorem inspects_inspectPull (strictAuth : Bool) :
  (inspectPull ext target strictAuth).AllOps Op.Inspects
  := by
  unfold inspectPull
  repeat' first
    | apply inspects_checkStrictAuth
    | apply AllOps.bind
    | intro _
  all_goals
    simp [ensureSyncTables, mainDbPath, vaultOpen, readHead, Op.Inspects, Op.Reads, beyondHead]

theorem inspects_inspectPreview :
  (inspectPreview target).AllOps Op.Inspects
  := by
  unfold inspectPreview
  repeat' first | apply AllOps.bind | intro _
  all_goals simp [ensureSyncTables, readHead, Op.Inspects, Op.Reads, beyondHead]

theorem inspects_inspectS3Pull (strictAuth : Bool) :
  (inspectS3Pull ext host target nowMs strictAuth).AllOps Op.Inspects
  := by
  unfold inspectS3Pull acceptHeadS3
  repeat' first
    | apply inspects_readHeadS3
    | apply inspects_checkRemoteTrust
    | apply inspects_checkStrictAuth
    | apply AllOps.bind
    | intro _
  all_goals simp [ensureSyncTables, mainDbPath, vaultOpen, Op.Inspects, Op.Reads, beyondHead]

theorem inspects_inspectS3Preview :
  (inspectS3Preview ext host target nowMs).AllOps Op.Inspects
  := by
  unfold inspectS3Preview
  repeat' first
    | apply inspects_readHeadS3
    | apply inspects_checkRemoteTrust
    | apply AllOps.bind
    | intro _
  all_goals simp [ensureSyncTables, vaultOpen, Op.Inspects, Op.Reads, beyondHead]

/-! ### When a flow stops -/

theorem stops_pull_iff {mode : Option SyncAutoMergeMode} {strictAuth : Bool} :
  StopsAtHead ext host (syncPullWithMode ext target nowMs mode strictAuth) s
    ↔ ¬ ∃ file vault head, Vault.dbFile s.vault = some file
      ∧ Vault.vaultOpen host s.vault = .ok vault
      ∧ readHeadFile s.target = .ok (some head)
      ∧ (strictAuth = true →
        SyncAuth.ensureStrictSyncAuthReady ext file.db target head = .ok ())
  := by
  have hsplit : ∃ rest : VaultJsonV3 → SyncHeadV1 → Option String → SyncM SyncPullResultV1,
      syncPullWithMode ext target nowMs mode strictAuth
        = inspectPull ext target strictAuth >>= fun a =>
          readState "sync_remote_head_seen" >>= rest a.1 a.2 := by
    constructor
    simp only [syncPullWithMode, preparePull, inspectPull, Prog.bind_assoc, Prog.pure_eq,
      Prog.ret_bind]
    rfl
  obtain ⟨rest, hsplit⟩ := hsplit
  rw [hsplit, stopsAtHead_iff (inspects_inspectPull strictAuth) fun _ t => beyondHead_mem t]
  have hok (vault : VaultJsonV3) (head : SyncHeadV1) :
      (inspectPull ext target strictAuth).eval (perform ext host) s = (.ok (vault, head), s)
        ↔ ∃ file, Vault.dbFile s.vault = some file ∧ Vault.vaultOpen host s.vault = .ok vault
          ∧ readHeadFile s.target = .ok (some head)
          ∧ (strictAuth = true →
            SyncAuth.ensureStrictSyncAuthReady ext file.db target head = .ok ()) := by
    simp only [inspectPull, Prog.eval_bind_eq_ok, eval_ensureSyncTables_eq_ok,
      eval_mainDbPath_eq_ok, eval_vaultOpen, eval_readHead, Prog.eval_ofExcept, requireHead,
      okOrElse_eq_ok, Prog.pure_eq, Prog.eval_ret, Prod.mk.injEq, Except.ok.injEq]
    constructor
    · rintro ⟨_, _, ⟨rfl, file, hf⟩, _, _, ⟨rfl, -⟩, _, _, ⟨hv, rfl⟩, _, _, ⟨hh, rfl⟩, _, _,
        ⟨rfl, rfl⟩, _, _, hstrict, ⟨rfl, rfl⟩, rfl⟩
      use file, hf, hv, hh
      exact ((eval_checkStrictAuth_eq_ok hf).mp hstrict).2
    · rintro ⟨file, hf, hv, hh, hstrict⟩
      exact ⟨(), s, ⟨rfl, file, hf⟩, (), s, ⟨rfl, file, hf⟩, vault, s, ⟨hv, rfl⟩, _, s, ⟨hh, rfl⟩,
        head, s, ⟨rfl, rfl⟩, (), s, (eval_checkStrictAuth_eq_ok hf).mpr ⟨rfl, hstrict⟩,
        ⟨rfl, rfl⟩, rfl⟩
  constructor
  · rintro hnot ⟨file, vault, head, h⟩
    exact hnot (vault, head) ((hok vault head).mpr ⟨file, h⟩)
  · rintro hnot ⟨vault, head⟩ ha
    obtain ⟨file, h⟩ := (hok vault head).mp ha
    exact hnot ⟨file, vault, head, h⟩

theorem stops_preview_iff {policy : Option String} :
  StopsAtHead ext host (syncMergePreviewFileTarget ext target policy nowMs) s
    ↔ ¬ ∃ file head, Vault.dbFile s.vault = some file
      ∧ readHeadFile s.target = .ok (some head)
  := by
  have hsplit : ∃ rest : SyncHeadV1 → Option String → SyncM SyncMergePreviewResultV1,
      syncMergePreviewFileTarget ext target policy nowMs
        = inspectPreview target >>= fun a => readState "sync_remote_head_seen" >>= rest a := by
    constructor
    simp only [syncMergePreviewFileTarget, inspectPreview, Prog.bind_assoc]
    rfl
  obtain ⟨rest, hsplit⟩ := hsplit
  rw [hsplit, stopsAtHead_iff inspects_inspectPreview fun _ t => beyondHead_mem t]
  have hok (head : SyncHeadV1) :
      (inspectPreview target).eval (perform ext host) s = (.ok head, s)
        ↔ (∃ file, Vault.dbFile s.vault = some file)
          ∧ readHeadFile s.target = .ok (some head) := by
    simp only [inspectPreview, Prog.eval_bind_eq_ok, eval_ensureSyncTables_eq_ok, eval_readHead,
      Prog.eval_ofExcept, okOrElse_eq_ok, Prod.mk.injEq]
    constructor
    · rintro ⟨_, _, ⟨rfl, hf⟩, _, _, ⟨hh, rfl⟩, rfl, -⟩
      exact ⟨hf, hh⟩
    · rintro ⟨hf, hh⟩
      exact ⟨(), s, ⟨rfl, hf⟩, _, s, ⟨hh, rfl⟩, rfl, rfl⟩
  constructor
  · rintro hnot ⟨file, head, hf, hh⟩
    exact hnot head ((hok head).mpr ⟨⟨file, hf⟩, hh⟩)
  · intro hnot head ha
    obtain ⟨⟨file, hf⟩, hh⟩ := (hok head).mp ha
    exact hnot ⟨file, head, hf, hh⟩

/-- A head that a pull from a remote target gets past has passed the check of its author. -/
theorem accepted_of_acceptHeadS3 {strictAuth : Bool} {trust : SyncTrustV1} {head : SyncHeadV1}
    {s' : Site} (h : (acceptHeadS3 ext target strictAuth trust).eval (perform ext host) s
      = (.ok head, s')) :
  ∃ file, Vault.dbFile s.vault = some file
    ∧ parseHead "failed parsing s3 sync head" s.bucket[S3_HEAD_KEY]? = .ok (some head)
    ∧ (¬ head.schemaVersion < 3 → AuthorAccepted ext file.db head)
  := by
  simp only [acceptHeadS3, Prog.eval_bind_eq_ok, eval_readHeadS3, eval_checkRemoteTrust_eq_ok,
    Prog.eval_ofExcept, requireHead, okOrElse_eq_ok, Prog.pure_eq, Prog.eval_ret,
    Prod.mk.injEq, Except.ok.injEq] at h
  obtain ⟨_, _, ⟨hh, rfl⟩, _, _, ⟨rfl, rfl⟩, _, _, ⟨rfl, file, hf, ht⟩, _, _, -, rfl, rfl⟩ := h
  use file, hf, hh
  apply (SyncAuth.ensureRemoteTrustMatches_eq_ok.mp ht).2

theorem stops_s3Pull {mode : Option SyncAutoMergeMode} {strictAuth : Bool} {file : SqliteFile}
    {head : SyncHeadV1} (hf : Vault.dbFile s.vault = some file)
    (hh : parseHead "failed parsing s3 sync head" s.bucket[S3_HEAD_KEY]? = .ok (some head))
    (hv : ¬ head.schemaVersion < 3) (hno : ¬ AuthorAccepted ext file.db head) :
  StopsAtHead ext host (syncPullS3Target ext host target nowMs mode strictAuth) s
  := by
  have hsplit : ∃ rest : VaultJsonV3 → SyncTrustV1 → SyncHeadV1 → Option String →
        SyncM SyncPullResultV1,
      syncPullS3Target ext host target nowMs mode strictAuth
        = inspectS3Pull ext host target nowMs strictAuth >>= fun a =>
          readState "sync_remote_head_seen" >>= rest a.1 a.2.1 a.2.2 := by
    constructor
    simp only [syncPullS3Target, prepareS3Pull, inspectS3Pull, Prog.bind_assoc, Prog.pure_eq,
      Prog.ret_bind]
    rfl
  obtain ⟨rest, hsplit⟩ := hsplit
  rw [hsplit, stopsAtHead_iff (inspects_inspectS3Pull strictAuth) fun _ t => beyondHead_mem t]
  rintro ⟨vault, trust, head'⟩ ha
  simp only [inspectS3Pull, Prog.eval_bind_eq_ok, eval_ensureSyncTables_eq_ok,
    eval_mainDbPath_eq_ok, eval_vaultOpen, Prog.eval_ofExcept, Prog.pure_eq, Prog.eval_ret,
    Prod.mk.injEq, Except.ok.injEq] at ha
  obtain ⟨_, _, ⟨rfl, -⟩, _, _, ⟨rfl, -⟩, _, _, ⟨-, rfl⟩, _, _, ⟨-, rfl⟩, _, _, hacc, -⟩ := ha
  obtain ⟨file', hf', hh', haccepted⟩ := accepted_of_acceptHeadS3 hacc
  rw [hf] at hf'
  rw [hh] at hh'
  cases hf'
  cases hh'
  exact hno (haccepted hv)

theorem stops_s3Preview {policy : Option String} {file : SqliteFile} {head : SyncHeadV1}
    (hf : Vault.dbFile s.vault = some file)
    (hh : parseHead "failed parsing s3 sync head" s.bucket[S3_HEAD_KEY]? = .ok (some head))
    (hv : ¬ head.schemaVersion < 3) (hno : ¬ AuthorAccepted ext file.db head) :
  StopsAtHead ext host (syncMergePreviewS3Target ext host target policy nowMs) s
  := by
  have hsplit : ∃ rest : SyncHeadV1 → Option String → SyncM SyncMergePreviewResultV1,
      syncMergePreviewS3Target ext host target policy nowMs
        = inspectS3Preview ext host target nowMs >>= fun a =>
          readState "sync_remote_head_seen" >>= rest a := by
    constructor
    simp only [syncMergePreviewS3Target, inspectS3Preview, Prog.bind_assoc, Prog.pure_eq,
      Prog.ret_bind]
    rfl
  obtain ⟨rest, hsplit⟩ := hsplit
  rw [hsplit, stopsAtHead_iff inspects_inspectS3Preview fun _ t => beyondHead_mem t]
  intro head' ha
  simp only [inspectS3Preview, Prog.eval_bind_eq_ok, eval_ensureSyncTables_eq_ok,
    eval_vaultOpen, eval_readHeadS3, eval_checkRemoteTrust_eq_ok, Prog.eval_ofExcept,
    okOrElse_eq_ok, Prog.pure_eq, Prog.eval_ret, Prod.mk.injEq, Except.ok.injEq] at ha
  obtain ⟨_, _, ⟨rfl, -⟩, _, _, ⟨-, rfl⟩, _, _, ⟨-, rfl⟩, _, _, ⟨hh', rfl⟩, _, _, ⟨rfl, rfl⟩, _, _,
    ⟨rfl, file', hf', ht⟩, -⟩ := ha
  rw [hf] at hf'
  rw [hh] at hh'
  cases hf'
  cases hh'
  exact hno ((SyncAuth.ensureRemoteTrustMatches_eq_ok.mp ht).2 hv)

/-! ### Rejecting heads -/

/-- What is asked of a flow: that it stops at every head from schema version 3 on whose author
is not accepted. -/
def RejectsUnaccepted (ext : Externals) (host : Host) (target : String) (nowMs : Int64)
    (flow : HeadFlow) (s : Site) : Prop :=
  ∀ file head, Vault.dbFile s.vault = some file → flow.found s = .ok (some head) →
    ¬ head.schemaVersion < 3 → ¬ AuthorAccepted ext file.db head →
    flow.Stops ext host target nowMs s

/-- Whether a flow goes on with a head without asking whether its author is accepted. At a file
target a preview always does, and a pull does unless it is strict and the head does not pass
the strict check. -/
def HeadFlow.GoesOn (ext : Externals) (host : Host) (target : String) (s : Site)
    (file : SqliteFile) (head : SyncHeadV1) : HeadFlow → Prop
  | pull _ strictAuth => (∃ vault, Vault.vaultOpen host s.vault = .ok vault)
      ∧ (strictAuth = true →
        SyncAuth.ensureStrictSyncAuthReady ext file.db target head = .ok ())
  | preview _ => True
  | s3Pull _ _ | s3Preview _ => False

/-- A flow rejects the heads it has to exactly when it finds none of them to go on with. -/
theorem rejects_unaccepted_iff (ext : Externals) (host : Host) (target : String)
    (nowMs : Int64) (flow : HeadFlow) (s : Site) :
  RejectsUnaccepted ext host target nowMs flow s
    ↔ ¬ ∃ file head, Vault.dbFile s.vault = some file ∧ flow.found s = .ok (some head)
      ∧ ¬ head.schemaVersion < 3 ∧ ¬ AuthorAccepted ext file.db head
      ∧ flow.GoesOn ext host target s file head
  := by
  constructor
  · rintro hrejects ⟨file, head, hf, hh, hv, hno, hgoes⟩
    have hstops := hrejects file head hf hh hv hno
    cases flow with
    | pull mode strictAuth =>
      obtain ⟨⟨vault, hvault⟩, hstrict⟩ := hgoes
      exact stops_pull_iff.mp hstops ⟨file, vault, head, hf, hvault, hh, hstrict⟩
    | preview policy => exact stops_preview_iff.mp hstops ⟨file, head, hf, hh⟩
    | s3Pull mode strictAuth => exact hgoes
    | s3Preview policy => exact hgoes
  · intro hnone file head hf hh hv hno
    cases flow with
    | pull mode strictAuth =>
      apply stops_pull_iff.mpr
      rintro ⟨file', vault, head', hf', hvault, hh', hstrict⟩
      obtain rfl : file = file' := by simpa [hf] using hf'
      have hsame : some head' = some head := Except.ok.inj (hh'.symm.trans hh)
      cases hsame
      exact hnone ⟨file, head, hf, hh, hv, hno, ⟨vault, hvault⟩, hstrict⟩
    | preview policy => exact absurd ⟨file, head, hf, hh, hv, hno, trivial⟩ hnone
    | s3Pull mode strictAuth => apply stops_s3Pull hf hh hv hno
    | s3Preview policy => apply stops_s3Preview hf hh hv hno

/-- Where the registry has come about by enrolment, a strict pull rejects the heads it has
to. -/
theorem strict_pull_rejects {mode : Option SyncAutoMergeMode}
    (h : ∀ file, Vault.dbFile s.vault = some file → Trust.Reachable ext file.db) :
  RejectsUnaccepted ext host target nowMs (.pull mode true) s
  := by
  apply (rejects_unaccepted_iff ext host target nowMs _ s).mpr
  rintro ⟨file, head, hf, -, -, hno, -, hstrict⟩
  exact hno (SyncAuth.authorAccepted_of_strict (h file hf).wellEnrolled (hstrict rfl))

/-- A head of schema version 3 that names no author. -/
def Sample.anonymousHead : SyncHeadV1 where
  schemaVersion := 3
  snapshotId := "snapshot"
  manifestHash := "blake3:00"
  createdAtMs := 1

/-- An empty vault at a file target whose head names no author. -/
def Sample.beforeAnonymous : Site where
  vault := Sample.vault Sample.db []
  target := Sample.target Sample.anonymousHead
    [("snapshot", Sample.snapshotOf Sample.documentVault)]
  bucket := ∅

theorem Sample.found_anonymousHead :
  readHeadFile Sample.beforeAnonymous.target = .ok (some Sample.anonymousHead)
  := Sample.readHeadFile_target _ _

/-- A pull that is not strict goes on with a head that names no author. -/
theorem pull_accepts_anonymous_head :
  ¬ RejectsUnaccepted Sample.ext Sample.host "target" 1000 (.pull none false)
      Sample.beforeAnonymous
  := by
  have hfile : (Vault.dbFile Sample.beforeAnonymous.vault).isSome = true := by decide +kernel
  have hopen : (Vault.vaultOpen Sample.host Sample.beforeAnonymous.vault).isOk = true := by
    decide +kernel
  obtain ⟨file, hfile⟩ := Option.isSome_iff_exists.mp hfile
  rw [rejects_unaccepted_iff, not_not]
  use file, Sample.anonymousHead, hfile, Sample.found_anonymousHead, by decide
  constructor
  · rintro ⟨payload, signature, hp, -⟩
    cases hp
  · constructor
    · apply exists_of_isOk hopen
    · intro hstrict
      cases hstrict

/-! ### The strict check -/

/-- A head that passes the strict check is of schema version 3 or later, declares the algorithm
of custody, and is signed over its own fields with the key of a verified device. Where the
registry has come about by enrolment and the trust metadata matches, it passes the check of
remote targets too. -/
theorem strict_gate_sound (ext : Externals) (db : Db) (target : String) (head : SyncHeadV1)
    (h : SyncAuth.ensureStrictSyncAuthReady ext db target head = .ok ()) :
  3 ≤ head.schemaVersion
    ∧ head.authorSignatureAlg.map trim = some SYNC_AUTHOR_SIGNATURE_ALG_ED25519_V1
    ∧ (∃ payload device, SyncAuth.SignedBy ext db head payload device)
    ∧ ∀ localTrust, Trust.Reachable ext db → SyncAuth.TrustBlockMatches head localTrust →
      SyncAuth.ensureRemoteTrustMatches ext db (some head) localTrust = .ok ()
  := by
  obtain ⟨hv, halg, hok⟩ := SyncAuth.ensureStrictSyncAuthReady_eq_ok.mp h
  obtain ⟨payload, device, cert, hsigned, -⟩ :=
    SyncAuth.verifySyncHeadAuthorSignatureV1_eq_ok hv hok
  refine ⟨Int64.not_lt.mp hv, (Option.filter_eq_some_iff.mp halg).1, ⟨payload, device, hsigned⟩,
    ?_⟩
  intro localTrust hdb htrust
  apply SyncAuth.ensureRemoteTrustMatches_eq_ok.mpr
  exact ⟨htrust, fun _ => SyncAuth.authorAccepted_of_strict hdb.wellEnrolled h⟩

/-- What the enrolled device signs. -/
def Sample.devicePayload : SyncAuth.SyncAuthorPayloadV1 where
  snapshotId := "snapshot"
  manifestHash := "blake3:00"
  createdAtMs := 5
  authorDeviceId := "device"
  authorFingerprint := Sample.fingerprint
  authorCertId := "cert"
  authorChainHash := Trust.expectedCertChainHash Sample.ext "cert" "device" Sample.fingerprint

/-- A head the enrolled device has signed the way the verifier asks for. -/
def Sample.deviceHead : SyncHeadV1 where
  schemaVersion := 3
  snapshotId := Sample.devicePayload.snapshotId
  manifestHash := Sample.devicePayload.manifestHash
  createdAtMs := Sample.devicePayload.createdAtMs
  trust := some ⟨TRUST_MODEL_PASSPHRASE_V1, "passphrase", 5⟩
  authorDeviceId := some Sample.devicePayload.authorDeviceId
  authorFingerprint := some Sample.devicePayload.authorFingerprint
  authorSignature := some (Hex.bytesToHex (Sample.ext.sign Sample.seed
    ((SyncAuth.canonicalSyncAuthorPayloadV1 Sample.devicePayload).toOption.getD "")).toList)
  authorSignatureAlg := some SYNC_AUTHOR_SIGNATURE_ALG_ED25519_V1
  authorCertId := some Sample.devicePayload.authorCertId
  authorChainHash := some Sample.devicePayload.authorChainHash

theorem Sample.deviceHead_strict :
  SyncAuth.ensureStrictSyncAuthReady Sample.ext Sample.enrolledDb "target" Sample.deviceHead
    = .ok ()
  := by
  have htext : (SyncAuth.canonicalSyncAuthorPayloadV1 Sample.devicePayload).isOk = true := by
    decide +kernel
  have hchain : (Trust.verifyAuthorChain Sample.enrolledDb "device" "cert"
      Sample.devicePayload.authorChainHash).isOk = true := by decide +kernel
  have hpub : (Trust.trustedDevicePublicKey Sample.enrolledDb "device").toOption
      = some (Hex.bytesToHex (Sample.ext.verifyingKey Sample.seed).toList) := by decide +kernel
  obtain ⟨text, htext⟩ := exists_of_isOk htext
  obtain ⟨_, hchain⟩ := exists_of_isOk hchain
  apply SyncAuth.ensureStrictSyncAuthReady_eq_ok.mpr
  refine ⟨by decide, by decide +kernel, ?_⟩
  have hp : SyncAuth.authorPayload Sample.deviceHead = some Sample.devicePayload := rfl
  apply SyncAuth.verifySyncHeadAuthorSignatureV1_of_signed hp (by decide +kernel) (by decide +kernel) (by decide +kernel) (by decide +kernel) hchain
    (ok_of_toOption hpub) rfl htext _ rfl
  · simp [Sample.ext]
  · simp [Sample.deviceHead, htext, Except.toOption]

/-- The trust metadata of a vault with the passphrase of the enrolled device. -/
def Sample.localTrust : SyncTrustV1 := ⟨TRUST_MODEL_PASSPHRASE_V1, "passphrase", 7⟩

theorem Sample.deviceHead_trust :
  SyncAuth.TrustBlockMatches Sample.deviceHead Sample.localTrust
  := ⟨⟨TRUST_MODEL_PASSPHRASE_V1, "passphrase", 5⟩, rfl, rfl, rfl⟩

/-- The head of an enrolled device passes both checks. -/
theorem strict_gate_sound_deviceHead :
  SyncAuth.ensureRemoteTrustMatches Sample.ext Sample.enrolledDb (some Sample.deviceHead)
      Sample.localTrust = .ok ()
  := (strict_gate_sound Sample.ext Sample.enrolledDb "target" Sample.deviceHead
      Sample.deviceHead_strict).2.2.2 Sample.localTrust Sample.enrolledDb_reachable
      Sample.deviceHead_trust

end Sync

end KnowledgeCore
