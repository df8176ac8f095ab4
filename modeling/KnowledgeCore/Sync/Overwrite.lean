import KnowledgeCore.Sync.QuietPush

/-!
# Pushing over a head

A push is meant to replace only a head that the vault has seen. It does so unless the head is
another one and the rows that would show it are missing, or show no local change: the test for
a conflict takes missing rows for agreement.
-/

namespace KnowledgeCore

namespace Sync

variable {ext : Externals} {host : Host} {s : Site} {target : String} {nowMs : Int64}

/-- What is asked of a push: it succeeds only where there was no head or a head the vault has
seen, and it leaves the head alone when it fails. -/
def GuardsHead (seen : Option String) (before : Option Content)
    (found : AppResult (Option SyncHeadV1)) (result : AppResult SyncPushResultV1)
    (after : Option Content) : Prop :=
  (∀ r, result = .ok r →
      before = none ∨ ∃ head, found = .ok (some head) ∧ seen = some head.snapshotId)
    ∧ ∀ e, result = .error e → after = before

/-- Whether a head is another one than the database has seen, and the rows do not show that
both sides have changed: one of them is missing, or the local side is as it was. -/
def SlipsThrough (head : SyncHeadV1) (db : Db) (hash : String) : Prop :=
  let seen := db.readState "sync_remote_head_seen"
  let lastApplied := db.readState "sync_last_applied_manifest_hash"
  seen ≠ some head.snapshotId ∧ (seen = none ∨ lastApplied = none ∨ lastApplied = some hash)

/-- A head slips through exactly when it is unseen and no conflict is found. -/
theorem slipsThrough_iff {head : SyncHeadV1} {db : Db} {hash : String} :
  SlipsThrough head db hash ↔
    db.readState "sync_remote_head_seen" ≠ some head.snapshotId
      ∧ ¬ Diverged (some head) db hash
  := by
  rw [SlipsThrough, Diverged, shouldConflict_iff]
  generalize db.readState "sync_remote_head_seen" = seen
  generalize db.readState "sync_last_applied_manifest_hash" = lastApplied
  cases seen <;> cases lastApplied <;> grind

/-- A file that is there holds a head, if it can be read at all. -/
theorem parseHead_some {message : String} {content : Content} {head : Option SyncHeadV1}
    (h : parseHead message (some content) = .ok head) :
  ∃ h, head = some h
  := by
  simp only [parseHead, AppResult.bind_eq_ok] at h
  obtain ⟨head, -, h⟩ := h
  cases h
  use head

/-- A push to a file target guards the head. -/
def PushGuardsHead (ext : Externals) (host : Host) (target : String) (nowMs : Int64)
    (s : Site) : Prop :=
  let run := (syncPush ext target nowMs).eval (perform ext host) s
  GuardsHead (seenRemote s.vault) s.target.head (readHeadFile s.target) run.1
    run.2.target.head

/-- A push to a remote target guards the head. -/
def S3PushGuardsHead (ext : Externals) (host : Host) (target : String) (nowMs : Int64)
    (s : Site) : Prop :=
  let run := (syncPushS3Target ext host target nowMs).eval (perform ext host) s
  GuardsHead (seenRemote s.vault) s.bucket[S3_HEAD_KEY]?
    (parseHead "failed parsing s3 sync head" s.bucket[S3_HEAD_KEY]?) run.1
    run.2.bucket[S3_HEAD_KEY]?

/-- A push that succeeds guards the head if there was none, or one the vault has seen. -/
theorem guardsHead_ok {seen : Option String} {before after : Option Content}
    {found : AppResult (Option SyncHeadV1)} {r : SyncPushResultV1} :
  GuardsHead seen before found (.ok r) after
    ↔ before = none ∨ ∃ head, found = .ok (some head) ∧ seen = some head.snapshotId
  := by
  simp [GuardsHead]

/-- A push that fails guards the head if it leaves it alone. -/
theorem guardsHead_error {seen : Option String} {before after : Option Content}
    {found : AppResult (Option SyncHeadV1)} {e : AppError} :
  GuardsHead seen before found (.error e) after ↔ after = before
  := by
  simp [GuardsHead]

/-- A push that succeeds past a head guards it exactly when the head does not slip through. -/
theorem guardsHead_ok_iff {message : String} {before after : Option Content} {db : Db}
    {head : Option SyncHeadV1} {hash : String} {r : SyncPushResultV1}
    (hfound : parseHead message before = .ok head) (hc : ¬ Diverged head db hash) :
  GuardsHead (db.readState "sync_remote_head_seen") before (parseHead message before) (.ok r)
      after
    ↔ ∀ h, head = some h → ¬ SlipsThrough h db hash
  := by
  rw [guardsHead_ok, hfound]
  cases before with
  | none =>
    cases hfound
    simp
  | some content =>
    obtain ⟨h, rfl⟩ := parseHead_some hfound
    simp [slipsThrough_iff, hc]

/-- A push of the vault to its file target would pass all checks although the head slips
through. -/
def PushOverwrites (ext : Externals) (host : Host) (s : Site) : Prop :=
  ∃ file vault head bundle hash,
    PushReads ext host s file vault (some head) bundle hash ∧ SlipsThrough head file.db hash

/-- A push of the vault to its remote target would pass all checks although the head slips
through. -/
def S3PushOverwrites (ext : Externals) (host : Host) (target : String) (nowMs : Int64)
    (s : Site) : Prop :=
  ∃ file plan head newHead,
    S3PushAccepts ext host target nowMs s file plan (some head) newHead
      ∧ SlipsThrough head file.db plan.localManifestHash

/-- A push to a file target guards the head unless it would pass all checks although the head
slips through. -/
theorem pushGuardsHead_iff :
  PushGuardsHead ext host target nowMs s ↔ ¬ PushOverwrites ext host s
  := by
  rw [PushGuardsHead]
  by_cases h : ∃ file vault head bundle hash, PushReads ext host s file vault head bundle hash
      ∧ ¬ Diverged head file.db hash
  · obtain ⟨file, vault, head, bundle, hash, hr, hc⟩ := h
    rw [eval_syncPush hr hc, seenRemote_eq hr.opened]
    apply (guardsHead_ok_iff hr.found hc).trans
    constructor
    · rintro hguard ⟨file', vault', head', bundle', hash', hr', hslip⟩
      obtain rfl : file = file' := by simpa [hr.opened] using hr'.opened
      obtain rfl : head = some head' := by simpa [hr.found] using hr'.found
      obtain ⟨-, rfl⟩ : bundle = bundle' ∧ hash = hash' := by
        simpa [hr.exported] using hr'.exported
      exact hguard head' rfl hslip
    · rintro hno head rfl hslip
      exact hno ⟨file, vault, head, bundle, hash, hr, hslip⟩
  · obtain ⟨e, s', hrun, -, hhead⟩ := eval_syncPush_refused target nowMs h
    rw [hrun]
    apply iff_of_true (guardsHead_error.mpr hhead)
    rintro ⟨file, vault, head, bundle, hash, hr, hslip⟩
    exact h ⟨file, vault, some head, bundle, hash, hr, (slipsThrough_iff.mp hslip).2⟩

/-- A push to a remote target guards the head unless it would pass all checks although the head
slips through. -/
theorem s3PushGuardsHead_iff :
  S3PushGuardsHead ext host target nowMs s ↔ ¬ S3PushOverwrites ext host target nowMs s
  := by
  rw [S3PushGuardsHead]
  by_cases h : ∃ file plan head newHead,
      S3PushAccepts ext host target nowMs s file plan head newHead
  · obtain ⟨file, plan, head, newHead, ha⟩ := h
    rw [eval_syncPushS3Target ha, seenRemote_eq ha.opened]
    apply (guardsHead_ok_iff ha.found ha.agrees).trans
    constructor
    · rintro hguard ⟨file', plan', head', newHead', ha', hslip⟩
      obtain rfl : file = file' := by simpa [ha.opened] using ha'.opened
      obtain rfl : head = some head' := by simpa [ha.found] using ha'.found
      obtain ⟨-, hhash⟩ : plan.localBundle = plan'.localBundle
          ∧ plan.localManifestHash = plan'.localManifestHash := by
        simpa [ha.exported] using ha'.exported
      rw [← hhash] at hslip
      exact hguard head' rfl hslip
    · rintro hno head rfl hslip
      exact hno ⟨file, plan, head, newHead, ha, hslip⟩
  · obtain ⟨e, s', hrun, -, hhead⟩ := eval_syncPushS3Target_refused h
    rw [hrun]
    apply iff_of_true (guardsHead_error.mpr hhead)
    rintro ⟨file, plan, head, newHead, ha, -⟩
    exact h ⟨file, plan, some head, newHead, ha⟩

/-- A vault that has never synchronised, at a target that holds the push of another vault. -/
def Sample.firstContact : Site where
  vault := Sample.vault Sample.db []
  target := Sample.target (fileHead "snapshot-of-another-vault" "blake3:00" 1) []
  bucket := ∅

end Sync

end KnowledgeCore
