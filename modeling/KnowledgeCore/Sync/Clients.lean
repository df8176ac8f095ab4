import KnowledgeCore.Lib.Conduct
import KnowledgeCore.Sync.QuietPush

/-!
# The clients of a remote target

Pushes and pulls of any number of vaults share the objects of one remote target. What a client
goes by is what it has found there since it started. Pushes and pulls touch the lock and the head
in one way only: a lock is deleted if its lease has expired or if it names the client as its
holder, and a head is written under the lock, after a comparison with the one that was there.
-/

namespace KnowledgeCore

namespace Sync

open Prog (Conduct Follows follows_bind follows_attempt onwards_ok onwards_error)

/-! ### The objects the clients share -/

/-- What an operation may do to the objects of a remote target, and be answered. An operation that
fails may have been carried out. What is not an operation on the target may be answered in any
way. -/
def BucketEffect : Prog.Effect Op Op.Ans (Table Content)
  | .s3Read key, bucket, answer, after =>
    after = bucket ∧ ∀ object, answer = .ok object → object = bucket[key]?
  | .s3Write key object, bucket, answer, after =>
    after = bucket.insert key object ∨ (answer.isOk = false ∧ after = bucket)
  | .s3WriteIfAbsent key object, bucket, answer, after =>
    (key ∉ bucket ∧ after = bucket.insert key object ∧ answer ≠ .ok false)
      ∨ (answer ≠ .ok true ∧ after = bucket)
  | .s3Delete key, bucket, answer, after =>
    after = bucket.erase key ∨ (answer.isOk = false ∧ after = bucket)
  | _, bucket, _, after => after = bucket

/-- A site answers as the objects allow. -/
theorem bucketEffect_perform (ext : Externals) (host : Host) (o : Op) (s : Site) :
  BucketEffect o s.bucket (perform ext host o s).1 (perform ext host o s).2.bucket
  := by
  cases o with
  | s3Read key =>
    use rfl
    intro object h
    cases h
    rfl
  | s3Write key object =>
    left
    rfl
  | s3Delete key =>
    left
    rfl
  | s3WriteIfAbsent key object =>
    simp only [perform]
    split_ifs with hkey
    · right
      use fun h => by cases h
    · left
      rw [Std.ExtTreeMap.contains_iff_mem] at hkey
      use hkey, rfl
      intro h
      cases h
  | ensureSyncTables | mainDbPath | readState _ | readDb | writeState _ _ _
  | writeSnapshotLog _ _ =>
    simp only [BucketEffect, perform, withDb]
    split <;> rfl
  | openDb | writeHead _ =>
    simp only [BucketEffect, perform]
    split <;> rfl
  | copyTop _ _ =>
    simp only [BucketEffect, perform]
    split <;> rfl
  | _ => rfl

/-! ### What a client goes by -/

/-- What a client has found: the lock it has written and not deleted since, what it has read in the
place of the lock since it last wrote or deleted there, the heads it has read since it took the
lock or wrote one, the rows of its vault, and the bundle it has exported. -/
structure ClientView where
  held : Option Content
  found : Option (Option Content)
  heads : List (Option Content)
  seenRemote : Option String
  lastAppliedManifest : Option String
  bundle : Option (Dir Content)

namespace ClientView

def start : ClientView where
  held := none
  found := none
  heads := []
  seenRemote := none
  lastAppliedManifest := none
  bundle := none

def next : ClientView → (o : Op) → o.Ans → ClientView
  | v, .readState key, .ok value =>
    if key = "sync_remote_head_seen" then { v with seenRemote := value }
    else if key = "sync_last_applied_manifest_hash" then { v with lastAppliedManifest := value }
    else v
  | v, .exportBundle _, .ok bundle => { v with bundle := some bundle }
  | v, .s3Read key, .ok object =>
    if key = S3_LOCK_KEY then { v with found := some object }
    else if key = S3_HEAD_KEY ∧ v.held.isSome = true then { v with heads := object :: v.heads }
    else v
  | v, .s3Write key _, _ => if key = S3_HEAD_KEY then { v with heads := [] } else v
  | v, .s3WriteIfAbsent key object, .ok true =>
    if key = S3_LOCK_KEY then { v with held := some object, found := none, heads := [] } else v
  | v, .s3WriteIfAbsent key _, .ok false =>
    if key = S3_LOCK_KEY then { v with found := none } else v
  | v, .s3WriteIfAbsent key _, .error _ =>
    if key = S3_LOCK_KEY then { v with found := none } else v
  | v, .s3Delete key, _ =>
    if key = S3_LOCK_KEY then { v with held := none, found := none, heads := [] } else v
  | v, _, _ => v

@[simp] theorem next_seenRemote (v : ClientView) (value : Option String) :
  v.next (.readState "sync_remote_head_seen") (.ok value) = { v with seenRemote := value }
  := by
  simp [next]

@[simp] theorem next_lastAppliedManifest (v : ClientView) (value : Option String) :
  v.next (.readState "sync_last_applied_manifest_hash") (.ok value)
    = { v with lastAppliedManifest := value }
  := by
  simp [next]

/-- A head that is read is kept in mind under the lock. -/
theorem next_readHead (v : ClientView) (object : Option Content) :
  v.next (.s3Read S3_HEAD_KEY) (.ok object)
    = { v with heads := if v.held.isSome = true then object :: v.heads else v.heads }
  := by
  obtain ⟨held, _, _, _, _, _⟩ := v
  cases held <;> simp [next, S3_HEAD_KEY, S3_LOCK_KEY]

/-- What leaves the object of the lock alone takes no lock and gives none back. -/
theorem held_next (v : ClientView) {o : Op} (a : o.Ans) (h : o.KeepsKey S3_LOCK_KEY) :
  (v.next o a).held = v.held
  := by
  cases o with
  | s3WriteIfAbsent key object =>
    cases a with
    | error e => rw [next, if_neg h]
    | ok created =>
      cases created with
      | true => rw [next, if_neg h]
      | false => rw [next, if_neg h]
  | s3Delete key => rw [next, if_neg h]
  | s3Write key object =>
    rw [next]
    split <;> rfl
  | readState key | s3Read key =>
    cases a with
    | error e => rfl
    | ok value =>
      rw [next]
      repeat' split
      all_goals rfl
  | exportBundle _ => cases a <;> rfl
  | _ => rfl

/-- What is found after an operation that leaves the object of the lock alone was found before, or
has just been read. -/
theorem found_next {v : ClientView} {o : Op} (a : o.Ans) (h : o.KeepsKey S3_LOCK_KEY)
    {object : Option Content} (hfound : (v.next o a).found = some object) :
  v.found = some object
    ∨ ∃ key, key = S3_LOCK_KEY ∧ (⟨o, a⟩ : Event Op Op.Ans) = ⟨.s3Read key, .ok object⟩
  := by
  cases o with
  | s3Read key =>
    cases a with
    | error e =>
      left
      exact hfound
    | ok read =>
      rw [next] at hfound
      split_ifs at hfound with hlock
      · right
        cases hfound
        use key, hlock
      · left
        exact hfound
      · left
        exact hfound
  | s3WriteIfAbsent key _ =>
    left
    cases a with
    | error e => rwa [next, if_neg h] at hfound
    | ok created =>
      cases created with
      | true => rwa [next, if_neg h] at hfound
      | false => rwa [next, if_neg h] at hfound
  | s3Delete key =>
    left
    rwa [next, if_neg h] at hfound
  | s3Write key _ =>
    left
    rw [next] at hfound
    split at hfound <;> exact hfound
  | readState key =>
    left
    cases a with
    | error e => exact hfound
    | ok value =>
      rw [next] at hfound
      split_ifs at hfound
      all_goals exact hfound
  | exportBundle _ =>
    left
    cases a <;> exact hfound
  | _ =>
    left
    exact hfound

end ClientView

/-- The lock an object reads as. -/
def LockIn (object : Content) (lock : SyncS3WriteLockV1) : Prop :=
  (object.parseJson >>= SyncS3WriteLockV1.ofJson) = .ok lock

theorem lockIn_toJson {lock lock' : SyncS3WriteLockV1} :
  LockIn (.json lock.toJson 0) lock' ↔ lock' = lock
  := by
  simp [LockIn, Content.parseJson, bind, Except.bind, eq_comm]

/-- Locks in the same object are the same. -/
theorem eq_of_object_eq {lock lock' : SyncS3WriteLockV1}
    (h : Content.json lock.toJson 0 = .json lock'.toJson 0) :
  lock = lock'
  := by
  have hlock : LockIn (.json lock'.toJson 0) lock := by
    rw [← h]
    exact lockIn_toJson.mpr rfl
  exact lockIn_toJson.mp hlock

/-- The object that holds the lock a client takes at a time. -/
def lockObject (vaultId : String) (trust : SyncTrustV1) (nowMs : Int64) : Content :=
  .json (lockOf vaultId trust nowMs).toJson 0

/-- A lock may be deleted by a client that has read it: before the client has written its own, if
the lease has expired, and afterwards if the holder is the client's own. -/
def MayDelete (nowMs : Int64) (v : ClientView) : Prop :=
  ∃ object lock, v.found = some (some object) ∧ LockIn object lock
    ∧ (v.held = none → lock.expiresAtMs ≤ nowMs)
    ∧ ∀ own : SyncS3WriteLockV1, v.held = some (.json own.toJson 0) → lock.holder = own.holder

/-- A head may be written by a client that has a lock, after it has read one head under it, with
which what it exported is not in conflict. -/
def MayPublish (ext : Externals) (v : ClientView) (object : Content) : Prop :=
  ∃ own before head bundle hash, ∃ newHead : SyncHeadV1, v.held = some own ∧ v.heads = [before]
    ∧ parseHead "failed parsing s3 sync head" before = .ok head
    ∧ v.bundle = some bundle ∧ computeManifestHash ext bundle = .ok hash
    ∧ shouldConflict head v.seenRemote v.lastAppliedManifest hash = false
    ∧ Content.ofCanonical newHead.toJson = .ok object ∧ newHead.manifestHash = hash

/-- How clients treat the lock and the head. -/
def clientConduct (ext : Externals) (nowMs : Int64) : Conduct Op Op.Ans ClientView where
  allowed
    | v, .s3Write key object =>
      key ≠ S3_LOCK_KEY ∧ (key = S3_HEAD_KEY → MayPublish ext v object)
    | v, .s3WriteIfAbsent key object =>
      key ≠ S3_HEAD_KEY ∧ (key = S3_LOCK_KEY → v.held = none
        ∧ ∃ vaultId trust, object = lockObject vaultId trust nowMs)
    | v, .s3Delete key => key ≠ S3_HEAD_KEY ∧ (key = S3_LOCK_KEY → MayDelete nowMs v)
    | _, _ => True
  next := ClientView.next

variable {ext : Externals} {host : Host} {target : String} {nowMs : Int64}

/-! ### Phases that leave the lock and the head alone -/

/-- The operations that leave both the lock and the head alone. -/
def KeepsBoth (o : Op) : Prop :=
  o.KeepsKey S3_LOCK_KEY ∧ o.KeepsKey S3_HEAD_KEY

theorem prepares_keepsBoth {o : Op} (h : o.Prepares) :
  KeepsBoth o
  := by
  use h.keepsKey lock_ne_conflict
  exact h.keepsKey head_ne_conflict

theorem finishPull_keepsBoth (source : Source) (head : SyncHeadV1) (bundleRelpath : String) :
  (finishPull source head bundleRelpath nowMs).AllOps KeepsBoth
  := (finishPull_keepsKey source head bundleRelpath S3_LOCK_KEY).and
    (finishPull_keepsKey source head bundleRelpath S3_HEAD_KEY)

theorem applyS3Pull_keepsBoth (mode : Option SyncAutoMergeMode) (strictAuth : Bool)
    (plan : S3PullPlan) :
  (applyS3Pull ext host target nowMs mode strictAuth plan).AllOps KeepsBoth
  := by
  apply Prog.AllOps.bind
  · apply (fetchS3Snapshot_prepares mode strictAuth plan).mono
    intro o
    exact prepares_keepsBoth
  · rintro ⟨head, dir⟩
    exact finishPull_keepsBoth _ _ _

/-- What leaves the lock and the head alone is allowed, and keeps what the client holds. -/
theorem follows_keepsBoth {α : Type} {p : SyncM α} {held : Option Content} {v : ClientView}
    (hp : p.AllOps KeepsBoth) (hv : v.held = held) :
  p.Follows (clientConduct ext nowMs) (fun _ w => w.held = held) v
  := by
  apply Prog.AllOps.follows (I := fun w : ClientView => w.held = held) hp _ _ hv
  · rintro w o - ⟨hlock, hhead⟩
    cases o with
    | s3Write key object => exact ⟨hlock, fun h => absurd h hhead⟩
    | s3WriteIfAbsent key object => exact ⟨hhead, fun h => absurd h hlock⟩
    | s3Delete key => exact ⟨hhead, fun h => absurd h hlock⟩
    | _ => trivial
  · rintro w o a hw ⟨hlock, -⟩
    exact (ClientView.held_next w a hlock).trans hw

theorem follows_prepares {α : Type} {p : SyncM α} {held : Option Content} {v : ClientView}
    (hp : p.AllOps Op.Prepares) (hv : v.held = held) :
  p.Follows (clientConduct ext nowMs) (fun _ w => w.held = held) v
  := follows_keepsBoth (hp.mono fun _ => prepares_keepsBoth) hv

/-- The operations that tell a client nothing it goes by, and leave the lock and the head alone. -/
def Unseen : Op → Prop
  | .readState _ | .exportBundle _ | .s3Read _ | .s3WriteIfAbsent _ _ | .s3Delete _ => False
  | .s3Write key _ => key ≠ S3_LOCK_KEY ∧ key ≠ S3_HEAD_KEY
  | _ => True

/-- A part of a call that tells a client nothing, and what comes after it. -/
theorem follows_unseen_bind {α β : Type} {p : SyncM α} {f : α → SyncM β}
    {Q : AppResult β → ClientView → Prop} {v : ClientView} (hp : p.AllOps Unseen)
    (herror : ∀ e, Q (.error e) v) (hok : ∀ a, (f a).Follows (clientConduct ext nowMs) Q v) :
  (p >>= f).Follows (clientConduct ext nowMs) Q v
  := by
  rw [follows_bind]
  have hsame : p.Follows (clientConduct ext nowMs) (fun _ w => w = v) v := by
    apply Prog.AllOps.follows (I := fun w : ClientView => w = v) hp _ _ rfl
    · rintro w o - ho
      cases o with
      | s3Write key object => exact ⟨ho.1, fun h => absurd h ho.2⟩
      | s3WriteIfAbsent _ _ => exact ho.elim
      | s3Delete _ => exact ho.elim
      | _ => trivial
    · rintro w o a rfl ho
      cases o with
      | s3Write key object => exact if_neg ho.2
      | readState _ | exportBundle _ | s3Read _ | s3WriteIfAbsent _ _ | s3Delete _ =>
        exact ho.elim
      | _ => rfl
  apply hsame.mono
  rintro r w rfl
  cases r with
  | error e => apply herror e
  | ok a => apply hok a

/-! ### The lock -/

/-- What an operation that may fail asks of its continuation. -/
theorem follows_s3Read {α : Type} {key : String} {f : Option Content → SyncM α}
    {Q : AppResult α → ClientView → Prop} {v : ClientView} (herror : ∀ e, Q (.error e) v)
    (hok : ∀ object, (f object).Follows (clientConduct ext nowMs) Q
      (v.next (.s3Read key) (.ok object))) :
  (s3Read key >>= f).Follows (clientConduct ext nowMs) Q v
  := by
  use trivial
  intro answer
  cases answer with
  | error e => apply herror e
  | ok object => apply hok object

theorem follows_readState {α : Type} {key : String} {f : Option String → SyncM α}
    {Q : AppResult α → ClientView → Prop} {v : ClientView} (herror : ∀ e, Q (.error e) v)
    (hok : ∀ value, (f value).Follows (clientConduct ext nowMs) Q
      (v.next (.readState key) (.ok value))) :
  (readState key >>= f).Follows (clientConduct ext nowMs) Q v
  := by
  use trivial
  intro answer
  cases answer with
  | error e => apply herror e
  | ok value => apply hok value

theorem follows_exportBundle {α : Type} {opts : Export.ExportOptions} {f : Dir Content → SyncM α}
    {Q : AppResult α → ClientView → Prop} {v : ClientView} (herror : ∀ e, Q (.error e) v)
    (hok : ∀ bundle, (f bundle).Follows (clientConduct ext nowMs) Q
      { v with bundle := some bundle }) :
  (exportBundle opts >>= f).Follows (clientConduct ext nowMs) Q v
  := by
  use trivial
  intro answer
  cases answer with
  | error e => apply herror e
  | ok bundle => apply hok bundle

theorem follows_readS3Lock {α : Type} {f : Option SyncS3WriteLockV1 → SyncM α}
    {Q : AppResult α → ClientView → Prop} {v : ClientView}
    (herror : ∀ e w, w.held = v.held → Q (.error e) w)
    (hok : ∀ object lock, parseLock target object = .ok lock →
      (f lock).Follows (clientConduct ext nowMs) Q { v with found := some object }) :
  (readS3Lock target >>= f).Follows (clientConduct ext nowMs) Q v
  := by
  rw [readS3Lock, Prog.bind_assoc]
  apply follows_s3Read
  · intro e
    apply herror e v rfl
  · intro object
    cases hparse : parseLock target object with
    | error e =>
      rw [Prog.ofExcept_error, Prog.fail_bind, Prog.follows_fail]
      apply herror
      rfl
    | ok lock => apply hok object lock hparse

/-- A lock that was parsed is the one in its object. -/
theorem lockIn_of_parseLock {object : Option Content} {lock : SyncS3WriteLockV1}
    (h : parseLock target object = .ok (some lock)) :
  ∃ bytes, object = some bytes ∧ LockIn bytes lock
  := by
  cases object with
  | none => cases h
  | some bytes =>
    use bytes, rfl
    simp only [parseLock, AppResult.bind_eq_ok, mapErr_eq_ok] at h
    obtain ⟨lock', hlock, h⟩ := h
    cases h
    exact hlock

/-- What a client goes by once it has tried to take the lock. -/
def AfterAcquire (v : ClientView) (vaultId : String) (trust : SyncTrustV1) (nowMs : Int64) :
    AppResult SyncS3WriteLockV1 → ClientView → Prop
  | .error _, _ => True
  | .ok lock, w =>
    lock = lockOf vaultId trust nowMs
      ∧ ∃ found, w = { v with held := some (lockObject vaultId trust nowMs), found, heads := [] }

theorem follows_createLock (vaultId : String) (trust : SyncTrustV1) {v w : ClientView}
    (hv : v.held = none) (hw : ∃ found heads, w = { v with found, heads }) :
  (createLock target (lockOf vaultId trust nowMs)).Follows (clientConduct ext nowMs)
    (AfterAcquire v vaultId trust nowMs) w
  := by
  obtain ⟨found, heads, rfl⟩ := hw
  rw [createLock, SyncS3WriteLockV1.ofCanonical_toJson, Prog.ofExcept_ok, Prog.ret_bind]
  refine ⟨⟨by decide, fun _ => ⟨hv, vaultId, trust, rfl⟩⟩, ?_⟩
  intro answer
  cases answer with
  | error e => trivial
  | ok created =>
    cases created with
    | true =>
      use rfl, none
      rfl
    | false =>
      apply follows_readS3Lock
      · intro e w _
        trivial
      · intro object lock _
        trivial

theorem follows_acquireS3Lock (vaultId : String) (trust : SyncTrustV1) {v : ClientView}
    (hv : v.held = none) :
  (acquireS3Lock target vaultId trust nowMs).Follows (clientConduct ext nowMs)
    (AfterAcquire v vaultId trust nowMs) v
  := by
  apply follows_readS3Lock
  · intro e w _
    trivial
  · intro object lock hparse
    cases lock with
    | none => exact follows_createLock vaultId trust hv ⟨some object, v.heads, rfl⟩
    | some lock =>
      obtain ⟨bytes, rfl, hlock⟩ := lockIn_of_parseLock hparse
      rw [clearExpiredLock]
      split_ifs with hheld
      · trivial
      · have hexpired : lock.expiresAtMs ≤ nowMs := Int64.not_lt.mp hheld
        refine ⟨⟨by decide, fun _ => ⟨bytes, lock, rfl, hlock, fun _ => hexpired, ?_⟩⟩, ?_⟩
        · intro own hown
          rw [hv] at hown
          cases hown
        · intro answer
          cases answer with
          | error e => trivial
          | ok =>
            apply follows_createLock vaultId trust hv
            use none, []
            simp only [clientConduct, ClientView.next, if_true, hv]

theorem follows_releaseS3Lock {vaultId : String} {trust : SyncTrustV1} {v : ClientView}
    (hv : v.held = some (lockObject vaultId trust nowMs)) :
  (releaseS3Lock target (lockOf vaultId trust nowMs).holder).Follows (clientConduct ext nowMs)
    (fun _ _ => True) v
  := by
  apply follows_readS3Lock
  · intro e w _
    trivial
  · intro object lock hparse
    cases lock with
    | none => trivial
    | some lock =>
      obtain ⟨bytes, rfl, hlock⟩ := lockIn_of_parseLock hparse
      rw [deleteOwnLock]
      split_ifs with hholder
      · refine ⟨⟨by decide, fun _ => ⟨bytes, lock, rfl, hlock, ?_, ?_⟩⟩, ?_⟩
        · intro hnone
          rw [hv] at hnone
          cases hnone
        · intro own hown
          obtain rfl : lockOf vaultId trust nowMs = own :=
            eq_of_object_eq (Option.some.inj (hv.symm.trans hown))
          exact hholder
        · intro answer
          cases answer <;> trivial
      · trivial

/-- A call under the lock keeps to the conduct if its body does so with the lock in hand. -/
theorem follows_withS3Lock {α : Type} {vaultId : String} {trust : SyncTrustV1} {f : SyncM α}
    {v : ClientView} (hv : v.held = none)
    (hf : ∀ found, f.Follows (clientConduct ext nowMs)
      (fun _ w => w.held = some (lockObject vaultId trust nowMs))
      { v with held := some (lockObject vaultId trust nowMs), found, heads := [] }) :
  (withS3Lock target vaultId trust nowMs f).Follows (clientConduct ext nowMs) (fun _ _ => True) v
  := by
  rw [withS3Lock, follows_bind]
  apply (follows_acquireS3Lock vaultId trust hv).mono
  intro r w hw
  cases r with
  | error e => trivial
  | ok lock =>
    obtain ⟨rfl, found, rfl⟩ := hw
    rw [onwards_ok, follows_bind, follows_attempt]
    apply (hf found).mono
    intro r w hheld
    rw [onwards_ok, follows_bind, follows_attempt]
    apply (follows_releaseS3Lock hheld).mono
    intro r' w' _
    rw [onwards_ok, Prog.follows_ofExcept]
    trivial

/-! ### Pushes -/

/-- What a client goes by once it has planned its push. -/
def Planned (ext : Externals) (plan : S3PushPlan) (v : ClientView) : Prop :=
  v.held = none ∧ v.seenRemote = plan.seenRemote
    ∧ v.lastAppliedManifest = plan.lastAppliedManifest ∧ v.bundle = some plan.localBundle
    ∧ computeManifestHash ext plan.localBundle = .ok plan.localManifestHash

/-- A part of a call that leaves the lock and the head alone, and what comes after it. -/
theorem follows_prepares_bind {α β : Type} {p : SyncM α} {f : α → SyncM β} {held : Option Content}
    {Q : AppResult β → ClientView → Prop} {v : ClientView} (hp : p.AllOps Op.Prepares)
    (hv : v.held = held) (herror : ∀ e w, w.held = held → Q (.error e) w)
    (hok : ∀ a w, w.held = held → (f a).Follows (clientConduct ext nowMs) Q w) :
  (p >>= f).Follows (clientConduct ext nowMs) Q v
  := by
  rw [follows_bind]
  apply (follows_prepares hp hv).mono
  intro r w hw
  cases r with
  | error e => apply herror e w hw
  | ok a => apply hok a w hw

theorem follows_readHeadS3 {α : Type} {f : Option SyncHeadV1 → SyncM α}
    {Q : AppResult α → ClientView → Prop} {v : ClientView}
    (herror : ∀ e w, w.held = v.held → Q (.error e) w)
    (hok : ∀ object head, parseHead "failed parsing s3 sync head" object = .ok head →
      (f head).Follows (clientConduct ext nowMs) Q (v.next (.s3Read S3_HEAD_KEY) (.ok object))) :
  (readHeadS3 >>= f).Follows (clientConduct ext nowMs) Q v
  := by
  rw [readHeadS3, Prog.bind_assoc]
  apply follows_s3Read
  · intro e
    apply herror e v rfl
  · intro object
    cases hparse : parseHead "failed parsing s3 sync head" object with
    | error e =>
      rw [Prog.ofExcept_error, Prog.fail_bind, Prog.follows_fail]
      apply herror
      rw [ClientView.next_readHead]
    | ok head => apply hok object head hparse

theorem checkRemoteTrust_unseen (head : Option SyncHeadV1) (trust : SyncTrustV1) :
  (checkRemoteTrust ext head trust).AllOps Unseen
  := by
  unfold checkRemoteTrust
  repeat' first | apply Prog.AllOps.bind | intro _
  all_goals simp [readDb, Unseen]

/-- A push goes on past the test for a conflict only where there is none. -/
theorem follows_refuseDivergedS3 {α : Type} {plan : S3PushPlan} {head : Option SyncHeadV1}
    {f : Unit → SyncM α} {Q : AppResult α → ClientView → Prop} {v : ClientView}
    (herror : ∀ e w, w.held = v.held → Q (.error e) w)
    (hok : shouldConflict head plan.seenRemote plan.lastAppliedManifest plan.localManifestHash
      = false → (f ()).Follows (clientConduct ext nowMs) Q v) :
  (refuseDivergedS3 ext target nowMs plan head >>= f).Follows (clientConduct ext nowMs) Q v
  := by
  rw [refuseDivergedS3]
  split_ifs with hconflict
  · rw [Prog.bind_assoc]
    apply follows_prepares_bind (createConflictArtifactS3_prepares _ _ _ _ _) rfl herror
    intro key w hw
    apply herror _ w hw
  · apply hok (Bool.eq_false_iff.mpr hconflict)

theorem follows_prepareS3Push {v : ClientView} (hv : v.held = none) :
  (prepareS3Push ext host target nowMs).Follows (clientConduct ext nowMs)
    (fun r w => ∀ plan, r = .ok plan → Planned ext plan w) v
  := by
  have herror (e : AppError) (w : ClientView) (_ : w.held = none) (plan : S3PushPlan)
      (h : Except.error e = (.ok plan : AppResult S3PushPlan)) : Planned ext plan w := by
    cases h
  rw [prepareS3Push]
  apply follows_prepares_bind (by simp [ensureSyncTables, Op.Prepares, Op.Reads]) hv herror
  intro _ v hv
  apply follows_prepares_bind (by simp [vaultOpen, Op.Prepares, Op.Reads]) hv herror
  intro vault v hv
  apply follows_prepares_bind (Prog.allOps_ofExcept _) hv herror
  intro trust v hv
  apply follows_prepares_bind (by simp [readDb, Op.Prepares, Op.Reads]) hv herror
  intro db v hv
  apply follows_prepares_bind (Prog.allOps_ofExcept _) hv herror
  intro author v hv
  apply follows_readState
  · intro e
    apply herror e v hv
  intro seen
  rw [ClientView.next_seenRemote]
  apply follows_readState
  · intro e
    apply herror
    exact hv
  intro lastApplied
  rw [ClientView.next_lastAppliedManifest, buildLocalSnapshotZip, Prog.bind_assoc]
  apply follows_exportBundle
  · intro e
    apply herror
    exact hv
  intro bundle
  rw [Prog.bind_assoc, follows_bind, Prog.follows_ofExcept]
  cases hhash : computeManifestHash ext bundle with
  | error e =>
    rw [onwards_error]
    apply herror
    exact hv
  | ok hash =>
    rw [onwards_ok]
    apply follows_readHeadS3
    · intro e w hw
      apply herror e w (hw.trans hv)
    · intro object head _
      rw [ClientView.next_readHead]
      apply follows_unseen_bind (checkRemoteTrust_unseen _ _)
      · intro e
        apply herror
        exact hv
      · rintro ⟨⟩
        apply follows_refuseDivergedS3
        · intro e w hw
          apply herror e w (hw.trans hv)
        · rintro - plan ⟨⟩
          exact ⟨hv, rfl, rfl, rfl, hhash⟩

/-- Under the lock a push writes a head it may write. -/
theorem follows_publishS3Push {plan : S3PushPlan} {own : Content} {v : ClientView}
    (hplan : Planned ext plan { v with held := none }) (hv : v.held = some own)
    (hheads : v.heads = []) :
  (publishS3Push ext host target nowMs plan).Follows (clientConduct ext nowMs)
    (fun _ w => w.held = some own) v
  := by
  obtain ⟨-, hseen, hlast, hbundle, hhash⟩ := hplan
  rw [publishS3Push, composeS3Push, Prog.bind_assoc]
  apply follows_readHeadS3
  · intro e w hw
    exact hw.trans hv
  intro before head hparse
  rw [ClientView.next_readHead, if_pos (by rw [hv]; rfl), hheads, Prog.bind_assoc]
  apply follows_unseen_bind (checkRemoteTrust_unseen _ _)
  · intro e
    exact hv
  rintro ⟨⟩
  rw [Prog.bind_assoc]
  apply follows_refuseDivergedS3
  · intro e w hw
    exact hw.trans hv
  intro hagrees
  rw [Prog.bind_assoc]
  apply follows_unseen_bind (by simp [readZip, Unseen])
  · intro e
    exact hv
  intro zip
  rw [Prog.bind_assoc]
  apply follows_unseen_bind (by simp [s3Write, Unseen, snapshotKey_ne_lock, snapshotKey_ne_head])
  · intro e
    exact hv
  intro _
  rw [Prog.bind_assoc]
  apply follows_unseen_bind (by simp [readDb, Unseen])
  · intro e
    exact hv
  intro db
  rw [follows_bind, Prog.follows_ofExcept]
  cases hsigned : signHead ext host db (snapshotIdForManifest ext plan.localManifestHash nowMs)
      plan.localManifestHash nowMs plan.localTrust plan.localAuthor with
  | error e => exact hv
  | ok newHead =>
    have hsame : newHead.manifestHash = plan.localManifestHash := by
      obtain ⟨signature, rfl⟩ := signHead_eq_ok hsigned
      rfl
    rw [onwards_ok, finishPush, writeHeadS3, Prog.bind_assoc, follows_bind, Prog.follows_ofExcept]
    cases hobject : Content.ofCanonical newHead.toJson with
    | error e => exact hv
    | ok object =>
      rw [onwards_ok]
      refine ⟨⟨by decide, fun _ => ?_⟩, ?_⟩
      · exact ⟨own, before, head, plan.localBundle, plan.localManifestHash, newHead, hv, rfl, hparse,
          hbundle, hhash, hseen ▸ hlast ▸ hagrees, hobject, hsame⟩
      · intro answer
        have hnext (w : ClientView) (hw : w.held = some own) :
            (recordSync "push" newHead.snapshotId (snapshotKey newHead.snapshotId)
              newHead.manifestHash nowMs >>= fun _ => pure (pushResult newHead)).Follows
              (clientConduct ext nowMs) (fun _ w => w.held = some own) w := by
          apply follows_keepsBoth _ hw
          apply Prog.AllOps.bind
          · apply (recordSync_records _ _ _ _).mono
            intro o ho
            exact ⟨records_keepsKey _ ho, records_keepsKey _ ho⟩
          · simp
        cases answer with
        | error e => exact hv
        | ok =>
          refine hnext _ ?_
          exact hv

/-! ### Calls -/

/-- A call of a client: a push, or a pull in one of its modes. -/
inductive ClientCall
  | push (nowMs : Int64)
  | pull (nowMs : Int64) (autoMergeMode : Option SyncAutoMergeMode) (strictAuth : Bool)

namespace ClientCall

/-- The time a call is started at. -/
def startMs : ClientCall → Int64
  | .push nowMs => nowMs
  | .pull nowMs _ _ => nowMs

/-- The call, with the head it returns. -/
def prog (ext : Externals) (host : Host) (target : String) : ClientCall → SyncM SyncHeadV1
  | .push nowMs => do
    let result ← syncPushS3Target ext host target nowMs
    pure result.remoteHead
  | .pull nowMs autoMergeMode strictAuth => do
    let result ← syncPullS3Target ext host target nowMs autoMergeMode strictAuth
    pure result.remoteHead

end ClientCall

theorem follows_syncPushS3Target :
  (syncPushS3Target ext host target nowMs).Follows (clientConduct ext nowMs) (fun _ _ => True)
    ClientView.start
  := by
  rw [syncPushS3Target, follows_bind]
  apply (follows_prepareS3Push rfl).mono
  intro r v hplan
  cases r with
  | error e => trivial
  | ok plan =>
    obtain ⟨hv, hplanned⟩ := hplan plan rfl
    apply follows_withS3Lock hv
    intro found
    exact follows_publishS3Push ⟨rfl, hplanned⟩ rfl rfl

theorem follows_syncPullS3Target (mode : Option SyncAutoMergeMode) (strictAuth : Bool) :
  (syncPullS3Target ext host target nowMs mode strictAuth).Follows (clientConduct ext nowMs)
    (fun _ _ => True) ClientView.start
  := by
  rw [syncPullS3Target]
  apply follows_prepares_bind (prepareS3Pull_prepares mode strictAuth) rfl
  · intro e w _
    trivial
  · intro plan v hv
    apply follows_withS3Lock hv
    intro found
    exact follows_keepsBoth (applyS3Pull_keepsBoth mode strictAuth plan) rfl

/-- Every call keeps to the conduct of its time. -/
theorem ClientCall.follows (call : ClientCall) :
  (call.prog ext host target).Follows (clientConduct ext call.startMs) (fun _ _ => True)
    ClientView.start
  := by
  cases call with
  | push nowMs =>
    rw [prog, follows_bind]
    apply follows_syncPushS3Target.mono
    intro r w _
    cases r <;> trivial
  | pull nowMs mode strictAuth =>
    rw [prog, follows_bind]
    apply (follows_syncPullS3Target mode strictAuth).mono
    intro r w _
    cases r <;> trivial

end Sync

end KnowledgeCore
