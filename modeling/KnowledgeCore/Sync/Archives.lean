import KnowledgeCore.Sync.SharedHead

/-!
# The archives of the heads

A push uploads the archive of its snapshot before it writes the head, and no client removes an
archive. In whatever order the operations of the clients are carried out, and whichever of them
fail, the head names an archive that is there, and so does every head that a client has read.
-/

namespace KnowledgeCore

namespace Sync

open CanonJson (append_separator_inj_last notMem_toString)
open Prog (Conduct Interleaved own follows_bind follows_attempt onwards_ok onwards_error)

/-- What an operation may do to the objects, where archiving a bundle gives the archive of it. -/
def ArchiveEffect : Prog.Effect Op Op.Ans (Table Content) := fun o bucket answer after =>
  BucketEffect o bucket answer after
    ∧ ∀ bundle zip, (⟨o, answer⟩ : Event Op Op.Ans) = ⟨.readZip bundle, .ok zip⟩ →
      zip = Export.createDeterministicZip bundle

theorem archiveEffect_perform (ext : Externals) (host : Host) (o : Op) (s : Site) :
  ArchiveEffect o s.bucket (perform ext host o s).1 (perform ext host o s).2.bucket
  := by
  use bucketEffect_perform ext host o s
  intro bundle zip h
  cases h
  rfl

/-! ### What a client goes by -/

/-- What a client has found: the archives it was given of its bundles, and the keys it has written
objects under. -/
structure ArchiveView where
  zips : List (Dir Content × Content)
  uploads : List String

namespace ArchiveView

def start : ArchiveView where
  zips := []
  uploads := []

def next : ArchiveView → (o : Op) → o.Ans → ArchiveView
  | v, .readZip bundle, .ok zip => { v with zips := (bundle, zip) :: v.zips }
  | v, .s3Write key _, .ok () => { v with uploads := key :: v.uploads }
  | v, _, _ => v

end ArchiveView

/-- The operations that leave the head and the archives alone. -/
def KeepsArchives (o : Op) : Prop :=
  o.KeepsKey S3_HEAD_KEY ∧ ∀ id, o.KeepsKey (snapshotKey id)

/-- A snapshot that a head or a key names: that of a manifest, at a time. -/
def SnapshotOf (ext : Externals) (id manifestHash : String) : Prop :=
  ∃ nowMs, id = snapshotIdForManifest ext manifestHash nowMs

/-- An object may be written under the key of a snapshot if it is what the client was given as the
archive of a bundle, and the snapshot is one of the manifest of the bundle. -/
def MayUpload (ext : Externals) (v : ArchiveView) (id : String) (object : Content) : Prop :=
  ∃ bundle hash, (bundle, object) ∈ v.zips ∧ computeManifestHash ext bundle = .ok hash
    ∧ SnapshotOf ext id hash

/-- A head may be written once the archive of its snapshot is uploaded. -/
def MayName (ext : Externals) (v : ArchiveView) (object : Content) : Prop :=
  ∃ head : SyncHeadV1, object = .json head.toJson 0 ∧ snapshotKey head.snapshotId ∈ v.uploads
    ∧ SnapshotOf ext head.snapshotId head.manifestHash

/-- How clients treat the head and the archives. -/
def archiveConduct (ext : Externals) : Conduct Op Op.Ans ArchiveView where
  allowed
    | v, .s3Write key object =>
      (key = S3_HEAD_KEY → MayName ext v object)
        ∧ ∀ id, key = snapshotKey id → MayUpload ext v id object
    | _, .s3WriteIfAbsent key object => KeepsArchives (.s3WriteIfAbsent key object)
    | _, .s3Delete key => KeepsArchives (.s3Delete key)
    | _, _ => True
  next := ArchiveView.next

variable {ext : Externals} {host : Host} {target : String} {nowMs : Int64}

/-! ### Calls -/

/-- What leaves the head and the archives alone is allowed whatever the client goes by. -/
theorem follows_keepsArchives {α : Type} {p : SyncM α} {v : ArchiveView}
    (hp : p.AllOps KeepsArchives) :
  p.Follows (archiveConduct ext) (fun _ _ => True) v
  := by
  apply Prog.AllOps.follows (I := fun _ => True) hp _ (fun _ _ _ _ _ => trivial) trivial
  rintro w o - ho
  cases o with
  | s3Write key object => exact ⟨fun h => absurd h ho.1, fun id h => absurd h (ho.2 id)⟩
  | s3WriteIfAbsent _ _ | s3Delete _ => exact ho
  | _ => trivial

/-- A part of a call that leaves the head and the archives alone, and what comes after it. -/
theorem follows_keepsArchives_bind {α β : Type} {p : SyncM α} {f : α → SyncM β} {v : ArchiveView}
    (hp : p.AllOps KeepsArchives)
    (hok : ∀ a w, (f a).Follows (archiveConduct ext) (fun _ _ => True) w) :
  (p >>= f).Follows (archiveConduct ext) (fun _ _ => True) v
  := by
  rw [follows_bind]
  apply (follows_keepsArchives hp).mono
  intro r w _
  cases r with
  | error e => trivial
  | ok a => apply hok a w

theorem prepares_keepsArchives {o : Op} (h : o.Prepares) :
  KeepsArchives o
  := by
  use h.keepsKey head_ne_conflict
  intro id
  exact h.keepsKey (snapshotKey_ne_conflict id)

theorem reads_keepsArchives {α : Type} {p : SyncM α} (h : p.AllOps Op.Reads) :
  p.AllOps KeepsArchives
  := (reads_prepares h).mono fun _ => prepares_keepsArchives

theorem lock_ne_head :
  S3_LOCK_KEY ≠ S3_HEAD_KEY
  := by decide

/-- The lock is neither the head nor an archive. -/
theorem readS3Lock_keepsArchives :
  (readS3Lock target).AllOps KeepsArchives
  := by
  apply Prog.AllOps.bind
  · simp [s3Read, KeepsArchives, Op.KeepsKey]
  · intro object
    apply Prog.allOps_ofExcept

theorem keepsArchives_delete :
  (s3Delete S3_LOCK_KEY).AllOps KeepsArchives
  := by
  have hlock : KeepsArchives (.s3Delete S3_LOCK_KEY) :=
    ⟨lock_ne_head, fun id => (snapshotKey_ne_lock id).symm⟩
  simp [s3Delete, hlock]

theorem acquireS3Lock_keepsArchives (vaultId : String) (trust : SyncTrustV1) :
  (acquireS3Lock target vaultId trust nowMs).AllOps KeepsArchives
  := by
  apply Prog.AllOps.bind readS3Lock_keepsArchives
  intro found
  apply Prog.AllOps.bind
  · cases found with
    | none => trivial
    | some lock =>
      rw [clearExpiredLock]
      split
      · trivial
      · apply keepsArchives_delete
  · intro _
    apply Prog.AllOps.bind (Prog.allOps_ofExcept _)
    intro bytes
    apply Prog.AllOps.bind
    · have hlock : KeepsArchives (.s3WriteIfAbsent S3_LOCK_KEY bytes) :=
        ⟨lock_ne_head, fun id => (snapshotKey_ne_lock id).symm⟩
      simp [s3WriteIfAbsent, hlock]
    · intro created
      cases created with
      | true => trivial
      | false =>
        apply Prog.AllOps.bind readS3Lock_keepsArchives
        intro existing
        trivial

theorem releaseS3Lock_keepsArchives (holder : String) :
  (releaseS3Lock target holder).AllOps KeepsArchives
  := by
  apply Prog.AllOps.bind readS3Lock_keepsArchives
  intro found
  cases found with
  | none => trivial
  | some existing =>
    rw [deleteOwnLock]
    split
    · apply keepsArchives_delete
    · trivial

theorem follows_withS3Lock_archives {α : Type} {vaultId : String} {trust : SyncTrustV1}
    {f : SyncM α} {v : ArchiveView}
    (hf : ∀ w, f.Follows (archiveConduct ext) (fun _ _ => True) w) :
  (withS3Lock target vaultId trust nowMs f).Follows (archiveConduct ext) (fun _ _ => True) v
  := by
  apply follows_keepsArchives_bind (acquireS3Lock_keepsArchives vaultId trust)
  intro lock w
  rw [follows_bind, follows_attempt]
  apply (hf w).mono
  intro r w _
  rw [onwards_ok]
  apply follows_keepsArchives_bind
  · exact (releaseS3Lock_keepsArchives lock.holder).attempt
  · intro result w
    rw [Prog.follows_ofExcept]
    trivial

/-- What archiving a bundle asks of its continuation. -/
theorem follows_readZip {α : Type} {bundle : Dir Content} {f : Content → SyncM α} {v : ArchiveView}
    (hok : ∀ zip, (f zip).Follows (archiveConduct ext) (fun _ _ => True)
      { v with zips := (bundle, zip) :: v.zips }) :
  (readZip bundle >>= f).Follows (archiveConduct ext) (fun _ _ => True) v
  := by
  use trivial
  intro answer
  cases answer with
  | error e => trivial
  | ok zip => apply hok zip

/-- What writing an object asks of the client and of the continuation. -/
theorem follows_s3Write {α : Type} {key : String} {object : Content} {f : Unit → SyncM α}
    {v : ArchiveView} (hhead : key = S3_HEAD_KEY → MayName ext v object)
    (hupload : ∀ id, key = snapshotKey id → MayUpload ext v id object)
    (hok : (f ()).Follows (archiveConduct ext) (fun _ _ => True)
      { v with uploads := key :: v.uploads }) :
  (s3Write key object >>= f).Follows (archiveConduct ext) (fun _ _ => True) v
  := by
  use ⟨hhead, hupload⟩
  intro answer
  cases answer with
  | error e => trivial
  | ok => apply hok

theorem follows_readDb {α : Type} {f : Db → SyncM α} {v : ArchiveView}
    (hok : ∀ db, (f db).Follows (archiveConduct ext) (fun _ _ => True) v) :
  (readDb >>= f).Follows (archiveConduct ext) (fun _ _ => True) v
  := by
  use trivial
  intro answer
  cases answer with
  | error e => trivial
  | ok db => apply hok db

/-- A push uploads the archive of its bundle and then writes a head that names it. -/
theorem follows_publishS3Push_archives {plan : S3PushPlan} {v : ArchiveView}
    (hhash : computeManifestHash ext plan.localBundle = .ok plan.localManifestHash) :
  (publishS3Push ext host target nowMs plan).Follows (archiveConduct ext) (fun _ _ => True) v
  := by
  have hsnapshot : SnapshotOf ext (snapshotIdForManifest ext plan.localManifestHash nowMs)
      plan.localManifestHash := ⟨nowMs, rfl⟩
  rw [publishS3Push, composeS3Push, Prog.bind_assoc]
  apply follows_keepsArchives_bind (reads_keepsArchives readHeadS3_reads)
  intro head v
  rw [Prog.bind_assoc]
  apply follows_keepsArchives_bind (reads_keepsArchives (checkRemoteTrust_reads _ _))
  intro _ v
  rw [Prog.bind_assoc]
  apply follows_keepsArchives_bind ((refuseDivergedS3_prepares _ _).mono fun _ =>
    prepares_keepsArchives)
  intro _ v
  rw [Prog.bind_assoc]
  apply follows_readZip
  intro zip
  rw [Prog.bind_assoc]
  apply follows_s3Write
  · intro hkey
    exact absurd hkey (snapshotKey_ne_head _)
  · intro id hkey
    obtain rfl := snapshotKey_injective hkey
    exact ⟨plan.localBundle, plan.localManifestHash, List.mem_cons_self, hhash, hsnapshot⟩
  rw [Prog.bind_assoc]
  apply follows_readDb
  intro db
  rw [follows_bind, Prog.follows_ofExcept]
  cases hsigned : signHead ext host db (snapshotIdForManifest ext plan.localManifestHash nowMs)
      plan.localManifestHash nowMs plan.localTrust plan.localAuthor with
  | error e => trivial
  | ok newHead =>
    obtain ⟨signature, rfl⟩ := signHead_eq_ok hsigned
    rw [onwards_ok, finishPush, writeHeadS3, SyncHeadV1.ofCanonical_toJson, Prog.ofExcept_ok,
      Prog.ret_bind]
    apply follows_s3Write
    · intro _
      exact ⟨_, rfl, List.mem_cons_self, hsnapshot⟩
    · intro id hkey
      exact absurd hkey.symm (snapshotKey_ne_head id)
    apply follows_keepsArchives
    apply Prog.AllOps.bind
    · apply (recordSync_records _ _ _ _).mono
      intro o ho
      exact ⟨records_keepsKey _ ho, fun id => records_keepsKey _ ho⟩
    · simp

theorem follows_syncPushS3Target_archives {v : ArchiveView} :
  (syncPushS3Target ext host target nowMs).Follows (archiveConduct ext) (fun _ _ => True) v
  := by
  rw [syncPushS3Target, follows_bind]
  have hplanned : (prepareS3Push ext host target nowMs).Follows (clientConduct ext nowMs)
      (fun r w => ∀ plan, r = .ok plan → Planned ext plan w) ClientView.start :=
    follows_prepareS3Push rfl
  apply ((follows_keepsArchives (prepareS3Push_prepares.mono fun _ =>
    prepares_keepsArchives)).and hplanned).mono
  rintro r w ⟨-, _, hplan⟩
  cases r with
  | error e => trivial
  | ok plan =>
    apply follows_withS3Lock_archives
    intro w
    exact follows_publishS3Push_archives (hplan plan rfl).2.2.2.2

theorem follows_syncPullS3Target_archives {mode : Option SyncAutoMergeMode} {strictAuth : Bool}
    {v : ArchiveView} :
  (syncPullS3Target ext host target nowMs mode strictAuth).Follows (archiveConduct ext)
    (fun _ _ => True) v
  := by
  rw [syncPullS3Target]
  apply follows_keepsArchives_bind
  · exact (prepareS3Pull_prepares mode strictAuth).mono fun _ => prepares_keepsArchives
  · intro plan w
    apply follows_withS3Lock_archives
    intro w
    apply follows_keepsArchives
    apply Prog.AllOps.bind
    · exact (fetchS3Snapshot_prepares mode strictAuth plan).mono fun _ => prepares_keepsArchives
    · rintro ⟨head, dir⟩
      apply (finishPull_keepsKey _ _ _ _).and
      apply Prog.AllOps.forall
      intro id
      apply finishPull_keepsKey

theorem ClientCall.follows_archives (call : ClientCall) :
  (call.prog ext host target).Follows (archiveConduct ext) (fun _ _ => True) ArchiveView.start
  := by
  cases call with
  | push nowMs =>
    rw [prog, follows_bind]
    apply follows_syncPushS3Target_archives.mono
    intro r w _
    cases r <;> trivial
  | pull nowMs mode strictAuth =>
    rw [prog, follows_bind]
    apply follows_syncPullS3Target_archives.mono
    intro r w _
    cases r <;> trivial

/-! ### One step -/

/-- The archive of a bundle, for a snapshot of the manifest of the bundle. -/
def IsArchive (ext : Externals) (id : String) (object : Content) : Prop :=
  ∃ bundle hash, object = Export.createDeterministicZip bundle
    ∧ computeManifestHash ext bundle = .ok hash ∧ SnapshotOf ext id hash

/-- The archives that are there are those of the snapshots they are kept under. -/
def HoldsArchives (ext : Externals) (bucket : Table Content) : Prop :=
  ∀ id object, bucket[snapshotKey id]? = some object → IsArchive ext id object

/-- Two manifests that have one snapshot. -/
def Collide (ext : Externals) (hash hash' : String) : Prop :=
  hash ≠ hash' ∧ ∃ id, SnapshotOf ext id hash ∧ SnapshotOf ext id hash'

/-- A head whose snapshot has an archive that is there: that of a bundle with the manifest the head
names, unless the manifest of the bundle collides with it. -/
def NamesArchive (ext : Externals) (bucket : Table Content) (object : Content) : Prop :=
  ∃ (head : SyncHeadV1) (bundle : Dir Content) (hash : String), object = .json head.toJson 0
    ∧ SnapshotOf ext head.snapshotId head.manifestHash
    ∧ bucket[snapshotKey head.snapshotId]? = some (Export.createDeterministicZip bundle)
    ∧ computeManifestHash ext bundle = .ok hash
    ∧ (hash = head.manifestHash ∨ Collide ext hash head.manifestHash)

/-- What is kept of the objects of a remote target: they hold archives, and the head names one. -/
structure Complete (ext : Externals) (bucket : Table Content) : Prop where
  archives : HoldsArchives ext bucket
  head : ∀ object, bucket[S3_HEAD_KEY]? = some object → NamesArchive ext bucket object

variable {bucket after : Table Content} {v : ArchiveView} {o : Op} {a : o.Ans}

theorem namesArchive_of_mem (h : HoldsArchives ext bucket) {head : SyncHeadV1}
    (hsnapshot : SnapshotOf ext head.snapshotId head.manifestHash)
    (hmem : snapshotKey head.snapshotId ∈ bucket) :
  NamesArchive ext bucket (.json head.toJson 0)
  := by
  obtain ⟨object, hobject⟩ := Option.isSome_iff_exists.mp
    (Std.ExtTreeMap.mem_iff_isSome_getElem?.mp hmem)
  obtain ⟨bundle, hash, rfl, hhash, hid⟩ := h _ _ hobject
  use head, bundle, hash, rfl, hsnapshot, hobject, hhash
  by_cases hsame : hash = head.manifestHash
  · left
    exact hsame
  · right
    exact ⟨hsame, head.snapshotId, hid, hsnapshot⟩

/-- A head that names an archive names one as long as no archive goes. -/
theorem NamesArchive.kept {object : Content} (h : NamesArchive ext bucket object)
    (hafter : HoldsArchives ext after)
    (hkept : ∀ id, snapshotKey id ∈ bucket → snapshotKey id ∈ after) :
  NamesArchive ext after object
  := by
  obtain ⟨head, bundle, hash, rfl, hsnapshot, harchive, -⟩ := h
  apply namesArchive_of_mem hafter hsnapshot
  apply hkept
  apply Std.ExtTreeMap.mem_iff_isSome_getElem?.mpr
  rw [harchive]
  rfl

/-- What a client goes by is so: what it was given of a bundle is the archive of it, and what it has
uploaded is there. -/
structure ArchiveView.Sound (v : ArchiveView) (bucket : Table Content) : Prop where
  zips : ∀ bundle zip, (bundle, zip) ∈ v.zips → zip = Export.createDeterministicZip bundle
  uploads : ∀ id, snapshotKey id ∈ v.uploads → snapshotKey id ∈ bucket

/-- An operation that is allowed replaces archives by archives only, and removes none. -/
theorem HoldsArchives.step (h : HoldsArchives ext bucket) (hv : v.Sound bucket)
    (hallowed : (archiveConduct ext).allowed v o) (hop : BucketEffect o bucket a after) :
  HoldsArchives ext after ∧ ∀ id, snapshotKey id ∈ bucket → snapshotKey id ∈ after
  := by
  by_cases hkeeps : KeepsArchives o
  · constructor
    · intro id object hobject
      rw [hop.keeps (hkeeps.2 id)] at hobject
      exact h id object hobject
    · intro id hmem
      rwa [Std.ExtTreeMap.mem_iff_isSome_getElem?, hop.keeps (hkeeps.2 id),
        ← Std.ExtTreeMap.mem_iff_isSome_getElem?]
  · cases o with
    | s3Write key object =>
      obtain rfl | ⟨-, rfl⟩ := hop
      · constructor
        · intro id object' hobject
          rw [Std.ExtTreeMap.getElem?_insert] at hobject
          split at hobject
          · next hkey =>
            cases hobject
            obtain ⟨bundle, hash, hzip, hhash, hid⟩ :=
              hallowed.2 id (Std.LawfulEqCmp.compare_eq_iff_eq.mp hkey)
            exact ⟨bundle, hash, hv.zips _ _ hzip, hhash, hid⟩
          · exact h id object' hobject
        · intro id hmem
          rw [Std.ExtTreeMap.mem_insert]
          right
          exact hmem
      · exact ⟨h, fun _ hmem => hmem⟩
    | s3WriteIfAbsent _ _ | s3Delete _ => exact absurd hallowed hkeeps
    | _ => exact absurd ⟨trivial, fun _ => trivial⟩ hkeeps

/-- An operation that is allowed leaves the objects of the target complete. -/
theorem Complete.step (h : Complete ext bucket) (hv : v.Sound bucket)
    (hallowed : (archiveConduct ext).allowed v o) (hop : BucketEffect o bucket a after) :
  Complete ext after
  := by
  obtain ⟨harchives, hkept⟩ := h.archives.step hv hallowed hop
  use harchives
  intro object hobject
  by_cases hkeeps : o.KeepsKey S3_HEAD_KEY
  · rw [hop.keeps hkeeps] at hobject
    exact (h.head object hobject).kept harchives hkept
  · cases o with
    | s3Write key written =>
      obtain rfl : key = S3_HEAD_KEY := Classical.not_not.mp hkeeps
      obtain rfl | ⟨-, rfl⟩ := hop
      · rw [Std.ExtTreeMap.getElem?_insert_self] at hobject
        cases hobject
        obtain ⟨head, rfl, hupload, hsnapshot⟩ := hallowed.1 rfl
        apply namesArchive_of_mem harchives hsnapshot
        apply hkept
        exact hv.uploads _ hupload
      · exact h.head object hobject
    | s3WriteIfAbsent _ _ | s3Delete _ => exact absurd hallowed.1 hkeeps
    | _ => exact absurd trivial hkeeps

/-- What a client goes by after an operation is so. -/
theorem ArchiveView.Sound.next (hv : v.Sound bucket)
    (hkept : ∀ id, snapshotKey id ∈ bucket → snapshotKey id ∈ after)
    (hop : ArchiveEffect o bucket a after) :
  (v.next o a).Sound after
  := by
  have hsame : v.Sound after := ⟨hv.zips, fun id h => hkept id (hv.uploads id h)⟩
  cases o with
  | readZip bundle =>
    cases a with
    | error e => exact hsame
    | ok zip =>
      use ?_, hsame.uploads
      intro bundle' zip' hmem
      obtain h | hmem := List.mem_cons.mp hmem
      · cases h
        exact hop.2 bundle zip rfl
      · exact hsame.zips bundle' zip' hmem
  | s3Write key object =>
    cases a with
    | error e => exact hsame
    | ok =>
      use hsame.zips
      intro id hmem
      obtain rfl | hmem := List.mem_cons.mp hmem
      · obtain rfl | ⟨hfails, -⟩ := hop.1
        · exact Std.ExtTreeMap.mem_insert_self
        · cases hfails
      · exact hsame.uploads id hmem
  | _ => exact hsame

/-! ### Runs -/

variable {ι : Type} [DecidableEq ι] {calls : ι → ClientCall} {tr : ClientTrace ι}
  {ps : ι → SyncM SyncHeadV1} {bucket₀ : Table Content}

/-- What a client goes by after a trace. -/
def archiveViewOf (tr : ClientTrace ι) (i : ι) : ArchiveView :=
  (own i tr).foldl (fun v e => v.next e.op e.ans) ArchiveView.start

/-- A client has read a head. -/
def ReadHead (tr : ClientTrace ι) (i : ι) (object : Content) : Prop :=
  ⟨.s3Read S3_HEAD_KEY, .ok (some object)⟩ ∈ own i tr

/-- What holds between the clients and the objects: the objects are complete, what the clients go by
is so, and every head that was read names an archive. -/
structure ArchivesKept (ext : Externals) (tr : ClientTrace ι) (bucket : Table Content) : Prop where
  complete : Complete ext bucket
  sound : ∀ i, (archiveViewOf tr i).Sound bucket
  read : ∀ i object, ReadHead tr i object → NamesArchive ext bucket object

theorem archiveViewOf_concat (tr : ClientTrace ι) (i : ι) (e : Event Op Op.Ans) :
  archiveViewOf (tr ++ [(i, e)]) i = (archiveViewOf tr i).next e.op e.ans
  := by
  simp [archiveViewOf, Prog.own_append]

theorem archiveViewOf_concat_of_ne {i j : ι} (h : i ≠ j) (tr : ClientTrace ι)
    (e : Event Op Op.Ans) :
  archiveViewOf (tr ++ [(i, e)]) j = archiveViewOf tr j
  := by
  rw [archiveViewOf, archiveViewOf, Prog.own_append, Prog.own_singleton_of_ne h, List.append_nil]

/-- A turn of a client that keeps to the conduct keeps the archives. -/
theorem ArchivesKept.turn (h : ArchivesKept ext tr bucket) {i : ι}
    (hallowed : (archiveConduct ext).allowed (archiveViewOf tr i) o)
    (hop : ArchiveEffect o bucket a after) :
  ArchivesKept ext (tr ++ [(i, ⟨o, a⟩)]) after
  := by
  obtain ⟨harchives, hkept⟩ := h.complete.archives.step (h.sound i) hallowed hop.1
  constructor
  · exact h.complete.step (h.sound i) hallowed hop.1
  · intro j
    by_cases hij : i = j
    · subst hij
      rw [archiveViewOf_concat]
      exact (h.sound i).next hkept hop
    · rw [archiveViewOf_concat_of_ne hij]
      exact ⟨(h.sound j).zips, fun id hmem => hkept id ((h.sound j).uploads id hmem)⟩
  · intro j object hread
    rw [ReadHead, Prog.own_append, List.mem_append] at hread
    obtain hread | hread := hread
    · exact (h.read j object hread).kept harchives hkept
    · by_cases hij : i = j
      · subst hij
        rw [Prog.own_singleton_self, List.mem_singleton] at hread
        cases hread
        obtain ⟨⟨rfl, hobject⟩, -⟩ := hop
        exact h.complete.head object (hobject _ rfl).symm
      · rw [Prog.own_singleton_of_ne hij] at hread
        cases hread

end Sync

end KnowledgeCore
