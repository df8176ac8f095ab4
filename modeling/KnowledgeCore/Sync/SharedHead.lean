import KnowledgeCore.Sync.WriteLock

/-!
# The head the clients share

While the lease of a client lasts no other client writes the head, so that the heads it reads under
the lock are one and the same. A push then replaces the head it has compared with, and a pull
applies the head whose author it has checked and whose merge it has judged.
-/

namespace KnowledgeCore

namespace Sync

open Prog (Timed)

variable {ι : Type} [DecidableEq ι] {calls : ι → ClientCall} {now later : Int}
  {tr : ClientTrace ι} {bucket after : Table Content} {ext : Externals} {host : ι → Host}
  {target : String} {ps : ι → SyncM SyncHeadV1} {bucket₀ : Table Content}

/-- The schedules asked for: clients delete what they have read, and a client that writes the head
does so before its lease has ended. -/
def WritesInTime (calls : ι → ClientCall) (now : Int) (tr : ClientTrace ι) (i : ι) (o : Op)
    (bucket : Table Content) : Prop :=
  DeletesFound calls now tr i o bucket
    ∧ ∀ object, o = .s3Write S3_HEAD_KEY object → now < (calls i).leaseEnd.toInt

/-- The heads that the clients have read under their locks, while the leases last, are the head
that is there. -/
def HeadsCurrent (calls : ι → ClientCall) (now : Int) (tr : ClientTrace ι)
    (bucket : Table Content) : Prop :=
  ∀ i, HasLock tr i → now < (calls i).leaseEnd.toInt →
    ∀ head ∈ (viewOf tr i).heads, head = bucket[S3_HEAD_KEY]?

/-- A head that is kept in mind after an operation was kept in mind before, by a client that had
the lock, or has just been read. -/
theorem ClientView.mem_heads_next {v : ClientView} {o : Op} {a : o.Ans} {head : Option Content}
    (hmem : head ∈ (v.next o a).heads) (hheld : (v.next o a).held ≠ none) :
  (head ∈ v.heads ∧ v.held ≠ none)
    ∨ ∃ key, key = S3_HEAD_KEY ∧ (⟨o, a⟩ : Event Op Op.Ans) = ⟨.s3Read key, .ok head⟩
  := by
  cases o with
  | s3Read key =>
    cases a with
    | error e => exact Or.inl ⟨hmem, hheld⟩
    | ok object =>
      rw [next] at hmem hheld
      split_ifs at hmem hheld with hlock hread
      · exact Or.inl ⟨hmem, hheld⟩
      · obtain rfl | hmem := List.mem_cons.mp hmem
        · right
          use key, hread.1
        · exact Or.inl ⟨hmem, hheld⟩
      · exact Or.inl ⟨hmem, hheld⟩
  | s3Write key object =>
    rw [next] at hmem hheld
    split_ifs at hmem hheld with hkey
    · cases hmem
    · exact Or.inl ⟨hmem, hheld⟩
  | s3WriteIfAbsent key object =>
    cases a with
    | error e =>
      rw [next] at hmem hheld
      split_ifs at hmem hheld
      all_goals exact Or.inl ⟨hmem, hheld⟩
    | ok created =>
      cases created with
      | true =>
        rw [next] at hmem hheld
        split_ifs at hmem hheld with hkey
        · cases hmem
        · exact Or.inl ⟨hmem, hheld⟩
      | false =>
        rw [next] at hmem hheld
        split_ifs at hmem hheld
        all_goals exact Or.inl ⟨hmem, hheld⟩
  | s3Delete key =>
    rw [next] at hmem hheld
    split_ifs at hmem hheld with hkey
    · cases hmem
    · exact Or.inl ⟨hmem, hheld⟩
  | readState key =>
    cases a with
    | error e => exact Or.inl ⟨hmem, hheld⟩
    | ok value =>
      rw [next] at hmem hheld
      split_ifs at hmem hheld
      all_goals exact Or.inl ⟨hmem, hheld⟩
  | exportBundle _ => cases a <;> exact Or.inl ⟨hmem, hheld⟩
  | _ => exact Or.inl ⟨hmem, hheld⟩

/-- An operation that writes no head keeps the heads current. -/
theorem HeadsCurrent.keep (h : HeadsCurrent calls now tr bucket) {i : ι} {o : Op} {a : o.Ans}
    (hkeeps : o.KeepsKey S3_HEAD_KEY) (hop : BucketEffect o bucket a after) :
  HeadsCurrent calls now (tr ++ [(i, ⟨o, a⟩)]) after
  := by
  intro j hj hlasts head hmem
  rw [hop.keeps hkeeps]
  by_cases hij : i = j
  · subst hij
    rw [HasLock, viewOf_concat] at hj
    rw [viewOf_concat] at hmem
    obtain ⟨hmem, hheld⟩ | ⟨key, rfl, hread⟩ := ClientView.mem_heads_next hmem hj
    · exact h i hheld hlasts head hmem
    · cases hread
      exact hop.2 head rfl
  · rw [HasLock, viewOf_concat_of_ne hij] at hj
    rw [viewOf_concat_of_ne hij] at hmem
    exact h j hj hlasts head hmem

/-- A client that writes the head in time is the only one whose lease lasts, and has nothing in
mind afterwards. -/
theorem HeadsCurrent.write (hapart : LocksApart calls now tr bucket) {i : ι} {object : Content}
    {a : (Op.s3Write S3_HEAD_KEY object).Ans} (hi : HasLock tr i)
    (hlasts : now < (calls i).leaseEnd.toInt) :
  HeadsCurrent calls now (tr ++ [(i, ⟨.s3Write S3_HEAD_KEY object, a⟩)]) after
  := by
  intro j hj hlasts' head hmem
  by_cases hij : i = j
  · subst hij
    rw [viewOf_concat, ClientView.next, if_pos rfl] at hmem
    cases hmem
  · rw [HasLock, viewOf_concat_of_ne hij] at hj
    obtain hend | hend := hapart.apart i j hij hi hj
    · exact absurd hend (Int.not_le.mpr hlasts)
    · exact absurd hend (Int.not_le.mpr hlasts')

/-- In every run in which the heads are written in time, the heads stay current. -/
theorem headsCurrent_of_timed
    (h : Timed BucketEffect (WritesInTime calls)
      (fun i => (calls i).prog ext (host i) target) bucket₀ now tr ps bucket) :
  HeadsCurrent calls now tr bucket
  := by
  induction h with
  | start now =>
    intro i hi
    exact absurd rfl hi
  | tick later _ hle ih =>
    intro i hi hlasts
    exact ih i hi (hle.trans_lt hlasts)
  | @turn now tr ps s t i o k a hrun hi hmay hop ih =>
    have hallowed := hrun.allowed (fun i => (calls i).follows) hi
    by_cases hkeeps : o.KeepsKey S3_HEAD_KEY
    · exact ih.keep hkeeps hop
    · cases o with
      | s3Write key object =>
        obtain rfl : key = S3_HEAD_KEY := Classical.not_not.mp hkeeps
        obtain ⟨own, _, _, _, _, _, hheld, -⟩ := hallowed.2 rfl
        apply HeadsCurrent.write (locksApart_of_timed (hrun.mono fun _ _ _ _ _ h => h.1))
        · have hlock : (viewOf tr i).held = some own := hheld
          rw [HasLock, hlock]
          exact Option.some_ne_none own
        · exact hmay.2 object rfl
      | s3WriteIfAbsent key object => exact absurd hallowed.1 hkeeps
      | s3Delete key => exact absurd hallowed.1 hkeeps
      | _ => exact absurd trivial hkeeps

/-- The head that is there is one with which the client is not in conflict, given the rows of its
vault and the bundle it has exported, and the object is a head with the manifest of the bundle. -/
def Supersedes (ext : Externals) (v : ClientView) (bucket : Table Content) (object : Content) :
    Prop :=
  ∃ head bundle hash, ∃ newHead : SyncHeadV1,
    parseHead "failed parsing s3 sync head" bucket[S3_HEAD_KEY]? = .ok head
    ∧ v.bundle = some bundle ∧ computeManifestHash ext bundle = .ok hash
    ∧ shouldConflict head v.seenRemote v.lastAppliedManifest hash = false
    ∧ Content.ofCanonical newHead.toJson = .ok object ∧ newHead.manifestHash = hash

/-- A client that is about to write a head, and whose lease lasts, supersedes the head that is
there. -/
def NoneLost (ext : Externals) (calls : ι → ClientCall) (now : Int) (tr : ClientTrace ι)
    (ps : ι → SyncM SyncHeadV1) (bucket : Table Content) : Prop :=
  ∀ i object k, ps i = .op (.s3Write S3_HEAD_KEY object) k → now < (calls i).leaseEnd.toInt →
    Supersedes ext (viewOf tr i) bucket object

/-- Whatever the clients do, and in whatever order their operations are carried out or fail: the
heads a client reads under the lock are the head that is there while its lease lasts, and a push
that writes a head by then replaces none but the one it has compared with. -/
theorem no_head_lost (ext : Externals) (host : ι → Host) (target : String)
    (calls : ι → ClientCall) (bucket₀ bucket : Table Content) (now : Int) (tr : ClientTrace ι)
    (ps : ι → SyncM SyncHeadV1)
    (h : Timed BucketEffect (WritesInTime calls)
      (fun i => (calls i).prog ext (host i) target) bucket₀ now tr ps bucket) :
  HeadsCurrent calls now tr bucket ∧ NoneLost ext calls now tr ps bucket
  := by
  have hcurrent := headsCurrent_of_timed h
  use hcurrent
  intro i object k hi hlasts
  have hallowed := h.allowed (fun i => (calls i).follows) hi
  obtain ⟨own, before, head, bundle, hash, newHead, hheld, hheads, hparse, hrest⟩ :=
    hallowed.2 rfl
  have hlock : (viewOf tr i).held = some own := hheld
  have hread : (viewOf tr i).heads = [before] := hheads
  obtain rfl : before = bucket[S3_HEAD_KEY]? := by
    apply hcurrent i _ hlasts
    · rw [hread]
      exact List.mem_singleton_self before
    · rw [HasLock, hlock]
      exact Option.some_ne_none own
  exact ⟨head, bundle, hash, newHead, hparse, hrest⟩

theorem no_head_lost_pushes :
  ∃ head tr ps bucket,
    Timed BucketEffect (WritesInTime Sample.pushes)
      (fun i => (Sample.pushes i).prog Sample.ext Sample.host "target") ∅ 1000 tr ps bucket
    ∧ ps true = .ret head ∧ HeadsCurrent Sample.pushes 1000 tr bucket
    ∧ NoneLost Sample.ext Sample.pushes 1000 tr ps bucket
  := by
  have hintime (tr : ClientTrace Bool) (i : Bool) (o : Op) (bucket : Table Content)
      (h : DeletesFound Sample.pushes 1000 tr i o bucket) :
      WritesInTime Sample.pushes 1000 tr i o bucket :=
    ⟨h, fun _ _ => show 1000 < ((1000 : Int64) + S3_LOCK_TTL_MS).toInt by decide⟩
  obtain ⟨head, tr, ps, bucket, hrun, hend⟩ := Sample.pushes_alone
    (bucketEffect_perform Sample.ext Sample.host) hintime
  use head, tr, ps, bucket, hrun, hend
  exact no_head_lost Sample.ext (fun _ => Sample.host) "target" Sample.pushes ∅ bucket 1000 tr ps
    hrun

end Sync

end KnowledgeCore
