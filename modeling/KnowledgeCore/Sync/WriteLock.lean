import KnowledgeCore.JsonText
import KnowledgeCore.Sync.Clients
import KnowledgeCore.Sync.Signing

/-!
# Clients under the write lock

Any number of clients push to one remote target and pull from it, in any order of their single
operations, while a clock goes on. As long as a client that deletes the lock deletes the one it
has read, no two clients have a lock whose leases both last.
-/

namespace KnowledgeCore

namespace Sync

open CanonJson (append_separator_inj_last notMem_toString)
open Prog (Timed own)

variable {ι : Type} [DecidableEq ι]

/-- What the clients of a remote target did. -/
abbrev ClientTrace (ι : Type) := List (ι × Event Op Op.Ans)

/-- What a client goes by after a trace. -/
def viewOf (tr : ClientTrace ι) (i : ι) : ClientView :=
  (own i tr).foldl (fun v e => v.next e.op e.ans) ClientView.start

@[simp] theorem viewOf_nil (i : ι) :
  viewOf [] i = ClientView.start
  := rfl

@[simp] theorem viewOf_concat (tr : ClientTrace ι) (i : ι) (e : Event Op Op.Ans) :
  viewOf (tr ++ [(i, e)]) i = (viewOf tr i).next e.op e.ans
  := by
  simp [viewOf, Prog.own_append]

theorem viewOf_concat_of_ne {i j : ι} (h : i ≠ j) (tr : ClientTrace ι)
    (e : Event Op Op.Ans) :
  viewOf (tr ++ [(i, e)]) j = viewOf tr j
  := by
  rw [viewOf, viewOf, Prog.own_append, Prog.own_singleton_of_ne h, List.append_nil]

/-- The time up to which the lease of a call lasts. -/
def ClientCall.leaseEnd (call : ClientCall) : Int64 := call.startMs + S3_LOCK_TTL_MS

/-- The schedules asked for: a client issues nothing before its call starts, and what it deletes
in the place of the lock is what it has last read there. -/
def DeletesFound (calls : ι → ClientCall) (now : Int) (tr : ClientTrace ι) (i : ι) (o : Op)
    (bucket : Table Content) : Prop :=
  (calls i).startMs.toInt ≤ now
    ∧ (o = .s3Delete S3_LOCK_KEY → (viewOf tr i).found = some bucket[S3_LOCK_KEY]?)

/-! ### One step -/

/-- What leaves the object of a key alone leaves it alone under every answer. -/
theorem BucketEffect.keeps {key : String} {o : Op} {bucket after : Table Content} {a : o.Ans}
    (h : BucketEffect o bucket a after) (hkeeps : o.KeepsKey key) :
  after[key]? = bucket[key]?
  := by
  cases o with
  | s3Write key' object =>
    obtain rfl | ⟨-, rfl⟩ := h
    · simp [Std.ExtTreeMap.getElem?_insert, show key' ≠ key from hkeeps]
    · rfl
  | s3WriteIfAbsent key' object =>
    obtain ⟨-, rfl, -⟩ | ⟨-, rfl⟩ := h
    · simp [Std.ExtTreeMap.getElem?_insert, show key' ≠ key from hkeeps]
    · rfl
  | s3Delete key' =>
    obtain rfl | ⟨-, rfl⟩ := h
    · simp [Std.ExtTreeMap.getElem?_erase, show key' ≠ key from hkeeps]
    · rfl
  | s3Read key' => rw [h.1]
  | _ =>
    obtain rfl := h
    rfl

/-- Locks with one holder were taken by calls that started at one time. -/
theorem startMs_eq_of_holder {vaultId vaultId' : String} {trust trust' : SyncTrustV1}
    {nowMs nowMs' : Int64}
    (h : (lockOf vaultId trust nowMs).holder = (lockOf vaultId' trust' nowMs').holder) :
  nowMs = nowMs'
  := by
  have htoList := congrArg String.toList h
  simp only [lockOf, String.toList_append, List.append_assoc] at htoList
  have htime := ((append_separator_inj_last
    (notMem_toString (by decide) (by decide) nowMs.toInt)
    (notMem_toString (by decide) (by decide) nowMs'.toInt)).mp htoList).2
  apply Int64.toInt_inj.mp
  exact Int.repr_injective (String.toList_inj.mp htime)

/-- What holds between the clients and the objects: what a client holds is a lock of its call,
which is there until its lease has ended, and of two clients that hold locks the lease of one has
ended. -/
structure LocksApart (calls : ι → ClientCall) (now : Int) (tr : ClientTrace ι)
    (bucket : Table Content) : Prop where
  taken : ∀ i lock, (viewOf tr i).held = some lock →
    ∃ vaultId trust, lock = lockObject vaultId trust (calls i).startMs
  there : ∀ i lock, (viewOf tr i).held = some lock →
    bucket[S3_LOCK_KEY]? = some lock ∨ (calls i).leaseEnd.toInt ≤ now
  apart : ∀ i j, i ≠ j → (viewOf tr i).held ≠ none → (viewOf tr j).held ≠ none →
    (calls i).leaseEnd.toInt ≤ now ∨ (calls j).leaseEnd.toInt ≤ now

variable {calls : ι → ClientCall} {now later : Int} {tr : ClientTrace ι}
  {bucket after : Table Content}

theorem LocksApart.tick (h : LocksApart calls now tr bucket) (hle : now ≤ later) :
  LocksApart calls later tr bucket
  := by
  constructor
  · exact h.taken
  · intro i lock hi
    apply (h.there i lock hi).imp_right
    intro hend
    exact hend.trans hle
  · intro i j hij hi hj
    apply (h.apart i j hij hi hj).imp
    · intro hend
      exact hend.trans hle
    · intro hend
      exact hend.trans hle

/-- A turn after which nobody holds more than before, and the lock is as it was or its lease has
ended, keeps the locks apart. -/
theorem LocksApart.turn (h : LocksApart calls now tr bucket) {i : ι} {e : Event Op Op.Ans}
    (hheld : (viewOf (tr ++ [(i, e)]) i).held = (viewOf tr i).held
      ∨ (viewOf (tr ++ [(i, e)]) i).held = none)
    (hthere : ∀ j lock, (viewOf (tr ++ [(i, e)]) j).held = some lock →
      bucket[S3_LOCK_KEY]? = some lock →
        after[S3_LOCK_KEY]? = some lock ∨ (calls j).leaseEnd.toInt ≤ now) :
  LocksApart calls now (tr ++ [(i, e)]) after
  := by
  have hless (j : ι) {lock : Content} (hj : (viewOf (tr ++ [(i, e)]) j).held = some lock) :
      (viewOf tr j).held = some lock := by
    by_cases hij : i = j
    · subst hij
      obtain hsame | hnone := hheld
      · rwa [hsame] at hj
      · rw [hnone] at hj
        cases hj
    · rwa [viewOf_concat_of_ne hij] at hj
  have hne (j : ι) (hj : (viewOf (tr ++ [(i, e)]) j).held ≠ none) : (viewOf tr j).held ≠ none := by
    obtain ⟨lock, hlock⟩ := Option.ne_none_iff_exists'.mp hj
    rw [hless j hlock]
    exact Option.some_ne_none lock
  constructor
  · intro j lock hj
    exact h.taken j lock (hless j hj)
  · intro j lock hj
    obtain hlock | hend := h.there j lock (hless j hj)
    · exact hthere j lock hj hlock
    · right
      exact hend
  · intro j k hjk hj hk
    exact h.apart j k hjk (hne j hj) (hne k hk)

/-- Where there is no lock, every lease has ended. -/
theorem LocksApart.ended (h : LocksApart calls now tr bucket) (hnone : bucket[S3_LOCK_KEY]? = none)
    {i : ι} (hi : (viewOf tr i).held ≠ none) :
  (calls i).leaseEnd.toInt ≤ now
  := by
  obtain ⟨lock, hlock⟩ := Option.ne_none_iff_exists'.mp hi
  obtain hthere | hend := h.there i lock hlock
  · rw [hnone] at hthere
    cases hthere
  · exact hend

/-- A client that takes the lock finds none, so every other lease has ended. -/
theorem LocksApart.take (h : LocksApart calls now tr bucket) {i : ι} {vaultId : String}
    {trust : SyncTrustV1} (hnone : bucket[S3_LOCK_KEY]? = none)
    (hafter : after[S3_LOCK_KEY]? = some (lockObject vaultId trust (calls i).startMs))
    {e : Event Op Op.Ans}
    (hheld : (viewOf (tr ++ [(i, e)]) i).held
      = some (lockObject vaultId trust (calls i).startMs)) :
  LocksApart calls now (tr ++ [(i, e)]) after
  := by
  constructor
  · intro j lock hj
    by_cases hij : i = j
    · subst hij
      rw [hheld] at hj
      cases hj
      use vaultId, trust
    · rw [viewOf_concat_of_ne hij] at hj
      exact h.taken j lock hj
  · intro j lock hj
    by_cases hij : i = j
    · subst hij
      left
      rw [hafter, ← hheld, hj]
    · right
      rw [viewOf_concat_of_ne hij] at hj
      apply h.ended hnone
      rw [hj]
      exact Option.some_ne_none lock
  · intro j k hjk hj hk
    by_cases hij : i = j
    · right
      subst hij
      rw [viewOf_concat_of_ne hjk] at hk
      exact h.ended hnone hk
    · left
      rw [viewOf_concat_of_ne hij] at hj
      exact h.ended hnone hj

/-- A client that deletes the lock of another one, which it has read, does so after the lease has
ended: it has seen so, or has the same holder's name, and then it holds a lock of the same time,
of which one has outlived its lease. -/
theorem LocksApart.ended_of_mayDelete (h : LocksApart calls now tr bucket) {i j : ι} (hij : i ≠ j)
    (hstart : (calls i).startMs.toInt ≤ now)
    (hfound : (viewOf tr i).found = some bucket[S3_LOCK_KEY]?)
    (hmay : MayDelete (calls i).startMs (viewOf tr i)) {lock : Content}
    (hj : (viewOf tr j).held = some lock) (hthere : bucket[S3_LOCK_KEY]? = some lock) :
  (calls j).leaseEnd.toInt ≤ now
  := by
  obtain ⟨object, read, hread, hin, hexpired, hown⟩ := hmay
  obtain ⟨vaultId, trust, rfl⟩ := h.taken j lock hj
  rw [hfound, hthere] at hread
  cases hread
  obtain rfl := lockIn_toJson.mp hin
  cases hheld : (viewOf tr i).held with
  | none => exact (Int64.le_iff_toInt_le.mp (hexpired hheld)).trans hstart
  | some own =>
    obtain ⟨vaultId', trust', rfl⟩ := h.taken i own hheld
    have hsame := startMs_eq_of_holder (hown _ hheld)
    have hend : (calls j).leaseEnd = (calls i).leaseEnd := by
      rw [ClientCall.leaseEnd, ClientCall.leaseEnd, hsame]
    obtain hi | hj := h.apart i j hij (by simp [hheld]) (by simp [hj])
    · rwa [hend]
    · exact hj

/-- Every operation that is allowed and that the schedule has keeps the locks apart. -/
theorem LocksApart.step {ext : Externals} (h : LocksApart calls now tr bucket) {i : ι} {o : Op}
    {a : o.Ans} (hallowed : (clientConduct ext (calls i).startMs).allowed (viewOf tr i) o)
    (hmay : DeletesFound calls now tr i o bucket) (hop : BucketEffect o bucket a after) :
  LocksApart calls now (tr ++ [(i, ⟨o, a⟩)]) after
  := by
  by_cases hkeeps : o.KeepsKey S3_LOCK_KEY
  · apply h.turn
    · left
      rw [viewOf_concat]
      exact ClientView.held_next _ a hkeeps
    · intro j lock _ hthere
      left
      rw [hop.keeps hkeeps, hthere]
  · cases o with
    | s3Write key object => exact absurd hallowed.1 hkeeps
    | s3WriteIfAbsent key object =>
      obtain rfl : key = S3_LOCK_KEY := Classical.not_not.mp hkeeps
      obtain ⟨-, vaultId, trust, rfl⟩ := hallowed.2 rfl
      have hsame (hfailed : a ≠ .ok true) :
          (viewOf (tr ++ [(i, ⟨.s3WriteIfAbsent S3_LOCK_KEY
            (lockObject vaultId trust (calls i).startMs), a⟩)]) i).held = (viewOf tr i).held := by
        rw [viewOf_concat]
        cases a with
        | error e => rfl
        | ok created =>
          cases created with
          | true => exact absurd rfl hfailed
          | false => rfl
      obtain ⟨habsent, rfl, -⟩ | ⟨hfailed, rfl⟩ := hop
      · have hnone : bucket[S3_LOCK_KEY]? = none :=
          Std.ExtTreeMap.getElem?_eq_none habsent
        by_cases htaken : a = .ok true
        · subst htaken
          apply h.take hnone
          · rw [Std.ExtTreeMap.getElem?_insert_self]
          · rw [viewOf_concat, ClientView.next, if_pos rfl]
        · apply h.turn (Or.inl (hsame htaken))
          intro j lock _ hthere
          rw [hnone] at hthere
          cases hthere
      · apply h.turn (Or.inl (hsame hfailed))
        intro j lock _ hthere
        left
        exact hthere
    | s3Delete key =>
      obtain rfl : key = S3_LOCK_KEY := Classical.not_not.mp hkeeps
      apply h.turn
      · right
        rw [viewOf_concat, ClientView.next, if_pos rfl]
      · intro j lock hj hthere
        right
        have hij : i ≠ j := by
          rintro rfl
          rw [viewOf_concat, ClientView.next, if_pos rfl] at hj
          cases hj
        rw [viewOf_concat_of_ne hij] at hj
        exact h.ended_of_mayDelete hij hmay.1 (hmay.2 rfl) (hallowed.2 rfl) hj hthere
    | _ => exact absurd trivial hkeeps

/-! ### Runs -/

/-- In every run of the clients in which each of them deletes what it has read, the locks stay
apart. -/
theorem locksApart_of_timed {ext : Externals} {host : ι → Host} {target : String}
    {ps : ι → SyncM SyncHeadV1} {bucket₀ : Table Content}
    (h : Timed BucketEffect (DeletesFound calls)
      (fun i => (calls i).prog ext (host i) target) bucket₀ now tr ps bucket) :
  LocksApart calls now tr bucket
  := by
  induction h with
  | start now =>
    constructor
    · intro i lock hi
      cases hi
    · intro i lock hi
      cases hi
    · intro i j _ hi
      exact absurd rfl hi
  | tick later _ hle ih => exact ih.tick hle
  | turn i hrun hi hmay hop ih =>
    have hallowed := hrun.allowed (fun i => (calls i).follows) hi
    exact ih.step hallowed hmay hop

/-- A client has the lock when it has written its lock object and deleted none since. -/
def HasLock (tr : ClientTrace ι) (i : ι) : Prop :=
  (viewOf tr i).held ≠ none

/-- Of two clients that have the lock, the lease of one has ended. -/
def LeasesApart (calls : ι → ClientCall) (now : Int) (tr : ClientTrace ι) : Prop :=
  ∀ i j, i ≠ j → HasLock tr i → HasLock tr j →
    (calls i).leaseEnd.toInt ≤ now ∨ (calls j).leaseEnd.toInt ≤ now

/-- Two clients never have the lock both while the leases both last, at whatever times their calls
start, whatever the ids of their vaults are, and in whatever order their operations are carried
out or fail, as long as a client that deletes the lock deletes the one it has read. -/
theorem write_lock_exclusive (ext : Externals) (host : ι → Host) (target : String)
    (calls : ι → ClientCall) (bucket₀ bucket : Table Content) (now : Int) (tr : ClientTrace ι)
    (ps : ι → SyncM SyncHeadV1)
    (h : Timed BucketEffect (DeletesFound calls)
      (fun i => (calls i).prog ext (host i) target) bucket₀ now tr ps bucket) :
  LeasesApart calls now tr
  := (locksApart_of_timed h).apart

/-! ### A client alone -/

/-- What a client has read in the place of the lock is there. -/
def FindsThere (v : ClientView) (bucket : Table Content) : Prop :=
  ∀ object, v.found = some object → object = bucket[S3_LOCK_KEY]?

/-- A client that is alone finds what it has left. -/
theorem FindsThere.next {ext : Externals} {nowMs : Int64} {v : ClientView} {o : Op} {a : o.Ans}
    (h : FindsThere v bucket) (hallowed : (clientConduct ext nowMs).allowed v o)
    (hop : BucketEffect o bucket a after) :
  FindsThere (v.next o a) after
  := by
  intro object hfound
  by_cases hkeeps : o.KeepsKey S3_LOCK_KEY
  · rw [hop.keeps hkeeps]
    obtain hsame | ⟨key, rfl, hread⟩ := ClientView.found_next a hkeeps hfound
    · exact h object hsame
    · cases hread
      exact hop.2 object rfl
  · cases o with
    | s3Write key _ => exact absurd hallowed.1 hkeeps
    | s3WriteIfAbsent key _ =>
      obtain rfl : key = S3_LOCK_KEY := Classical.not_not.mp hkeeps
      cases a with
      | error e =>
        rw [ClientView.next, if_pos rfl] at hfound
        cases hfound
      | ok created =>
        cases created <;>
        · rw [ClientView.next, if_pos rfl] at hfound
          cases hfound
    | s3Delete key =>
      obtain rfl : key = S3_LOCK_KEY := Classical.not_not.mp hkeeps
      rw [ClientView.next, if_pos rfl] at hfound
      cases hfound
    | _ => exact absurd trivial hkeeps

/-- A client that deletes what it may deletes what it has found. -/
theorem FindsThere.deletesFound {ext : Externals} {i : ι} {o : Op}
    (h : FindsThere (viewOf tr i) bucket) (hstart : (calls i).startMs.toInt ≤ now)
    (hallowed : (clientConduct ext (calls i).startMs).allowed (viewOf tr i) o) :
  DeletesFound calls now tr i o bucket
  := by
  use hstart
  rintro rfl
  obtain ⟨object, _, hfound, -⟩ := hallowed.2 rfl
  rw [hfound, h _ hfound]

/-- Two devices that push at one time. -/
def Sample.pushes (_ : Bool) : ClientCall := .push 1000

/-- One of them gets to the end of its push while the other waits. -/
theorem Sample.pushes_alone {R : Prog.Effect Op Op.Ans (Table Content)}
    {may : Int → ClientTrace Bool → Bool → Op → Table Content → Prop}
    (hR : ∀ o (s : Site), R o s.bucket (perform Sample.ext Sample.host o s).1
      (perform Sample.ext Sample.host o s).2.bucket)
    (hmay : ∀ tr i o bucket, DeletesFound Sample.pushes 1000 tr i o bucket →
      may 1000 tr i o bucket) :
  ∃ head tr ps bucket,
    Timed R may
      (fun i => (Sample.pushes i).prog Sample.ext Sample.host "target") ∅ 1000 tr ps bucket
    ∧ ps true = .ret head
  := by
  obtain ⟨_, r, s', -, hpush, -⟩ := Sample.enrolledSite_push
  have hrun : ((Sample.pushes true).prog Sample.ext Sample.host "target").eval
      (perform Sample.ext Sample.host) Sample.enrolledSite = (.ok r.remoteHead, s') := by
    show (syncPushS3Target Sample.ext Sample.host "target" 1000 >>= _).eval _ _ = _
    rw [Prog.eval_bind, hpush]
    rfl
  have hturn (tr : ClientTrace Bool) (o : Op) (s : Site)
      (hallowed : (clientConduct Sample.ext 1000).allowed (viewOf tr true) o)
      (h : FindsThere (viewOf tr true) s.bucket) : may 1000 tr true o s.bucket :=
    hmay tr true o s.bucket (h.deletesFound le_rfl hallowed)
  have hnext (v : ClientView) (o : Op) (s : Site)
      (hallowed : (clientConduct Sample.ext 1000).allowed v o) (h : FindsThere v s.bucket) :
      FindsThere (v.next o (perform Sample.ext Sample.host o s).1)
        (perform Sample.ext Sample.host o s).2.bucket :=
    h.next hallowed (bucketEffect_perform Sample.ext Sample.host o s)
  have hfirst : FindsThere ClientView.start Sample.enrolledSite.bucket := by
    intro object hfound
    cases hfound
  have hstart : Timed R may
      (fun i => (Sample.pushes i).prog Sample.ext Sample.host "target")
      Sample.enrolledSite.bucket 1000 [] _ Sample.enrolledSite.bucket := Timed.start 1000
  obtain ⟨tr, htimed⟩ := hstart.alone (g := Site.bucket) (I := FindsThere) (i := true) hR hturn
    hnext rfl (Sample.pushes true).follows
    hfirst
  rw [hrun] at htimed
  exact ⟨r.remoteHead, tr, _, s'.bucket, htimed, Function.update_self ..⟩

theorem write_lock_exclusive_pushes :
  ∃ head tr ps bucket,
    Timed BucketEffect (DeletesFound Sample.pushes)
      (fun i => (Sample.pushes i).prog Sample.ext Sample.host "target") ∅ 1000 tr ps bucket
    ∧ ps true = .ret head ∧ LeasesApart Sample.pushes 1000 tr
  := by
  obtain ⟨head, tr, ps, bucket, hrun, hend⟩ := Sample.pushes_alone
    (bucketEffect_perform Sample.ext Sample.host) fun _ _ _ _ h => h
  use head, tr, ps, bucket, hrun, hend
  exact write_lock_exclusive Sample.ext (fun _ => Sample.host) "target" Sample.pushes ∅ bucket 1000
    tr ps hrun

end Sync

end KnowledgeCore
