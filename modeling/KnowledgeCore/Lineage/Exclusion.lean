import KnowledgeCore.Lib.Interleave
import KnowledgeCore.Lineage.Gate

/-!
# Locks under concurrent clients

Clients that share a database acquire locks, and their statements of SQL interleave. The read and
the write of an acquire are two statements. As long as no other client writes the lock between the
two, no two leases on one document or one scope overlap.
-/

namespace KnowledgeCore

namespace Lineage

open Prog (Steps Interleaved own mem_own steps_op steps_ret steps_fail steps_bind)
open LineageDb (Effect)

/-! ### Acquires -/

/-- A call that acquires a lock, on a document or on a scope. -/
inductive Acquire
  | doc (docId owner : String) (nowMs : Int64)
  | scope (scopeKind scopeValue owner : String) (nowMs : Int64)

/-- A lease on a document or on a scope. -/
structure Lease where
  key : LockKey
  owner : String
  acquiredAtMs : Int64
  expiresAtMs : Int64

namespace Acquire

def nowMs : Acquire → Int64
  | .doc _ _ nowMs => nowMs
  | .scope _ _ _ nowMs => nowMs

/-- The call, with the lease it returns. -/
def prog (ext : Externals) : Acquire → LineageProg Lease
  | .doc docId owner nowMs => do
    let lease ← lineageLockAcquire ext docId owner nowMs
    pure ⟨.doc lease.docId, lease.owner, lease.acquiredAtMs, lease.expiresAtMs⟩
  | .scope scopeKind scopeValue owner nowMs => do
    let lease ← lineageLockAcquireScope ext scopeKind scopeValue owner nowMs
    pure ⟨.scope lease.scopeKind lease.scopeValue, lease.owner, lease.acquiredAtMs,
      lease.expiresAtMs⟩

end Acquire

/-- The lease that a lock stands for. -/
def leaseOf (key : LockKey) (row : LineageEditLockRow) : Lease where
  key
  owner := row.owner
  acquiredAtMs := row.acquiredAtMs
  expiresAtMs := row.expiresAtMs

/-- A call either refuses its arguments, or acquires one lock. -/
theorem Acquire.prog_cases (ext : Externals) (call : Acquire) :
  (∃ e, call.prog ext = .fail e)
    ∨ ∃ key owner token readFailed held writeFailed, call.prog ext
      = acquireLock key (leaseRow owner token call.nowMs) readFailed held writeFailed
        >>= fun _ => .ret (leaseOf key (leaseRow owner token call.nowMs))
  := by
  cases call with
  | doc docId owner nowMs =>
    rw [prog, lineageLockAcquire]
    split_ifs with hblank
    · left
      exact ⟨_, rfl⟩
    · right
      rw [Prog.bind_assoc]
      exact ⟨_, _, _, _, _, _, rfl⟩
  | scope scopeKind scopeValue owner nowMs =>
    rw [prog, lineageLockAcquireScope]
    cases requireNonEmpty "owner" owner "KC_LINEAGE_LOCK_INVALID" with
    | error e =>
      left
      exact ⟨e, rfl⟩
    | ok =>
      cases normalizeScope scopeKind scopeValue with
      | error e =>
        left
        exact ⟨e, rfl⟩
      | ok scope =>
        right
        rw [Prog.ofExcept_ok, Prog.ret_bind, Prog.ofExcept_ok, Prog.ret_bind, Prog.bind_assoc]
        exact ⟨_, _, _, _, _, _, rfl⟩

/-- The lock was free when it was read. -/
def Free (lock : Option LineageEditLockRow) (nowMs : Int64) : Prop :=
  ∀ row, lock = some row → row.expiresAtMs ≤ nowMs

/-- How far an acquire has come: what it has issued and what is left of it. -/
inductive Progress (key : LockKey) (row : LineageEditLockRow) :
    List (Event LineageOp LineageOp.Ans) → LineageProg Lease → Prop
  | start {q} (h : ∀ lease, q ≠ .ret lease) : Progress key row [] q
  | read (ans : Except String (Option LineageEditLockRow)) {q} (h : ∀ lease, q ≠ .ret lease) :
    Progress key row [⟨.readLock key, ans⟩] q
  | failed (lock : Option LineageEditLockRow) (hfree : Free lock row.acquiredAtMs)
      (error : String) (e : AppError) :
    Progress key row [⟨.readLock key, .ok lock⟩, ⟨.writeLock key row, .error error⟩] (.fail e)
  | written (lock : Option LineageEditLockRow) (hfree : Free lock row.acquiredAtMs) :
    Progress key row [⟨.readLock key, .ok lock⟩, ⟨.writeLock key row, .ok ()⟩]
      (.ret (leaseOf key row))

theorem progress_of_steps {key : LockKey} {row : LineageEditLockRow}
    {readFailed writeFailed : String → AppError} {held : LineageEditLockRow → AppError}
    {t : List (Event LineageOp LineageOp.Ans)} {q : LineageProg Lease}
    (h : Steps (acquireLock key row readFailed held writeFailed
      >>= fun _ => .ret (leaseOf key row)) t q) :
  Progress key row t q
  := by
  rw [acquireLock, Prog.perform_bind, Prog.op_bind, steps_op] at h
  obtain ⟨rfl, rfl⟩ | ⟨ans, t, rfl, h⟩ := h
  · apply Progress.start
    intro lease heq
    cases heq
  · cases ans with
    | error e =>
      obtain ⟨rfl, rfl⟩ := steps_fail.mp h
      apply Progress.read
      intro lease heq
      cases heq
    | ok lock =>
      rw [mapErr_ok, Prog.ofExcept_ok, Prog.ret_bind] at h
      cases hfilter : lock.filter fun lock => lock.expiresAtMs > row.acquiredAtMs with
      | some lock' =>
        rw [hfilter] at h
        obtain ⟨rfl, rfl⟩ := steps_fail.mp h
        apply Progress.read
        intro lease heq
        cases heq
      | none =>
        have hfree : Free lock row.acquiredAtMs := by
          rintro row' rfl
          have := Option.filter_eq_none_iff.mp hfilter row' rfl
          simpa using this
        rw [hfilter] at h
        dsimp only at h
        rw [Prog.perform_bind, Prog.op_bind, steps_op] at h
        obtain ⟨rfl, rfl⟩ | ⟨ans, t, rfl, h⟩ := h
        · apply Progress.read
          intro lease heq
          cases heq
        · cases ans with
          | error error =>
            obtain ⟨rfl, rfl⟩ := steps_fail.mp h
            apply Progress.failed lock hfree
          | ok =>
            obtain ⟨rfl, rfl⟩ := steps_ret.mp h
            apply Progress.written lock hfree

theorem snoc_eq_pair {α : Type} {t : List α} {e a b : α} (h : t ++ [e] = [a, b]) :
  t = [a] ∧ e = b
  := by
  have hinj := List.append_inj' (show t ++ [e] = [a] ++ [b] from h) rfl
  use hinj.1, List.head_eq_of_cons_eq hinj.2

/-- What the last operation of an acquire was. -/
theorem Progress.last {key : LockKey} {row : LineageEditLockRow}
    {t : List (Event LineageOp LineageOp.Ans)} {e : Event LineageOp LineageOp.Ans}
    {q : LineageProg Lease} (h : Progress key row (t ++ [e]) q) :
  (∃ ans, e = ⟨.readLock key, ans⟩) ∨ (∃ error, e = ⟨.writeLock key row, .error error⟩)
    ∨ ∃ lock, Free lock row.acquiredAtMs ∧ t = [⟨.readLock key, .ok lock⟩]
      ∧ e = ⟨.writeLock key row, .ok ()⟩
  := by
  generalize htr : t ++ [e] = tr at h
  cases h with
  | start => simp at htr
  | read ans =>
    have hlength := congrArg List.length htr
    rw [List.length_append, List.length_singleton, List.length_singleton] at hlength
    obtain rfl := List.eq_nil_of_length_eq_zero (Nat.succ.inj hlength)
    left
    use ans, List.head_eq_of_cons_eq htr
  | failed lock hfree error =>
    obtain ⟨-, he⟩ := snoc_eq_pair htr
    right
    left
    use error, he
  | written lock hfree =>
    obtain ⟨ht, he⟩ := snoc_eq_pair htr
    right
    right
    use lock, hfree, ht, he

/-- A lease that is returned has been written. -/
theorem Progress.returned {key : LockKey} {row : LineageEditLockRow}
    {t : List (Event LineageOp LineageOp.Ans)} {lease : Lease}
    (h : Progress key row t (.ret lease)) :
  ⟨.writeLock key row, .ok ()⟩ ∈ t ∧ lease = leaseOf key row
  := by
  cases h with
  | start h => exact absurd rfl (h lease)
  | read ans h => exact absurd rfl (h lease)
  | written lock hfree =>
    use List.mem_cons_of_mem _ List.mem_cons_self

/-! ### Runs of many clients -/

variable {ι : Type}

/-- The trace of what the clients did. -/
abbrev Trace (ι : Type) := List (ι × Event LineageOp LineageOp.Ans)

/-- A client writes a lock. -/
def wrote (i : ι) (key : LockKey) (row : LineageEditLockRow) :
    ι × Event LineageOp LineageOp.Ans :=
  (i, ⟨.writeLock key row, .ok ()⟩)

/-- A client reads a lock. -/
def saw (i : ι) (key : LockKey) (lock : Option LineageEditLockRow) :
    ι × Event LineageOp LineageOp.Ans :=
  (i, ⟨.readLock key, .ok lock⟩)

/-- Between the read and the write of a client, no other client writes the lock. -/
def Undisturbed (tr : Trace ι) : Prop :=
  ∀ i key lock row before between after,
    tr = before ++ saw i key lock :: between ++ wrote i key row :: after →
      ∀ j row', wrote j key row' ∈ between → j = i

/-- The times of the calls are so far from the end of the range that no lease goes beyond it. -/
def InRange (calls : ι → Acquire) : Prop :=
  ∀ i, (calls i).nowMs.toInt + LINEAGE_LOCK_LEASE_MS.toInt ≤ Int64.maxValue.toInt

variable {ext : Externals} {parse : JsonParser} {calls : ι → Acquire} {db₀ db : LineageDb}
  {tr : Trace ι} {ps : ι → LineageProg Lease}

theorem progress_of_interleaved [DecidableEq ι]
    (h : Interleaved (Effect parse) (fun i => (calls i).prog ext) db₀ tr ps db) (i : ι) :
  ∃ key row, row.acquiredAtMs = (calls i).nowMs
    ∧ row.expiresAtMs = (calls i).nowMs + LINEAGE_LOCK_LEASE_MS
    ∧ Progress key row (own i tr) (ps i)
  := by
  have hsteps := h.steps i
  obtain ⟨e, hprog⟩ | ⟨key, owner, token, _, _, _, hprog⟩ := (calls i).prog_cases ext
  · rw [hprog] at hsteps
    obtain ⟨hown, hps⟩ := steps_fail.mp hsteps
    rw [hown, hps]
    use .doc "", leaseRow "" "" (calls i).nowMs, rfl, rfl
    apply Progress.start
    intro lease heq
    cases heq
  · rw [hprog] at hsteps
    use key, leaseRow owner token (calls i).nowMs, rfl, rfl
    apply progress_of_steps hsteps

/-- No lease ends before it starts. -/
theorem InRange.le (h : InRange calls) (i : ι) :
  (calls i).nowMs ≤ (calls i).nowMs + LINEAGE_LOCK_LEASE_MS
  := by
  have hi := h i
  have hlow := (calls i).nowMs.minValue_le_toInt
  have hlease : LINEAGE_LOCK_LEASE_MS.toInt = 900000 := rfl
  have hmax : Int64.maxValue.toInt = 2 ^ 63 - 1 := rfl
  have hmin : Int64.minValue.toInt = - 2 ^ 63 := rfl
  rw [Int64.le_iff_toInt_le, Int64.toInt_add, Int.bmod_eq_of_le]
  all_goals omega

/-- What holds of the trace and of the database after it: the lock lasts at least as long as every
lease on it that was written, no two of these overlap, and a read that was followed by no write
is up to date. -/
structure Exclusive (tr : Trace ι) (db : LineageDb) : Prop where
  bounded : ∀ i key row, wrote i key row ∈ tr →
    ∃ last, db.lockRow key = some last ∧ row.expiresAtMs ≤ last.expiresAtMs
  apart : ∀ i j key row row', i ≠ j → wrote i key row ∈ tr → wrote j key row' ∈ tr →
    row.expiresAtMs ≤ row'.acquiredAtMs ∨ row'.expiresAtMs ≤ row.acquiredAtMs
  current : ∀ i key lock before after, tr = before ++ saw i key lock :: after →
    (∀ j row, wrote j key row ∉ after) → db.lockRow key = lock

/-- Where an event stands in a trace with one more event at its end. -/
theorem snoc_eq_append_cons {α : Type} {tr before after : List α} {e x : α}
    (h : tr ++ [e] = before ++ x :: after) :
  (after = [] ∧ e = x) ∨ ∃ after', after = after' ++ [e] ∧ tr = before ++ x :: after'
  := by
  obtain rfl | ⟨after', y, rfl⟩ := List.eq_nil_or_concat' after
  · left
    have hinj := List.append_inj' h rfl
    use rfl, List.head_eq_of_cons_eq hinj.2
  · right
    rw [← List.cons_append, ← List.append_assoc] at h
    have hinj := List.append_inj' h rfl
    use after', List.head_eq_of_cons_eq hinj.2 ▸ rfl, hinj.1

/-- Anything but a write that goes through leaves the locks as they are. -/
theorem Exclusive.snoc {i : ι} {e : Event LineageOp LineageOp.Ans} (h : Exclusive tr db)
    (hwrite : ∀ key row, e ≠ ⟨.writeLock key row, .ok ()⟩)
    (hread : ∀ key lock, e = ⟨.readLock key, .ok lock⟩ → db.lockRow key = lock) :
  Exclusive (tr ++ [(i, e)]) db
  := by
  have hmem (j key row) (hj : wrote j key row ∈ tr ++ [(i, e)]) : wrote j key row ∈ tr := by
    rw [List.mem_append, List.mem_singleton] at hj
    obtain hj | hj := hj
    · exact hj
    · exact absurd (Prod.mk.inj hj).2.symm (hwrite key row)
  constructor
  · intro j key row hj
    apply h.bounded j key row (hmem j key row hj)
  · intro j j' key row row' hne hj hj'
    apply h.apart j j' key row row' hne (hmem j key row hj) (hmem j' key row' hj')
  · intro j key lock before after htr hafter
    obtain ⟨rfl, he⟩ | ⟨after', rfl, hprev⟩ := snoc_eq_append_cons htr
    · apply hread key lock (Prod.mk.inj he).2
    · apply h.current j key lock before after' hprev
      intro j' row hj'
      apply hafter j' row (List.mem_append_left _ hj')

theorem Undisturbed.init {e : ι × Event LineageOp LineageOp.Ans}
    (h : Undisturbed (tr ++ [e])) :
  Undisturbed tr
  := by
  intro i key lock row before between after htr
  apply h i key lock row before between (after ++ [e])
  rw [htr, List.append_assoc, List.cons_append]

/-- A write that replaces the lock its client has read, and that was free. -/
theorem Exclusive.write {i : ι} {key : LockKey} {row : LineageEditLockRow}
    (h : Exclusive tr db) (hfree : Free (db.lockRow key) row.acquiredAtMs)
    (hlast : row.acquiredAtMs ≤ row.expiresAtMs) :
  Exclusive (tr ++ [wrote i key row]) (db.setLock key (some row))
  := by
  have hearlier (j key' row') (hj : wrote j key' row' ∈ tr) (hkey : key' = key) :
      row'.expiresAtMs ≤ row.acquiredAtMs := by
    obtain ⟨last, hlock, hle⟩ := h.bounded j key' row' hj
    rw [hkey] at hlock
    apply Int64.le_trans hle (hfree last hlock)
  constructor
  · intro j key' row' hj
    rw [LineageDb.lockRow_setLock]
    rw [List.mem_append, List.mem_singleton] at hj
    obtain hj | hj := hj
    · split_ifs with hkey
      · use row, rfl
        apply Int64.le_trans (hearlier j key' row' hj hkey) hlast
      · apply h.bounded j key' row' hj
    · cases hj
      rw [if_pos rfl]
      use row, rfl
      apply Int64.le_refl
  · intro j j' key' row₁ row₂ hne hj hj'
    rw [List.mem_append, List.mem_singleton] at hj hj'
    obtain hj | hj := hj
    · obtain hj' | hj' := hj'
      · apply h.apart j j' key' row₁ row₂ hne hj hj'
      · cases hj'
        left
        apply hearlier j _ row₁ hj rfl
    · cases hj
      obtain hj' | hj' := hj'
      · right
        apply hearlier j' _ row₂ hj' rfl
      · cases hj'
        contradiction
  · intro j key' lock before after htr hafter
    obtain ⟨rfl, he⟩ | ⟨after', rfl, hprev⟩ := snoc_eq_append_cons htr
    · cases he
    · have hkey : key' ≠ key := by
        rintro rfl
        apply hafter i row
        apply List.mem_append_right _ List.mem_cons_self
      rw [LineageDb.lockRow_setLock, if_neg hkey]
      apply h.current j key' lock before after' hprev
      intro j' row' hj'
      apply hafter j' row' (List.mem_append_left _ hj')

variable [DecidableEq ι]

/-- In every run in which the clients do not disturb each other, leases do not overlap. -/
theorem exclusive_of_interleaved (hrange : InRange calls)
    (h : Interleaved (Effect parse) (fun i => (calls i).prog ext) db₀ tr ps db)
    (hundisturbed : Undisturbed tr) :
  Exclusive tr db
  := by
  induction h with
  | start =>
    constructor
    · intro i key row hi
      cases hi
    · intro i j key row row' _ hi
      cases hi
    · intro i key lock before after htr
      simp at htr
  | @turn tr ps s t i o k a hprev hi hop ih =>
    have hinv := ih hundisturbed.init
    obtain ⟨key, row, hacquired, hexpires, hprogress⟩ :=
      progress_of_interleaved (Interleaved.turn i hprev hi hop) i
    rw [Prog.own_append, Prog.own_singleton_self] at hprogress
    obtain ⟨ans, he⟩ | ⟨error, he⟩ | ⟨lock, hfree, hown, he⟩ := hprogress.last
    · cases he
      obtain ⟨rfl, hread⟩ := effect_readLock hop
      apply hinv.snoc
      · intro key' row' heq
        cases heq
      · intro key' lock heq
        cases heq
        apply (hread lock rfl).symm
    · cases he
      obtain ⟨⟨⟩, -⟩ | ⟨e, -, rfl⟩ := effect_writeLock hop
      apply hinv.snoc
      · intro key' row' heq
        cases heq
      · intro key' lock heq
        cases heq
    · cases he
      obtain ⟨-, -, rfl⟩ | ⟨e, ⟨⟩, -⟩ := effect_writeLock hop
      have hsaw : saw i key lock ∈ tr := by
        apply mem_own.mp
        rw [hown]
        apply List.mem_cons_self
      obtain ⟨before, between, htr⟩ := List.append_of_mem hsaw
      -- The client itself has not written before, and nobody else has since its read.
      have hcurrent : s.lockRow key = lock := by
        apply hinv.current i key lock before between htr
        intro j row' hj
        obtain rfl := hundisturbed i key lock row before between [] (by
          rw [htr, List.append_assoc, List.append_assoc]
          rfl) j row' hj
        have hmem : wrote j key row' ∈ tr := by
          rw [htr]
          apply List.mem_append_right _ (List.mem_cons_of_mem _ hj)
        have hwrote := mem_own.mpr hmem
        rw [hown, List.mem_singleton] at hwrote
        cases hwrote
      apply hinv.write
      · rw [hcurrent]
        exact hfree
      · rw [hacquired, hexpires]
        apply hrange.le

/-- A call that finds the lock free goes on to write it, and then returns. -/
theorem acquireLock_free {key : LockKey} {row : LineageEditLockRow}
    {readFailed writeFailed : String → AppError} {held : LineageEditLockRow → AppError}
    {lease : Lease} {lock : Option LineageEditLockRow}
    (hfree : (lock.filter fun lock => lock.expiresAtMs > row.acquiredAtMs) = none) :
  ∃ k k', (acquireLock key row readFailed held writeFailed >>= fun _ => .ret lease)
      = .op (.readLock key) k
    ∧ k (.ok lock) = .op (.writeLock key row) k' ∧ k' (.ok ()) = .ret lease
  := by
  rw [acquireLock, Prog.perform_bind, Prog.op_bind]
  refine ⟨_, fun written => Prog.ofExcept (mapErr writeFailed written) >>= fun _ => .ret lease,
    rfl, ?_, rfl⟩
  rw [mapErr_ok, Prog.ofExcept_ok, Prog.ret_bind, hfree]
  rfl

omit [DecidableEq ι] in
/-- A client that reads and writes at once is not disturbed, and disturbs no client that has
written already. -/
theorem Undisturbed.turn (h : Undisturbed tr) {i : ι} (key : LockKey)
    (lock : Option LineageEditLockRow) (row : LineageEditLockRow)
    (hfirst : ∀ key' lock', saw i key' lock' ∉ tr) :
  Undisturbed (tr ++ [saw i key lock] ++ [wrote i key row])
  := by
  intro j key' lock' row' before between after htr
  obtain ⟨rfl, he⟩ | ⟨after', rfl, hprev⟩ := snoc_eq_append_cons htr
  · obtain rfl : i = j := congrArg Prod.fst he
    have hinj := (List.append_inj' htr rfl).1
    obtain ⟨rfl, -⟩ | ⟨between', rfl, hprev⟩ := snoc_eq_append_cons hinj
    · intro j row hj
      cases hj
    · exfalso
      apply hfirst key' lock'
      rw [hprev]
      apply List.mem_append_right _ List.mem_cons_self
  · obtain ⟨-, he⟩ | ⟨after, -, hinit⟩ := snoc_eq_append_cons hprev
    · cases he
    · apply h j key' lock' row' before between after hinit

/-- In every run in which the clients do not disturb each other, no two leases on one document or
one scope that are returned overlap. -/
theorem leases_apart (hrange : InRange calls)
    (h : Interleaved (Effect parse) (fun i => (calls i).prog ext) db₀ tr ps db)
    (hundisturbed : Undisturbed tr) {i j : ι} (hne : i ≠ j) {lease lease' : Lease}
    (hi : ps i = .ret lease) (hj : ps j = .ret lease') (hkey : lease.key = lease'.key) :
  lease.expiresAtMs ≤ lease'.acquiredAtMs ∨ lease'.expiresAtMs ≤ lease.acquiredAtMs
  := by
  have hinv := exclusive_of_interleaved hrange h hundisturbed
  obtain ⟨key, row, -, -, hprogress⟩ := progress_of_interleaved h i
  obtain ⟨key', row', -, -, hprogress'⟩ := progress_of_interleaved h j
  rw [hi] at hprogress
  rw [hj] at hprogress'
  obtain ⟨hwrote, rfl⟩ := hprogress.returned
  obtain ⟨hwrote', rfl⟩ := hprogress'.returned
  obtain rfl : key = key' := hkey
  apply hinv.apart i j key row row' hne (mem_own.mp hwrote) (mem_own.mp hwrote')

/-! ### Two clients that read before either writes -/

/-- Two clients that ask for the lock on one document, the second one at the given time. -/
def Sample.rivals (nowMs : Int64) : Bool → Acquire
  | false => .doc "document" "first" 0
  | true => .doc "document" "second" nowMs

def Sample.rivalRow (nowMs : Int64) : Bool → LineageEditLockRow
  | false => leaseRow "first" (lockTokenFor Sample.ext "document" "first" 0) 0
  | true => leaseRow "second" (lockTokenFor Sample.ext "document" "second" nowMs) nowMs

theorem Sample.rivals_prog (nowMs : Int64) (i : Bool) :
  ∃ readFailed held writeFailed, (Sample.rivals nowMs i).prog Sample.ext
    = acquireLock (.doc "document") (Sample.rivalRow nowMs i) readFailed held writeFailed
      >>= fun _ => .ret (leaseOf (.doc "document") (Sample.rivalRow nowMs i))
  := by
  have hdoc : isBlank "document" = false := by decide
  have hfirst : isBlank "first" = false := by decide
  have hsecond : isBlank "second" = false := by decide
  cases i with
  | false =>
    rw [rivals, Acquire.prog, lineageLockAcquire, if_neg (by simp [hdoc, hfirst]),
      Prog.bind_assoc]
    exact ⟨_, _, _, rfl⟩
  | true =>
    rw [rivals, Acquire.prog, lineageLockAcquire, if_neg (by simp [hdoc, hsecond]),
      Prog.bind_assoc]
    exact ⟨_, _, _, rfl⟩

theorem Sample.effect_write (db : LineageDb) (h : db.docs = Sample.documentDb.docs)
    (row : LineageEditLockRow) :
  Effect JsonText.parse (.writeLock (.doc "document") row) db (.ok ())
    (db.setLock (.doc "document") (some row))
  := by
  left
  use noFaults
  have hdoc : db.refers (.doc "document") = true := by
    rw [LineageDb.refers, h]
    decide
  rw [LineageDb.perform, if_pos hdoc]

/-- Both clients read the lock, and then both write it: each returns with a lease. -/
theorem leases_overlap :
  ∃ tr ps db lease lease', Interleaved (Effect JsonText.parse)
      (fun i => (Sample.rivals 1 i).prog Sample.ext) Sample.lineageDb tr ps db
    ∧ ps false = .ret lease ∧ ps true = .ret lease' ∧ lease.key = lease'.key
    ∧ lease.owner ≠ lease'.owner ∧ lease'.acquiredAtMs < lease.expiresAtMs
    ∧ lease.acquiredAtMs < lease'.expiresAtMs
  := by
  obtain ⟨_, _, _, hprog₁⟩ := Sample.rivals_prog 1 false
  obtain ⟨_, _, _, hprog₂⟩ := Sample.rivals_prog 1 true
  have hread : Effect JsonText.parse (.readLock (.doc "document")) Sample.lineageDb (.ok none)
      Sample.lineageDb := LineageDb.effect_perform _ _ _
  obtain ⟨k₁, k₁', hop₁, hwrite₁, hret₁⟩ := acquireLock_free (Option.filter_none _)
  obtain ⟨k₂, k₂', hop₂, hwrite₂, hret₂⟩ := acquireLock_free (Option.filter_none _)
  have h₀ : Interleaved (Effect JsonText.parse) (fun i => (Sample.rivals 1 i).prog Sample.ext)
      Sample.lineageDb [] _ Sample.lineageDb := .start
  have h₁ := h₀.turn false (hprog₁.trans hop₁) hread
  have h₂ := h₁.turn true (hprog₂.trans hop₂) hread
  have h₃ := h₂.turn false hwrite₁ (Sample.effect_write _ rfl _)
  have h₄ := h₃.turn true hwrite₂ (Sample.effect_write _ (LineageDb.docs_setLock _ _ _) _)
  refine ⟨_, _, _, _, _, h₄, hret₁, hret₂, rfl, ?_, ?_, ?_⟩
  · decide
  · decide
  · decide

/-- The second client comes when the lease of the first one has run out. -/
theorem leases_apart_in_turn :
  ∃ lease lease' : Lease, lease.owner = "first" ∧ lease'.owner = "second"
    ∧ (lease.expiresAtMs ≤ lease'.acquiredAtMs ∨ lease'.expiresAtMs ≤ lease.acquiredAtMs)
  := by
  obtain ⟨_, _, _, hprog₁⟩ := Sample.rivals_prog 900000 false
  obtain ⟨_, _, _, hprog₂⟩ := Sample.rivals_prog 900000 true
  have hread : Effect JsonText.parse (.readLock (.doc "document")) Sample.lineageDb (.ok none)
      Sample.lineageDb := LineageDb.effect_perform _ _ _
  have hfree : ((some (Sample.rivalRow 900000 false)).filter fun lock =>
      lock.expiresAtMs > (Sample.rivalRow 900000 true).acquiredAtMs) = none := by decide
  obtain ⟨k₁, k₁', hop₁, hwrite₁, hret₁⟩ := acquireLock_free (Option.filter_none _)
  obtain ⟨k₂, k₂', hop₂, hwrite₂, hret₂⟩ := acquireLock_free hfree
  have h₀ : Interleaved (Effect JsonText.parse)
      (fun i => (Sample.rivals 900000 i).prog Sample.ext) Sample.lineageDb [] _
      Sample.lineageDb := .start
  have h₁ := h₀.turn false (hprog₁.trans hop₁) hread
  have h₂ := h₁.turn false hwrite₁ (Sample.effect_write _ rfl _)
  have h₃ := h₂.turn true (hprog₂.trans hop₂) (LineageDb.effect_perform _ _ _)
  have h₄ := h₃.turn true hwrite₂ (Sample.effect_write _ (LineageDb.docs_setLock _ _ _) _)
  have hrange : InRange (Sample.rivals 900000) := by
    intro i
    cases i with
    | false => decide
    | true => decide
  have hnil : Undisturbed ([] : Trace Bool) := by
    intro i key lock row before between after htr
    simp at htr
  have hfirst := hnil.turn (.doc "document") none (Sample.rivalRow 900000 false)
    (i := false) (by simp)
  have hundisturbed := hfirst.turn (.doc "document") (some (Sample.rivalRow 900000 false))
    (Sample.rivalRow 900000 true) (i := true) (by simp [saw, wrote])
  refine ⟨_, _, ?_, ?_, leases_apart hrange h₄ hundisturbed Bool.false_ne_true hret₁ hret₂ rfl⟩
  · rfl
  · rfl

end Lineage

end KnowledgeCore
