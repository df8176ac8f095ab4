import KnowledgeCore.Lib.Conduct
import KnowledgeCore.Sync.Discard
import KnowledgeCore.Sync.Frame
import KnowledgeCore.Sync.Quiet
import KnowledgeCore.Sync.Settled
import KnowledgeCore.Sync.Target

/-!
# Synchronisations that fail

Any operation of a push or a pull may fail, and may have done a part of its work then. What is left
of the vault is one of a few things all the same. A push changes nothing but the rows of the last
synchronisation, and these only once it has been told that its head is written. A pull touches the
three trees only, and records rows only once all of them are in place.
-/

namespace KnowledgeCore

namespace Sync

open Prog (Conduct Follows Traced follows_bind follows_attempt onwards_ok onwards_error)

/-! ### Calls -/

def syncPushTarget (ext : Externals) (host : Host) (targetUri : String) (nowMs : Int64) :
  SyncM SyncPushResultV1
  := do
  let target ← Prog.ofExcept (SyncTargetUri.parse targetUri)
  match target with
  | .filePath path => syncPush ext path nowMs
  | .s3 bucket keyPrefix =>
    syncPushS3Target ext host (SyncTargetUri.s3 bucket keyPrefix).display nowMs

def syncPullTargetWithMode (ext : Externals) (host : Host) (targetUri : String) (nowMs : Int64)
    (autoMergeMode : Option String) (strictAuth : Bool) : SyncM SyncPullResultV1 := do
  let mode ← Prog.ofExcept (parseAutoMergeMode autoMergeMode)
  let target ← Prog.ofExcept (SyncTargetUri.parse targetUri)
  match target with
  | .filePath path => syncPullWithMode ext path nowMs mode strictAuth
  | .s3 bucket keyPrefix =>
    syncPullS3Target ext host (SyncTargetUri.s3 bucket keyPrefix).display nowMs mode strictAuth

/-! ### What operations do to a vault -/

/-- The vault after a transaction on its database. -/
def committed (ext : Externals) (vault : Dir Content) (file : SqliteFile) (db : Db) : Dir Content :=
  vault.write Vault.dbPath (.sqlite (ext.commit file db))

/-- A transaction is carried out, or it fails and leaves the vault as it was. -/
def Commits (ext : Externals) (f : Db → Db) (vault : Dir Content) (ok : Bool)
    (after : Dir Content) : Prop :=
  (∃ file, Vault.dbFile vault = some file ∧ after = committed ext vault file (f file.db))
    ∨ (ok = false ∧ after = vault)

/-- Nothing outside of a tree has changed. -/
def OnlyBelow (top : TopDir) (vault after : Dir Content) : Prop :=
  ∀ p, Dir.under top.path p = false → after.get p = vault.get p

/-- What an operation may do to the vault of a client, and be answered. An operation on the trees
may fail half way. What a target answers is not told by the vault. -/
def VaultEffect (ext : Externals) (host : Host) : Prog.Effect Op Op.Ans (Dir Content)
  | .writeState key value nowMs, vault, answer, after =>
    Commits ext (fun db => db.writeState key value nowMs) vault answer.isOk after
  | .writeSnapshotLog id row, vault, answer, after =>
    Commits ext (fun db => db.writeSnapshotLog id row) vault answer.isOk after
  | .openDb, vault, answer, after =>
    Vault.openDb ext host vault = .ok after ∨ (answer.isOk = false ∧ after = vault)
  | .removeTop top, vault, _, after => OnlyBelow top vault after
  | .createTop top, vault, _, after => OnlyBelow top vault after
  | .copyTop _ top, vault, _, after => OnlyBelow top vault after
  | _, vault, _, after => after = vault

/-- A site answers as one of the ways its vault allows. -/
theorem vaultEffect_perform (ext : Externals) (host : Host) (o : Op) (s : Site) :
  VaultEffect ext host o s.vault (perform ext host o s).1 (perform ext host o s).2.vault
  := by
  cases o with
  | writeState _ _ _ | writeSnapshotLog _ _ =>
    rw [perform, withDb]
    cases hfile : Vault.dbFile s.vault with
    | none => exact .inr ⟨rfl, rfl⟩
    | some file => exact .inl ⟨file, hfile, rfl⟩
  | openDb =>
    rw [perform]
    cases hopen : Vault.openDb ext host s.vault with
    | error e => exact .inr ⟨rfl, rfl⟩
    | ok vault => exact .inl hopen
  | removeTop top =>
    intro p hp
    change (s.vault.removeAll top.path).get p = s.vault.get p
    rw [Dir.get_removeAll, hp]
    rfl
  | createTop top =>
    intro p _
    rfl
  | copyTop source top =>
    intro p hp
    rw [perform]
    split
    · rfl
    · rw [Dir.get_copyTree, hp]
      rfl
  | writeHead head =>
    rw [perform]
    split <;> rfl
  | s3WriteIfAbsent key object =>
    rw [perform]
    split <;> rfl
  | ensureSyncTables | mainDbPath | readState _ | readDb =>
    rw [perform, withDb]
    split <;> rfl
  | _ => rfl

/-- A call that a site answers leaves a trace on its vault. -/
theorem traced_perform {α : Type} (ext : Externals) (host : Host) (p : SyncM α) (s : Site) :
  ∃ tr, Traced (VaultEffect ext host) p s.vault tr
    (.ofExcept (p.eval (perform ext host) s).1) (p.eval (perform ext host) s).2.vault
  := by
  obtain ⟨tr, htr⟩ := Prog.traced_eval
    (R := fun o s a t => VaultEffect ext host o s.vault a t.vault)
    (vaultEffect_perform ext host) p s
  exact ⟨tr, htr.map fun _ _ _ _ h => h⟩

/-! ### What a client has got done -/

/-- What a client was told that it has got done: the head it has written, the trees it has put in
place or need not put there, whether the database is open again, and the rows it has recorded since.
Also whether it has begun to change the trees, and to record rows. -/
structure Progress where
  moved : Option SyncHeadV1
  placed : List TopDir
  opened : Bool
  rows : String → Option String
  touched : Bool
  recording : Bool

/-- The head an object reads as. -/
def headIn (object : Content) : Option SyncHeadV1 :=
  (object.parseJson >>= SyncHeadV1.ofJson).toOption

namespace Progress

def start : Progress where
  moved := none
  placed := []
  opened := false
  rows _ := none
  touched := false
  recording := false

def next : Progress → (o : Op) → o.Ans → Progress
  | v, .writeHead head, .ok () => { v with moved := some head }
  | v, .s3Write key object, .ok () =>
    if key = S3_HEAD_KEY then { v with moved := headIn object } else v
  | v, .sourceHas _ top, false => { v with placed := top :: v.placed }
  | v, .removeTop _, _ => { v with touched := true, rows := fun _ => none }
  | v, .createTop _, _ => { v with touched := true, rows := fun _ => none }
  | v, .copyTop _ top, answer =>
    { v with
      touched := true
      rows := fun _ => none
      placed := if answer.isOk then top :: v.placed else v.placed }
  | v, .openDb, answer =>
    { v with touched := true, rows := fun _ => none, opened := answer.isOk }
  | v, .writeState key value _, answer =>
    { v with
      recording := true
      rows := fun key' =>
        if key = key' then (if answer.isOk then some value else none) else v.rows key' }
  | v, .writeSnapshotLog _ _, _ => { v with recording := true }
  | v, _, _ => v

/-- The trees are in place, and the database is open. -/
def InPlace (v : Progress) : Prop :=
  (∀ top, top ∈ v.placed) ∧ v.opened = true

end Progress

/-- What a row of the last synchronisation has to be for a head. -/
def headRow (head : SyncHeadV1) (key : String) : Option String :=
  if key = "sync_remote_head_seen" then some head.snapshotId
  else if key = "sync_last_applied_manifest_hash" then some head.manifestHash
  else if key = "sync_last_applied_snapshot_id" then some head.snapshotId
  else none

/-- The operations that neither change the vault nor the head of a target. -/
def KeepsVaultAndHead (o : Op) : Prop :=
  o.KeepsVault ∧ o.KeepsHead ∧ o.KeepsKey S3_HEAD_KEY

/-- Rows are recorded for a head only when the client is ready for it. Which other operations a
client may issue is given. -/
def recordingConduct (ready : Progress → SyncHeadV1 → Prop) (may : Progress → Op → Prop) :
    Conduct Op Op.Ans Progress where
  allowed
    | v, .writeState key value _ => ∃ head, ready v head ∧ headRow head key = some value
    | v, .writeSnapshotLog id row =>
      ∃ head, ready v head ∧ id = head.snapshotId ∧ row.manifestHash = head.manifestHash
    | v, o => KeepsVaultAndHead o ∨ may v o
  next := Progress.next

variable {ext : Externals} {host : Host} {target : String} {nowMs : Int64}
  {ready : Progress → SyncHeadV1 → Prop} {may : Progress → Op → Prop}

/-! ### Parts of calls -/

/-- A client that has got no further, except that it may have found trees it need not place. -/
structure Progress.Extends (v w : Progress) : Prop where
  moved : w.moved = v.moved
  opened : w.opened = v.opened
  rows : w.rows = v.rows
  touched : w.touched = v.touched
  recording : w.recording = v.recording
  placed : ∀ top ∈ v.placed, top ∈ w.placed

theorem Progress.Extends.refl (v : Progress) : v.Extends v :=
  ⟨rfl, rfl, rfl, rfl, rfl, fun _ h => h⟩

theorem Progress.Extends.trans {u v w : Progress} (h : u.Extends v) (h' : v.Extends w) :
  u.Extends w
  where
  moved := h'.moved.trans h.moved
  opened := h'.opened.trans h.opened
  rows := h'.rows.trans h.rows
  touched := h'.touched.trans h.touched
  recording := h'.recording.trans h.recording
  placed top hmem := h'.placed top (h.placed top hmem)

/-- What leaves the vault and the head alone gets a client no further. -/
theorem extends_next {v : Progress} {o : Op} (a : o.Ans) (h : KeepsVaultAndHead o) :
  v.Extends (v.next o a)
  := by
  obtain ⟨hvault, hhead, hkey⟩ := h
  cases o with
  | writeState _ _ _ | writeSnapshotLog _ _ | openDb | removeTop _ | createTop _ | copyTop _ _ =>
    exact hvault.elim
  | writeHead _ => exact hhead.elim
  | s3Write key object =>
    cases a with
    | error e => apply Progress.Extends.refl
    | ok =>
      rw [Progress.next, if_neg hkey]
      apply Progress.Extends.refl
  | sourceHas source top =>
    cases a with
    | true => apply Progress.Extends.refl
    | false => exact ⟨rfl, rfl, rfl, rfl, rfl, fun _ h => List.mem_cons_of_mem _ h⟩
  | _ => apply Progress.Extends.refl

theorem follows_aside {α : Type} {p : SyncM α} {v : Progress} (hp : p.AllOps KeepsVaultAndHead) :
  p.Follows (recordingConduct ready may) (fun _ w => v.Extends w) v
  := by
  apply Prog.AllOps.follows (I := fun w => v.Extends w) hp _ _ (Progress.Extends.refl v)
  · intro w o _ ho
    cases o with
    | writeState _ _ _ | writeSnapshotLog _ _ => exact ho.1.elim
    | _ => exact .inl ho
  · intro w o a hw ho
    exact hw.trans (extends_next a ho)

/-- A part of a call that leaves the vault and the head alone, and what comes after it. -/
theorem follows_aside_bind {α β : Type} {p : SyncM α} {f : α → SyncM β}
    {Q : AppResult β → Progress → Prop} {v : Progress} (hp : p.AllOps KeepsVaultAndHead)
    (herror : ∀ e w, Q (.error e) w)
    (hok : ∀ a w, v.Extends w → (f a).Follows (recordingConduct ready may) Q w) :
  (p >>= f).Follows (recordingConduct ready may) Q v
  := by
  rw [follows_bind]
  apply (follows_aside hp).mono
  intro r w hw
  cases r with
  | error e => apply herror e w
  | ok a => apply hok a w hw

theorem prepares_aside {o : Op} (h : o.Prepares) :
  KeepsVaultAndHead o
  := ⟨h.keepsVault, h.keepsHead, prepares_keepsHeadKey h⟩

theorem publishes_aside {o : Op} (h : o.Publishes) :
  KeepsVaultAndHead o
  := by
  use publishes_keepsVault h
  constructor
  · cases o <;> trivial
  · exact publishes_keepsHeadKey h

theorem locks_aside {o : Op} (h : o.Locks) :
  KeepsVaultAndHead o
  := by
  use locks_keepsVault h
  constructor
  · cases o <;> trivial
  · exact locks_keepsHeadKey h

/-- What is recorded for a head. -/
def Recorded (head : SyncHeadV1) (v : Progress) : Prop :=
  ∀ key value, headRow head key = some value → v.rows key = some value

/-- A client that is ready stays ready while it records. -/
def Steady (ready : Progress → SyncHeadV1 → Prop) : Prop :=
  ∀ v head rows, ready v head → ready { v with recording := true, rows } head

theorem follows_writeState {α : Type} {key value : String} {f : Unit → SyncM α}
    {Q : AppResult α → Progress → Prop} {v : Progress} (head : SyncHeadV1) (hready : ready v head)
    (hrow : headRow head key = some value) (herror : ∀ e w, Q (.error e) w)
    (hok : (f ()).Follows (recordingConduct ready may) Q
      { v with
        recording := true
        rows := fun key' => if key = key' then some value else v.rows key' }) :
  (writeState key value nowMs >>= f).Follows (recordingConduct ready may) Q v
  := by
  use ⟨head, hready, hrow⟩
  intro answer
  cases answer with
  | error e => apply herror
  | ok => exact hok

/-- A client that is ready for a head records it in three rows and in the log. -/
theorem follows_recordSync {direction bundleRelpath : String} {head : SyncHeadV1} {v : Progress}
    (hsteady : Steady ready) (hready : ready v head) :
  (recordSync direction head.snapshotId bundleRelpath head.manifestHash nowMs).Follows
    (recordingConduct ready may)
    (fun r w => r.isOk = true →
      Recorded head w ∧ w.moved = v.moved ∧ w.placed = v.placed ∧ w.opened = v.opened) v
  := by
  have herror (e : AppError) (w : Progress) : (Except.error e : AppResult Unit).isOk = true →
      Recorded head w ∧ w.moved = v.moved ∧ w.placed = v.placed ∧ w.opened = v.opened := by
    intro h
    cases h
  rw [recordSync]
  have hstays (rows : String → Option String) : ready { v with recording := true, rows } head :=
    hsteady v head rows hready
  apply follows_writeState head hready rfl herror
  apply follows_writeState head (hstays _) rfl herror
  apply follows_writeState head (hstays _) rfl herror
  refine ⟨⟨head, hstays _, rfl, rfl⟩, ?_⟩
  intro answer
  cases answer with
  | error e => apply herror
  | ok =>
    intro _
    refine ⟨?_, rfl, rfl, rfl⟩
    intro key value hvalue
    change (if "sync_last_applied_snapshot_id" = key then some head.snapshotId
      else if "sync_last_applied_manifest_hash" = key then some head.manifestHash
      else if "sync_remote_head_seen" = key then some head.snapshotId
      else v.rows key) = some value
    rw [headRow] at hvalue
    split_ifs at hvalue with hseen hmanifest hsnapshot
    · subst hseen
      rw [if_neg (by decide), if_neg (by decide), if_pos rfl, hvalue]
    · subst hmanifest
      rw [if_neg (by decide), if_pos rfl, hvalue]
    · subst hsnapshot
      rw [if_pos rfl, hvalue]

/-- What a call that returns leaves its client with. -/
def Returns {α : Type} (P : α → Progress → Prop) : AppResult α → Progress → Prop :=
  fun r w => ∀ a, r = .ok a → P a w

theorem returns_error {α : Type} {P : α → Progress → Prop} (e : AppError) (w : Progress) :
  Returns P (.error e) w
  := by
  intro a h
  cases h

/-- Taking the lock and giving it back gets a client no further. -/
theorem follows_withS3Lock_recording {α : Type} {vaultId : String} {trust : SyncTrustV1}
    {f : SyncM α} {P : α → Progress → Prop} {v : Progress}
    (hP : ∀ a w w', P a w → w.Extends w' → P a w')
    (hf : ∀ w, v.Extends w → f.Follows (recordingConduct ready may) (Returns P) w) :
  (withS3Lock target vaultId trust nowMs f).Follows (recordingConduct ready may) (Returns P) v
  := by
  apply follows_aside_bind ((acquireS3Lock_locks vaultId trust).mono fun _ => locks_aside)
    returns_error
  intro lock w hw
  rw [follows_bind, follows_attempt]
  apply (hf w hw).mono
  intro r w hreturns
  rw [onwards_ok, follows_bind, follows_attempt]
  have hrelease : (releaseS3Lock target lock.holder).AllOps KeepsVaultAndHead :=
    (releaseS3Lock_locks lock.holder).mono fun _ => locks_aside
  apply (follows_aside hrelease).mono
  intro r' w' hw'
  rw [onwards_ok, Prog.follows_ofExcept]
  intro a ha
  cases r with
  | error e => cases ha
  | ok result =>
    cases r' with
    | error e => cases ha
    | ok =>
      cases ha
      exact hP a w w' (hreturns a rfl) hw'

/-! ### Pushes -/

/-- How a push proceeds: it records a head once it was told that the head is written. -/
def pushConduct : Conduct Op Op.Ans Progress :=
  recordingConduct (fun v head => v.moved = some head) fun v o => v.moved = none ∧ o.KeepsVault

/-- A push that returns has written its head and recorded it. -/
def Pushed (result : SyncPushResultV1) (v : Progress) : Prop :=
  v.moved = some result.remoteHead ∧ Recorded result.remoteHead v

theorem Pushed.extends {result : SyncPushResultV1} {v w : Progress} (h : Pushed result v)
    (hw : v.Extends w) :
  Pushed result w
  := by
  use hw.moved.trans h.1
  intro key value hvalue
  rw [hw.rows]
  exact h.2 key value hvalue

/-- After its head is written a push records it. -/
theorem follows_recordPush {bundleRelpath : String} {head : SyncHeadV1} {v : Progress}
    (hv : v.moved = some head) :
  (recordSync "push" head.snapshotId bundleRelpath head.manifestHash nowMs >>= fun _ =>
      pure (pushResult head)).Follows pushConduct (Returns Pushed) v
  := by
  rw [follows_bind]
  apply (follows_recordSync (fun _ _ _ h => h) hv).mono
  intro r w hw
  cases r with
  | error e => apply returns_error
  | ok =>
    obtain ⟨hrecorded, hmoved, -⟩ := hw rfl
    rintro result ⟨⟩
    exact ⟨hmoved.trans hv, hrecorded⟩

theorem follows_syncPush {v : Progress} (hv : v.moved = none) :
  (syncPush ext target nowMs).Follows pushConduct (Returns Pushed) v
  := by
  rw [syncPush]
  apply follows_aside_bind (preparePush_prepares.mono fun _ => prepares_aside) returns_error
  rintro ⟨bundle, hash⟩ w hw
  apply follows_aside_bind ((publishSnapshot_publishes _ _).mono fun _ => publishes_aside)
    returns_error
  intro _ w' hw'
  use .inr ⟨hw'.moved.trans (hw.moved.trans hv), trivial⟩
  intro answer
  cases answer with
  | error e => apply returns_error
  | ok => exact follows_recordPush rfl

theorem headIn_toJson (head : SyncHeadV1) :
  headIn (.json head.toJson 0) = some head
  := by
  simp [headIn, Content.parseJson, bind, Except.bind, Except.toOption]

theorem follows_publishS3Push_recording {plan : S3PushPlan} {v : Progress} (hv : v.moved = none) :
  (publishS3Push ext host target nowMs plan).Follows pushConduct (Returns Pushed) v
  := by
  rw [publishS3Push]
  apply follows_aside_bind
  · apply (composeS3Push_prepares_or_publishes plan).mono
    rintro o (h | h)
    · exact prepares_aside h
    · exact publishes_aside h
  · apply returns_error
  intro head w hw
  rw [finishPush, writeHeadS3, SyncHeadV1.ofCanonical_toJson, Prog.ofExcept_ok, Prog.ret_bind]
  use .inr ⟨hw.moved.trans hv, trivial⟩
  intro answer
  cases answer with
  | error e => apply returns_error
  | ok =>
    apply follows_recordPush
    change headIn (.json head.toJson 0) = some head
    apply headIn_toJson

theorem follows_syncPushS3Target_recording {v : Progress} (hv : v.moved = none) :
  (syncPushS3Target ext host target nowMs).Follows pushConduct (Returns Pushed) v
  := by
  rw [syncPushS3Target]
  apply follows_aside_bind (prepareS3Push_prepares.mono fun _ => prepares_aside) returns_error
  intro plan w hw
  apply follows_withS3Lock_recording
  · intro result w w' h hw'
    exact h.extends hw'
  · intro w' hw'
    exact follows_publishS3Push_recording (hw'.moved.trans (hw.moved.trans hv))

theorem follows_syncPushTarget (targetUri : String) :
  (syncPushTarget ext host targetUri nowMs).Follows pushConduct (Returns Pushed) Progress.start
  := by
  rw [syncPushTarget, follows_bind, Prog.follows_ofExcept]
  cases SyncTargetUri.parse targetUri with
  | error e => apply returns_error
  | ok target =>
    cases target with
    | filePath path => exact follows_syncPush rfl
    | s3 bucket keyPrefix => exact follows_syncPushS3Target_recording rfl

/-! ### Pulls -/

/-- How a pull proceeds: it records a head once the trees are in place, and changes no tree after
that. -/
def pullConduct : Conduct Op Op.Ans Progress :=
  recordingConduct (fun v _ => v.InPlace) fun v o =>
    v.recording = false ∧ (o.Replaces ∨ o = .openDb)

/-- A pull that returns has put all trees in place and recorded its head. -/
def Pulled (result : SyncPullResultV1) (v : Progress) : Prop :=
  v.InPlace ∧ Recorded result.remoteHead v

theorem Pulled.extends {result : SyncPullResultV1} {v w : Progress} (h : Pulled result v)
    (hw : v.Extends w) :
  Pulled result w
  := by
  obtain ⟨⟨hplaced, hopened⟩, hrecorded⟩ := h
  refine ⟨⟨fun top => hw.placed top (hplaced top), hw.opened.trans hopened⟩, ?_⟩
  intro key value hvalue
  rw [hw.rows]
  exact hrecorded key value hvalue

/-- A client that has not begun to record, and has these trees in place. -/
def Placing (placed : List TopDir) (v : Progress) : Prop :=
  v.recording = false ∧ ∀ top ∈ placed, top ∈ v.placed

theorem follows_replaceTop {source : Source} {top : TopDir} {placed : List TopDir} {v : Progress}
    (hv : Placing placed v) :
  (replaceTop source top).Follows pullConduct (Returns fun _ => Placing (top :: placed)) v
  := by
  have hclear {w : Progress} (hw : Placing placed w) :
      (createTop top >>= fun _ => copyTop source top).Follows pullConduct
        (Returns fun _ => Placing (top :: placed)) w := by
    use .inr ⟨hw.1, .inl trivial⟩
    intro answer
    cases answer with
    | error e => apply returns_error
    | ok =>
      use .inr ⟨hw.1, .inl trivial⟩
      intro answer
      cases answer with
      | error e => apply returns_error
      | ok =>
        rintro _ ⟨⟩
        use hw.1
        intro other hmem
        obtain rfl | hmem := List.mem_cons.mp hmem
        · apply List.mem_cons_self
        · apply List.mem_cons_of_mem _ (hw.2 other hmem)
  rw [replaceTop]
  use .inl ⟨trivial, trivial, trivial⟩
  intro answer
  cases answer with
  | false =>
    rintro _ ⟨⟩
    use hv.1
    intro other hmem
    obtain rfl | hmem := List.mem_cons.mp hmem
    · apply List.mem_cons_self
    · apply List.mem_cons_of_mem _ (hv.2 other hmem)
  | true =>
    use .inl ⟨trivial, trivial, trivial⟩
    intro answer
    cases answer with
    | absent => exact hclear hv
    | directory | file =>
      use .inr ⟨hv.1, .inl trivial⟩
      intro answer
      cases answer with
      | error e => apply returns_error
      | ok => exact hclear hv

theorem Placing.extends {placed : List TopDir} {v w : Progress} (h : Placing placed v)
    (hw : v.Extends w) :
  Placing placed w
  := by
  use hw.recording.trans h.1
  intro top hmem
  exact hw.placed top (h.2 top hmem)

theorem follows_replaceTops {source : Source} {tops placed : List TopDir} {v : Progress}
    (hv : Placing placed v) :
  (tops.forM (replaceTop source)).Follows pullConduct
    (Returns fun _ w => Placing placed w ∧ ∀ top ∈ tops, top ∈ w.placed) v
  := by
  induction tops generalizing placed v with
  | nil =>
    rintro _ ⟨⟩
    use hv
    intro top hmem
    cases hmem
  | cons first rest ih =>
    change (replaceTop source first >>= fun _ => rest.forM (replaceTop source)).Follows _ _ v
    rw [follows_bind]
    apply (follows_replaceTop hv).mono
    intro r w hw
    cases r with
    | error e =>
      rw [onwards_error]
      apply returns_error
    | ok =>
      apply (ih (hw _ rfl)).mono
      intro r w hw a ha
      obtain ⟨⟨hrecording, hplaced⟩, hrest⟩ := hw a ha
      refine ⟨⟨hrecording, fun top hmem => hplaced top (List.mem_cons_of_mem _ hmem)⟩, ?_⟩
      intro top hmem
      obtain rfl | hmem := List.mem_cons.mp hmem
      · apply hplaced _ List.mem_cons_self
      · apply hrest top hmem

theorem follows_finishPull {source : Source} {head : SyncHeadV1} {bundleRelpath : String}
    {v : Progress} (hv : v.recording = false) :
  (finishPull source head bundleRelpath nowMs).Follows pullConduct (Returns Pulled) v
  := by
  rw [finishPull, applySnapshotToVault, Prog.bind_assoc]
  apply follows_aside_bind (by simp [validateLimits, KeepsVaultAndHead, Op.KeepsVault, Op.KeepsHead,
    Op.KeepsKey]) returns_error
  intro _ w hw
  rw [follows_bind]
  have hplacing : Placing [] w := ⟨hw.recording.trans hv, fun _ h => by cases h⟩
  apply (follows_replaceTops hplacing).mono
  intro r w hw
  cases r with
  | error e => apply returns_error
  | ok =>
    obtain ⟨⟨hrecording, -⟩, hplaced⟩ := hw _ rfl
    use .inr ⟨hrecording, .inr rfl⟩
    intro answer
    cases answer with
    | error e => apply returns_error
    | ok =>
      have hready : Progress.InPlace (w.next .openDb (.ok ())) := by
        refine ⟨?_, rfl⟩
        intro top
        apply hplaced
        cases top <;> decide
      change (recordSync "pull" head.snapshotId bundleRelpath head.manifestHash nowMs >>= fun _ =>
        pure (pullResult head)).Follows _ _ (w.next .openDb (.ok ()))
      rw [follows_bind]
      apply (follows_recordSync (fun _ _ _ h => h) hready).mono
      intro r w' hw'
      cases r with
      | error e => apply returns_error
      | ok =>
        obtain ⟨hrecorded, -, hsame, hopened⟩ := hw' rfl
        rintro result ⟨⟩
        refine ⟨⟨?_, hopened.trans hready.2⟩, hrecorded⟩
        intro top
        rw [hsame]
        exact hready.1 top

theorem follows_syncPullWithMode {mode : Option SyncAutoMergeMode} {strictAuth : Bool}
    {v : Progress} (hv : v.recording = false) :
  (syncPullWithMode ext target nowMs mode strictAuth).Follows pullConduct (Returns Pulled) v
  := by
  rw [syncPullWithMode]
  apply follows_aside_bind ((preparePull_prepares mode strictAuth).mono fun _ => prepares_aside)
    returns_error
  intro head w hw
  apply follows_finishPull (hw.recording.trans hv)

theorem follows_syncPullS3Target_recording {mode : Option SyncAutoMergeMode} {strictAuth : Bool}
    {v : Progress} (hv : v.recording = false) :
  (syncPullS3Target ext host target nowMs mode strictAuth).Follows pullConduct (Returns Pulled) v
  := by
  rw [syncPullS3Target]
  apply follows_aside_bind ((prepareS3Pull_prepares mode strictAuth).mono fun _ => prepares_aside)
    returns_error
  intro plan w hw
  apply follows_withS3Lock_recording
  · intro result w w' h hw'
    exact h.extends hw'
  · intro w' hw'
    apply follows_aside_bind ((fetchS3Snapshot_prepares mode strictAuth plan).mono fun _ =>
      prepares_aside) returns_error
    rintro ⟨head, dir⟩ w'' hw''
    apply follows_finishPull
    exact hw''.recording.trans (hw'.recording.trans (hw.recording.trans hv))

theorem follows_syncPullTargetWithMode (targetUri : String) (autoMergeMode : Option String)
    (strictAuth : Bool) :
  (syncPullTargetWithMode ext host targetUri nowMs autoMergeMode strictAuth).Follows pullConduct
    (Returns Pulled) Progress.start
  := by
  rw [syncPullTargetWithMode, follows_bind, Prog.follows_ofExcept]
  cases parseAutoMergeMode autoMergeMode with
  | error e => apply returns_error
  | ok mode =>
    rw [onwards_ok, follows_bind, Prog.follows_ofExcept]
    cases SyncTargetUri.parse targetUri with
    | error e => apply returns_error
    | ok target =>
      cases target with
      | filePath path => exact follows_syncPullWithMode rfl
      | s3 bucket keyPrefix => exact follows_syncPullS3Target_recording rfl

/-! ### What is left of the vault -/

/-- A row of the last synchronisation. -/
def stateRow (vault : Dir Content) (key : String) : Option String :=
  (Vault.dbFile vault).bind fun file => file.db.readState key

/-- Two database files that differ only in what is kept of synchronisations. -/
def SameButSync (file file' : SqliteFile) : Prop :=
  file'.key = file.key ∧ ∃ syncState syncSnapshots,
    file'.db = { file.db with syncState, syncSnapshots }

/-- The database is another one only in what is kept of synchronisations. -/
def DbKept (vault after : Dir Content) : Prop :=
  ∀ file', Vault.dbFile after = some file' →
    ∃ file, Vault.dbFile vault = some file ∧ SameButSync file file'

/-- What a client was told is recorded is recorded. -/
def RowsHold (v : Progress) (vault : Dir Content) : Prop :=
  ∀ key value, v.rows key = some value → stateRow vault key = some value

/-- What a push leaves of a vault, given how far it has got: the files other than the database, and
of that all but the rows of the last synchronisation, each of which is the one that was there before
or that of the head which the push was told is written. -/
structure PushKeeps (vault : Dir Content) (v : Progress) (after : Dir Content) : Prop where
  unmoved : v.moved = none → after = vault
  files : ∀ p, p ≠ Vault.dbPath → after.get p = vault.get p
  db : DbKept vault after
  rows : ∀ key, stateRow after key = stateRow vault key
    ∨ ∃ head, v.moved = some head ∧ stateRow after key = headRow head key
  recorded : RowsHold v after

/-- What a pull leaves of a vault, given how far it has got: what is outside of the three trees, and
everything if it has not begun with them. It begins to record rows only when they are in place. -/
structure PullKeeps (vault : Dir Content) (v : Progress) (after : Dir Content) : Prop where
  untouched : v.touched = false → after = vault
  opened : v.opened = true → v.touched = true
  outside : ∀ p, (∀ top : TopDir, Dir.under top.path p = false) → after.get p = vault.get p
  placed : v.recording = true → v.InPlace
  recorded : RowsHold v after

variable {vault after : Dir Content} {v : Progress}

theorem dbFile_committed (file : SqliteFile) (db : Db) :
  Vault.dbFile (committed ext vault file db) = some (ext.commit file db)
  := by
  simp [Vault.dbFile_eq_some, committed]

theorem stateRow_writeState {file : SqliteFile} {key value key' : String}
    (hfile : Vault.dbFile vault = some file) :
  stateRow (committed ext vault file (file.db.writeState key value nowMs)) key'
    = if key = key' then some value else stateRow vault key'
  := by
  simp [stateRow, dbFile_committed, hfile, Externals.commit]

theorem stateRow_writeSnapshotLog {file : SqliteFile} {id key : String} {row : SyncSnapshotRow}
    (hfile : Vault.dbFile vault = some file) :
  stateRow (committed ext vault file (file.db.writeSnapshotLog id row)) key = stateRow vault key
  := by
  simp [stateRow, dbFile_committed, hfile, Externals.commit]

theorem vaultEffect_keepsVault {o : Op} {a : o.Ans} (ho : o.KeepsVault)
    (h : VaultEffect ext host o vault a after) :
  after = vault
  := by
  cases o with
  | writeState _ _ _ | writeSnapshotLog _ _ | openDb | removeTop _ | createTop _ | copyTop _ _ =>
    exact ho.elim
  | _ => exact h

theorem rows_next {o : Op} (a : o.Ans) (ho : o.KeepsVault) :
  (v.next o a).rows = v.rows
  := by
  cases o with
  | writeState _ _ _ | writeSnapshotLog _ _ | openDb | removeTop _ | createTop _ | copyTop _ _ =>
    exact ho.elim
  | writeHead _ => cases a <;> rfl
  | s3Write key _ =>
    cases a with
    | error e => rfl
    | ok =>
      rw [Progress.next]
      split <;> rfl
  | sourceHas _ _ => cases a <;> rfl
  | _ => rfl

theorem RowsHold.writeState {key value : String} {a : AppResult Unit} (h : RowsHold v vault)
    (hop : VaultEffect ext host (.writeState key value nowMs) vault a after) :
  RowsHold (v.next (.writeState key value nowMs) a) after
  := by
  intro key' value' hrow
  change (if key = key' then (if a.isOk then some value else none) else v.rows key')
    = some value' at hrow
  obtain ⟨file, hfile, rfl⟩ | ⟨hfails, rfl⟩ := hop
  · rw [stateRow_writeState hfile]
    by_cases hsame : key = key'
    · rw [if_pos hsame] at hrow ⊢
      split at hrow
      · exact hrow
      · cases hrow
    · rw [if_neg hsame] at hrow ⊢
      exact h key' value' hrow
  · rw [hfails] at hrow
    by_cases hsame : key = key'
    · rw [if_pos hsame] at hrow
      cases hrow
    · rw [if_neg hsame] at hrow
      exact h key' value' hrow

theorem RowsHold.writeSnapshotLog {id : String} {row : SyncSnapshotRow} {a : AppResult Unit}
    (h : RowsHold v vault) (hop : VaultEffect ext host (.writeSnapshotLog id row) vault a after) :
  RowsHold (v.next (.writeSnapshotLog id row) a) after
  := by
  intro key value hrow
  obtain ⟨file, hfile, rfl⟩ | ⟨-, rfl⟩ := hop
  · rw [stateRow_writeSnapshotLog hfile]
    exact h key value hrow
  · exact h key value hrow

/-- A transaction leaves the files other than the database. -/
theorem Commits.get {f : Db → Db} {ok : Bool} (h : Commits ext f vault ok after) {p : RelPath}
    (hp : p ≠ Vault.dbPath) :
  after.get p = vault.get p
  := by
  obtain ⟨file, -, rfl⟩ | ⟨-, rfl⟩ := h
  · rw [committed, Dir.get_write, if_neg (Ne.symm hp)]
  · rfl

/-- A transaction on what is kept of synchronisations leaves the rest of the database. -/
theorem DbKept.commits {f : Db → Db} {ok : Bool} {s t : Dir Content} (h : DbKept vault s)
    (hop : Commits ext f s ok t)
    (hf : ∀ db, ∃ syncState syncSnapshots, f db = { db with syncState, syncSnapshots }) :
  DbKept vault t
  := by
  obtain ⟨file, hfile, rfl⟩ | ⟨-, rfl⟩ := hop
  · intro file' hfile'
    rw [dbFile_committed, Option.some.injEq] at hfile'
    subst hfile'
    obtain ⟨file₀, hfile₀, hkey, syncState, syncSnapshots, hdb⟩ := h file hfile
    obtain ⟨syncState', syncSnapshots', hnew⟩ := hf file.db
    use file₀, hfile₀, hkey, syncState', syncSnapshots'
    rw [Externals.commit, hnew, hdb]
  · exact h

/-- What a push is told while its vault stays as it is. -/
theorem PushKeeps.kept {w : Progress} (h : PushKeeps vault v after) (hrows : w.rows = v.rows)
    (hmoved : w.moved = v.moved ∨ v.moved = none) :
  PushKeeps vault w after
  := by
  constructor
  · intro hnone
    apply h.unmoved
    obtain hsame | hbefore := hmoved
    · exact hsame.symm.trans hnone
    · exact hbefore
  · exact h.files
  · exact h.db
  · intro key
    obtain hold | ⟨head, hhead, hrow⟩ := h.rows key
    · exact .inl hold
    · obtain hsame | hnone := hmoved
      · exact .inr ⟨head, hsame.trans hhead, hrow⟩
      · rw [hnone] at hhead
        cases hhead
  · intro key value hrow
    rw [hrows] at hrow
    exact h.recorded key value hrow

/-- A transaction of a push that was told that its head is written. -/
theorem PushKeeps.commits {w : Progress} {f : Db → Db} {ok : Bool} {head : SyncHeadV1}
    {s t : Dir Content} (h : PushKeeps vault v s) (hop : Commits ext f s ok t)
    (hf : ∀ db, ∃ syncState syncSnapshots, f db = { db with syncState, syncSnapshots })
    (hmoved : v.moved = some head) (hw : w.moved = v.moved)
    (hrows : ∀ key, stateRow t key = stateRow s key ∨ stateRow t key = headRow head key)
    (hrecorded : RowsHold w t) :
  PushKeeps vault w t
  := by
  constructor
  · intro hnone
    rw [hw, hmoved] at hnone
    cases hnone
  · intro p hp
    exact (hop.get hp).trans (h.files p hp)
  · exact h.db.commits hop hf
  · intro key
    rw [hw]
    obtain hsame | hrow := hrows key
    · rw [hsame]
      apply h.rows key
    · exact .inr ⟨head, hmoved, hrow⟩
  · exact hrecorded

/-- What a push is allowed to do keeps what is said of it. -/
theorem PushKeeps.step {o : Op} {a : o.Ans} {s t : Dir Content} (h : PushKeeps vault v s)
    (hallowed : pushConduct.allowed v o) (hop : VaultEffect ext host o s a t) :
  PushKeeps vault (pushConduct.next v o a) t
  := by
  cases o with
  | writeState key value nowMs =>
    obtain ⟨head, hmoved, hvalue⟩ := hallowed
    have hcommits : Commits ext (fun db => db.writeState key value nowMs) s a.isOk t := hop
    refine h.commits hcommits ?_ hmoved rfl ?_ (h.recorded.writeState hop)
    · intro db
      use (db.writeState key value nowMs).syncState, db.syncSnapshots
      rfl
    · intro key'
      obtain ⟨file, hfile, rfl⟩ | ⟨-, rfl⟩ := hop
      · rw [stateRow_writeState hfile]
        by_cases hsame : key = key'
        · right
          rw [if_pos hsame, ← hsame, hvalue]
        · left
          rw [if_neg hsame]
      · exact .inl rfl
  | writeSnapshotLog id row =>
    obtain ⟨head, hmoved, -⟩ := hallowed
    have hcommits : Commits ext (fun db => db.writeSnapshotLog id row) s a.isOk t := hop
    refine h.commits hcommits ?_ hmoved rfl ?_ (h.recorded.writeSnapshotLog hop)
    · intro db
      use db.syncState, (db.writeSnapshotLog id row).syncSnapshots
      rfl
    · intro key
      left
      obtain ⟨file, hfile, rfl⟩ | ⟨-, rfl⟩ := hop
      · apply stateRow_writeSnapshotLog hfile
      · rfl
  | _ =>
    obtain hplain | ⟨hnone, hkeeps⟩ := hallowed
    · obtain rfl := vaultEffect_keepsVault hplain.1 hop
      exact h.kept (rows_next a hplain.1) (.inl (extends_next a hplain).moved)
    · obtain rfl := vaultEffect_keepsVault hkeeps hop
      exact h.kept (rows_next a hkeeps) (.inr hnone)

theorem under_db_dbPath {p : RelPath} (h : Dir.under TopDir.db.path p = false) :
  p ≠ Vault.dbPath
  := by
  rintro rfl
  cases h

theorem get_openDb {p : RelPath} (h : Vault.openDb ext host vault = .ok after)
    (hp : p ≠ Vault.dbPath) :
  after.get p = vault.get p
  := by
  simp only [Vault.openDb, AppResult.bind_eq_ok] at h
  obtain ⟨key, -, file, -, h⟩ := h
  cases h
  rw [Dir.get_write, if_neg (Ne.symm hp)]

theorem PullKeeps.extends {w : Progress} (h : PullKeeps vault v after) (hw : v.Extends w) :
  PullKeeps vault w after
  where
  untouched hnot := h.untouched (hw.touched.symm.trans hnot)
  opened hopen := hw.touched.trans (h.opened (hw.opened.symm.trans hopen))
  outside := h.outside
  placed hbegun := by
    obtain ⟨hplaced, hopened⟩ := h.placed (hw.recording.symm.trans hbegun)
    exact ⟨fun top => hw.placed top (hplaced top), hw.opened.trans hopened⟩
  recorded key value hrow := by
    rw [hw.rows] at hrow
    exact h.recorded key value hrow

/-- What is done to a tree, before rows are recorded. -/
theorem PullKeeps.tree {w : Progress} {top : TopDir} {s t : Dir Content} (h : PullKeeps vault v s)
    (hop : OnlyBelow top s t) (hv : v.recording = false) (htouched : w.touched = true)
    (hrecording : w.recording = v.recording) (hrows : w.rows = fun _ => none) :
  PullKeeps vault w t
  := by
  constructor
  · intro hnot
    rw [htouched] at hnot
    cases hnot
  · intro _
    exact htouched
  · intro p hp
    exact (hop p (hp top)).trans (h.outside p hp)
  · intro hbegun
    rw [hrecording, hv] at hbegun
    cases hbegun
  · intro key value hrow
    rw [hrows] at hrow
    cases hrow

/-- A transaction of a pull that has put the trees in place. -/
theorem PullKeeps.commits {w : Progress} {f : Db → Db} {ok : Bool} {s t : Dir Content}
    (h : PullKeeps vault v s) (hop : Commits ext f s ok t) (hready : v.InPlace)
    (hplaced : w.placed = v.placed) (hopened : w.opened = v.opened)
    (htouched : w.touched = v.touched) (hrecorded : RowsHold w t) :
  PullKeeps vault w t
  := by
  have hbegun := h.opened hready.2
  constructor
  · intro hnot
    rw [htouched, hbegun] at hnot
    cases hnot
  · intro _
    exact htouched.trans hbegun
  · intro p hp
    exact (hop.get (under_db_dbPath (hp .db))).trans (h.outside p hp)
  · intro _
    rw [Progress.InPlace, hplaced, hopened]
    exact hready
  · exact hrecorded

/-- What a pull is allowed to do keeps what is said of it. -/
theorem PullKeeps.step {o : Op} {a : o.Ans} {s t : Dir Content} (h : PullKeeps vault v s)
    (hallowed : pullConduct.allowed v o) (hop : VaultEffect ext host o s a t) :
  PullKeeps vault (pullConduct.next v o a) t
  := by
  cases o with
  | writeState key value nowMs =>
    obtain ⟨head, hready, -⟩ := hallowed
    have hcommits : Commits ext (fun db => db.writeState key value nowMs) s a.isOk t := hop
    exact h.commits hcommits hready rfl rfl rfl (h.recorded.writeState hop)
  | writeSnapshotLog id row =>
    obtain ⟨head, hready, -⟩ := hallowed
    have hcommits : Commits ext (fun db => db.writeSnapshotLog id row) s a.isOk t := hop
    exact h.commits hcommits hready rfl rfl rfl (h.recorded.writeSnapshotLog hop)
  | openDb =>
    obtain hplain | ⟨hnot, -⟩ := hallowed
    · exact hplain.1.elim
    · have hbelow : OnlyBelow .db s t := by
        intro p hp
        obtain hopen | ⟨-, rfl⟩ := hop
        · exact get_openDb hopen (under_db_dbPath hp)
        · rfl
      exact h.tree hbelow hnot rfl rfl rfl
  | removeTop top | createTop top | copyTop source top =>
    obtain hplain | ⟨hnot, -⟩ := hallowed
    · exact hplain.1.elim
    · have hbelow : OnlyBelow top s t := hop
      exact h.tree hbelow hnot rfl rfl rfl
  | _ =>
    obtain hplain | ⟨-, hacts | hopens⟩ := hallowed
    · obtain rfl := vaultEffect_keepsVault hplain.1 hop
      exact h.extends (extends_next a hplain)
    · exact hacts.elim
    · cases hopens

/-! ### Runs -/

/-- How far a client has got by what it has issued and was answered. -/
def progressOf (tr : List (Event Op Op.Ans)) : Progress :=
  tr.foldl (fun v e => v.next e.op e.ans) Progress.start

/-- Wherever a pull fails or is cut off, and whatever the target answers: nothing outside of the
three trees has changed, nothing at all before the pull has begun with them, and no row is recorded
before they are in place. -/
theorem pull_keeps (ext : Externals) (host : Host) (targetUri : String) (nowMs : Int64)
    (autoMergeMode : Option String) (strictAuth : Bool) (vault after : Dir Content)
    (tr : List (Event Op Op.Ans)) (rest : SyncM SyncPullResultV1)
    (h : Traced (VaultEffect ext host)
      (syncPullTargetWithMode ext host targetUri nowMs autoMergeMode strictAuth) vault tr rest
      after) :
  PullKeeps vault (progressOf tr) after
    ∧ ∀ result, rest = .ret result →
      (progressOf tr).InPlace
        ∧ ∀ key value, headRow result.remoteHead key = some value →
          stateRow after key = some value
  := by
  have hstart : PullKeeps vault Progress.start vault := by
    constructor
    · intro _
      rfl
    · intro hopened
      cases hopened
    · intro p _
      rfl
    · intro hbegun
      cases hbegun
    · intro key value hrow
      cases hrow
  obtain ⟨hkeeps, hrest⟩ := (follows_syncPullTargetWithMode targetUri autoMergeMode
    strictAuth).traced hstart (fun _ _ _ _ _ hallowed hI hop => hI.step hallowed hop) h
  use hkeeps
  rintro result rfl
  obtain ⟨hplaced, hrecorded⟩ := hrest result rfl
  use hplaced
  intro key value hvalue
  exact hkeeps.recorded key value (hrecorded key value hvalue)

/-- The first pull of a vault with a document. -/
theorem pull_keeps_first :
  ∃ tr result after, Traced (VaultEffect Sample.ext Sample.host)
      (syncPullTargetWithMode Sample.ext Sample.host "file://target" 1000 none false)
      Sample.firstPull.vault tr (.ret result) after
    ∧ PullKeeps Sample.firstPull.vault (progressOf tr) after
    ∧ (progressOf tr).InPlace
  := by
  have hok : ((syncPullTargetWithMode Sample.ext Sample.host "file://target" 1000 none
      false).eval (perform Sample.ext Sample.host) Sample.firstPull).1.isOk = true := by
    decide +kernel
  obtain ⟨result, s, hrun⟩ := exists_run_of_isOk hok
  obtain ⟨tr, htr⟩ := traced_perform Sample.ext Sample.host
    (syncPullTargetWithMode Sample.ext Sample.host "file://target" 1000 none false)
    Sample.firstPull
  rw [hrun] at htr
  obtain ⟨hkeeps, hreturns⟩ := pull_keeps _ _ _ _ _ _ _ _ _ _ htr
  exact ⟨tr, result, s.vault, htr, hkeeps, (hreturns result rfl).1⟩

end Sync

end KnowledgeCore
