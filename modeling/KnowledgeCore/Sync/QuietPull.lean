import KnowledgeCore.Contents
import KnowledgeCore.Sync.QuietPush

/-!
# Quiet pulls

What a pull does when it works alone and nothing fails: which checks it has to pass, what the
trees of the vault are once they have been replaced, and what it leaves behind when it succeeds.
-/

namespace KnowledgeCore

namespace Sync

variable {ext : Externals} {host : Host} {s : Site} {target : String} {nowMs : Int64}

/-! ### Replacing the trees -/

/-- A vault with one of its trees replaced by that of a source. -/
def replaceTree (src : Dir Content) (top : TopDir) (vault : Dir Content) : Dir Content :=
  let cleared := if kindOf vault top = .absent then vault else vault.removeAll top.path
  let fresh := cleared.createDirAll top.path
  if src.isFile top.path then fresh else Dir.copyTree src top.path fresh

/-- A vault with one of its trees replaced by that of a source, if the source has it. -/
def replaced (src : Dir Content) (top : TopDir) (vault : Dir Content) : Dir Content :=
  if src.contains top.path then replaceTree src top vault else vault

/-- The error of a tree that is a file. -/
def copyFailed (top : TopDir) : AppError :=
  targetInvalid "failed copying sync file" [("from", .str top.name)]

theorem eval_copyTop (source : Source) (top : TopDir) :
  (copyTop source top).eval (perform ext host) s =
    if (source.dir s.target).isFile top.path then (.error (copyFailed top), s)
    else (.ok (), { s with vault := Dir.copyTree (source.dir s.target) top.path s.vault })
  := by
  apply (Prog.eval_ofExcept _ _).trans
  rw [perform]
  split <;> rfl

theorem eval_replaceTop (source : Source) (top : TopDir) :
  (replaceTop source top).eval (perform ext host) s =
    (if (source.dir s.target).contains top.path ∧ (source.dir s.target).isFile top.path
      then .error (copyFailed top) else .ok (),
      { s with vault := replaced (source.dir s.target) top s.vault })
  := by
  rw [replaceTop, Prog.eval_bind_ok (eval_sourceHas source top)]
  cases hsrc : (source.dir s.target).contains top.path with
  | false => simp [replaced, hsrc]
  | true =>
    rw [if_pos rfl, Prog.eval_bind_ok (eval_topKind top)]
    have hcopy (t : Site) (ht : t.target = s.target) :
        (copyTop source top).eval (perform ext host) t =
          (if (source.dir s.target).isFile top.path then .error (copyFailed top) else .ok (),
            { t with vault := if (source.dir s.target).isFile top.path then t.vault
              else Dir.copyTree (source.dir s.target) top.path t.vault }) := by
      rw [eval_copyTop, ← ht]
      split <;> rfl
    cases hkind : kindOf s.vault top with
    | absent =>
      change Prog.eval _ (createTop top >>= fun _ => copyTop source top) s = _
      rw [Prog.eval_bind_ok (eval_createTop top), hcopy]
      · simp [replaced, replaceTree, hsrc, hkind]
      · rfl
    | directory | file =>
      change Prog.eval _ (removeTop top >>= fun _ => createTop top >>= fun _ =>
        copyTop source top) s = _
      rw [Prog.eval_bind_ok (eval_removeTop top), Prog.eval_bind_ok (eval_createTop top),
        hcopy]
      · simp [replaced, replaceTree, hsrc, hkind]
      · rfl

/-- Where there is nothing, there is no file. -/
theorem get_of_absent {vault : Dir Content} {top : TopDir} {p : RelPath}
    (h : kindOf vault top = .absent) (hp : Dir.under top.path p = true) :
  vault.get p = none
  := by
  have hc : vault.contains top.path = false := by
    unfold kindOf at h
    split at h
    · next hn => simpa using hn
    · split at h <;> cases h
  cases hg : vault.get p with
  | none => rfl
  | some c =>
    have hmem := Dir.mem_listFiles.mpr ⟨hp, hg⟩
    simp only [Dir.contains, Bool.or_eq_false_iff, Bool.not_eq_false', List.isEmpty_iff] at hc
    rw [hc.1] at hmem
    cases hmem

/-- The files of a vault after one of its trees has been replaced. -/
theorem get_replaced (src : Dir Content) (top : TopDir) (vault : Dir Content) (p : RelPath) :
  (replaced src top vault).get p =
    if src.contains top.path = true ∧ Dir.under top.path p = true then
      if src.isFile top.path then none else src.get p
    else vault.get p
  := by
  unfold replaced
  cases hsrc : src.contains top.path with
  | false => simp
  | true =>
    have hclear (hu : Dir.under top.path p = true) :
        (if kindOf vault top = .absent then vault else vault.removeAll top.path).get p = none := by
      split
      · next h => exact get_of_absent h hu
      · simp [hu]
    have hkeep (hu : Dir.under top.path p = false) :
        (if kindOf vault top = .absent then vault else vault.removeAll top.path).get p
          = vault.get p := by
      split
      · rfl
      · simp [hu]
    rw [if_pos rfl, replaceTree]
    cases hu : Dir.under top.path p with
    | true =>
      split
      · simp [hclear hu]
      · rw [Dir.get_copyTree, Dir.get_createDirAll, hclear hu]
        simp [hu]
    | false =>
      split
      · simp [hkeep hu]
      · rw [Dir.get_copyTree, Dir.get_createDirAll, hkeep hu]
        simp [hu]

/-- A path lies below one tree only. -/
theorem under_unique {top top' : TopDir} {p : RelPath} (h : Dir.under top.path p = true)
    (h' : Dir.under top'.path p = true) :
  top = top'
  := by
  rw [TopDir.under_path] at h h'
  rw [h] at h'
  cases top <;> cases top' <;> simp [TopDir.name] at h' ⊢

/-- A vault with its trees replaced by those of a source. -/
def applied (src : Dir Content) (vault : Dir Content) : Dir Content :=
  replaced src .index (replaced src .store (replaced src .db vault))

/-- Whether no tree of a source is a file. -/
def TreesAreDirectories (src : Dir Content) : Prop :=
  ∀ top : TopDir, src.contains top.path = true → src.isFile top.path = false

/-- Below a tree that the source has, a vault has the files of the source once its trees have
been replaced. -/
theorem get_applied_of_under {src vault : Dir Content} {top : TopDir} {p : RelPath}
    (hsrc : TreesAreDirectories src) (hc : src.contains top.path = true)
    (hu : Dir.under top.path p = true) :
  (applied src vault).get p = src.get p
  := by
  have hother (top' : TopDir) (hne : top' ≠ top) (v : Dir Content) :
      (replaced src top' v).get p = v.get p := by
    rw [get_replaced, if_neg]
    rintro ⟨-, hu'⟩
    exact hne (under_unique hu' hu)
  have hself (v : Dir Content) : (replaced src top v).get p = src.get p := by
    rw [get_replaced, if_pos ⟨hc, hu⟩, hsrc top hc]
    rfl
  rw [applied]
  cases top with
  | db => rw [hother _ (by decide), hother _ (by decide), hself]
  | store => rw [hother _ (by decide), hself]
  | index => rw [hself]

/-- Elsewhere a vault has the files it had. -/
theorem get_applied_of_not {src vault : Dir Content} {p : RelPath}
    (h : ∀ top : TopDir, src.contains top.path = true → Dir.under top.path p = false) :
  (applied src vault).get p = vault.get p
  := by
  have hnone (top : TopDir) (v : Dir Content) : (replaced src top v).get p = v.get p := by
    rw [get_replaced, if_neg]
    rintro ⟨hc, hu⟩
    simp [h top hc] at hu
  rw [applied, hnone, hnone, hnone]

theorem eval_applySnapshotToVault_eq_ok {source : Source} {u : Unit} {s' : Site} :
  (applySnapshotToVault source).eval (perform ext host) s = (.ok u, s')
    ↔ validateSnapshotDirLimits ext (source.dir s.target) syncSnapshotLimits = .ok ()
      ∧ TreesAreDirectories (source.dir s.target)
      ∧ s' = { s with vault := applied (source.dir s.target) s.vault }
  := by
  have hstep (top : TopDir) {t t' : Site} (ht : t.target = s.target) :
      (replaceTop source top).eval (perform ext host) t = (.ok (), t') ↔
        ((source.dir s.target).contains top.path = true →
            (source.dir s.target).isFile top.path = false)
          ∧ t' = { t with vault := replaced (source.dir s.target) top t.vault } := by
    rw [eval_replaceTop, ht, Prod.mk.injEq]
    split
    · next h => simp [h.1, h.2]
    · next h =>
      constructor
      · rintro ⟨-, rfl⟩
        exact ⟨fun hc => Bool.eq_false_iff.mpr fun hi => h ⟨hc, hi⟩, rfl⟩
      · rintro ⟨-, rfl⟩
        exact ⟨rfl, rfl⟩
  change Prog.eval _ (validateLimits source syncSnapshotLimits >>= fun _ =>
    replaceTop source .db >>= fun _ => replaceTop source .store >>= fun _ =>
    replaceTop source .index >>= fun _ => pure ()) s = _ ↔ _
  simp only [Prog.eval_bind_eq_ok, eval_validateLimits, Prod.mk.injEq]
  constructor
  · rintro ⟨_, _, ⟨hv, rfl⟩, _, t₁, h₁, _, t₂, h₂, _, t₃, h₃, h⟩
    obtain ⟨hdb, rfl⟩ := (hstep .db (by rfl)).mp h₁
    obtain ⟨hstore, rfl⟩ := (hstep .store (by rfl)).mp h₂
    obtain ⟨hindex, rfl⟩ := (hstep .index (by rfl)).mp h₃
    cases h
    refine ⟨hv, ?_, rfl⟩
    rintro (_ | _ | _)
    · exact hdb
    · exact hstore
    · exact hindex
  · rintro ⟨hv, htop, rfl⟩
    exact ⟨(), s, ⟨hv, rfl⟩, (), _, (hstep .db (by rfl)).mpr ⟨htop .db, rfl⟩, (), _,
      (hstep .store (by rfl)).mpr ⟨htop .store, rfl⟩, (), _,
      (hstep .index (by rfl)).mpr ⟨htop .index, rfl⟩, rfl⟩

/-- Replace trees one after the other, up to the first that the source has as a file. -/
def applyTrees (src : Dir Content) : List TopDir → Dir Content → AppResult Unit × Dir Content
  | [], vault => (.ok (), vault)
  | top :: rest, vault =>
    if src.contains top.path ∧ src.isFile top.path then
      (.error (copyFailed top), replaced src top vault)
    else
      applyTrees src rest (replaced src top vault)

theorem eval_forM_replaceTop (source : Source) (tops : List TopDir) (s : Site) :
  (tops.forM (replaceTop source)).eval (perform ext host) s
    = ((applyTrees (source.dir s.target) tops s.vault).1,
        { s with vault := (applyTrees (source.dir s.target) tops s.vault).2 })
  := by
  induction tops generalizing s with
  | nil => rfl
  | cons top tops ih =>
    change Prog.eval _ (replaceTop source top >>= fun _ => tops.forM (replaceTop source)) s = _
    have hstep : (replaceTop source top).eval (perform ext host) s = _ :=
      eval_replaceTop source top
    rw [applyTrees]
    split
    · next h =>
      rw [if_pos h] at hstep
      rw [Prog.eval_bind_error hstep]
    · next h =>
      rw [if_neg h] at hstep
      rw [Prog.eval_bind_ok hstep, ih]

/-- A path that lies below none of the trees stays as it is. -/
theorem get_applyTrees_of_not {src vault : Dir Content} {tops : List TopDir} {p : RelPath}
    (h : ∀ top ∈ tops, src.contains top.path = true → Dir.under top.path p = false) :
  (applyTrees src tops vault).2.get p = vault.get p
  := by
  induction tops generalizing vault with
  | nil => rfl
  | cons top tops ih =>
    have hstep : (replaced src top vault).get p = vault.get p := by
      rw [get_replaced, if_neg]
      rintro ⟨hc, hu⟩
      simp [h top (by simp) hc] at hu
    rw [applyTrees]
    split
    · exact hstep
    · rw [ih fun top' htop' => h top' (by simp [htop']), hstep]

/-- Without a file among the trees, all of them are replaced. -/
theorem applyTrees_all {src vault : Dir Content} (h : TreesAreDirectories src) :
  applyTrees src TopDir.all vault = (.ok (), applied src vault)
  := by
  have hno (top : TopDir) : ¬ (src.contains top.path = true ∧ src.isFile top.path = true) := by
    rintro ⟨hc, hi⟩
    simp [h top hc] at hi
  simp only [TopDir.all, applyTrees, if_neg (hno _), applied]

/-- When all trees have been replaced, none of them is a file. -/
theorem applyTrees_eq_ok {src vault : Dir Content} {tops : List TopDir}
    (h : (applyTrees src tops vault).1 = .ok ()) :
  ∀ top ∈ tops, src.contains top.path = true → src.isFile top.path = false
  := by
  induction tops generalizing vault with
  | nil => simp
  | cons top tops ih =>
    rw [applyTrees] at h
    split at h
    · cases h
    · next hno =>
      intro top' htop' hc
      rcases List.mem_cons.mp htop' with rfl | htop'
      · exact Bool.eq_false_iff.mpr fun hi => hno ⟨hc, hi⟩
      · exact ih h top' htop' hc

theorem TopDir.mem_all (top : TopDir) :
  top ∈ TopDir.all
  := by
  cases top <;> decide

/-- With a file among the trees, the replacement fails. -/
theorem applyTrees_all_error {src vault : Dir Content} (h : ¬ TreesAreDirectories src) :
  ∃ e, (applyTrees src TopDir.all vault).1 = .error e
  := by
  cases hr : (applyTrees src TopDir.all vault).1 with
  | error e => use e
  | ok u => exact absurd (fun top => applyTrees_eq_ok hr top (TopDir.mem_all top)) h

/-! ### Finishing a pull -/

theorem eval_openDb_eq_ok {u : Unit} {s' : Site} :
  openDb.eval (perform ext host) s = (.ok u, s')
    ↔ ∃ vault, Vault.openDb ext host s.vault = .ok vault ∧ s' = { s with vault }
  := by
  have : openDb.eval (perform ext host) s = perform ext host .openDb s := Prog.eval_ofExcept _ _
  rw [this, perform]
  split
  · next vault h => simp [h, eq_comm]
  · next e h => simp [h]

/-- Opening the database leaves a database file and touches nothing else. -/
theorem openDb_eq_ok {vault vault' : Dir Content} :
  Vault.openDb ext host vault = .ok vault'
    ↔ ∃ key file, Vault.dbEncryptionKey host vault = .ok key
      ∧ Vault.openDbFile ext key (vault.get Vault.dbPath) = .ok file
      ∧ vault' = vault.write Vault.dbPath (.sqlite file)
  := by
  simp only [Vault.openDb, AppResult.bind_eq_ok]
  constructor
  · rintro ⟨key, hk, file, hf, h⟩
    cases h
    exact ⟨key, file, hk, hf, rfl⟩
  · rintro ⟨key, file, hk, hf, rfl⟩
    exact ⟨key, hk, file, hf, rfl⟩

theorem dbFile_write (vault : Dir Content) (file : SqliteFile) :
  Vault.dbFile (vault.write Vault.dbPath (.sqlite file)) = some file
  := by
  simp [Vault.dbFile_eq_some]

/-- Opening the database and recording a synchronisation leave the entries as they were. -/
theorem lists_recorded_iff {vault : Dir Content} {item : Item} {key : Option String}
    {file : SqliteFile} {direction id bundleRelpath hash : String}
    (hopen : Vault.openDbFile ext key (vault.get Vault.dbPath) = .ok file) :
  Lists (vault.write Vault.dbPath
      (.sqlite (recordedFile ext direction id bundleRelpath hash nowMs file))) item
    ↔ Lists vault item
  := by
  have hrows : (recordedFile ext direction id bundleRelpath hash nowMs file).db.Lists item
      ↔ file.db.Lists item := by
    cases item <;> simp [Db.Lists]
  constructor
  · rintro ⟨_, hf, hrow⟩
    rw [dbFile_write] at hf
    cases hf
    obtain ⟨file', hget, hrow⟩ := lists_of_openDbFile hopen (hrows.mp hrow)
    exact ⟨file', Vault.dbFile_eq_some.mpr hget, hrow⟩
  · rintro ⟨file', hf, hrow⟩
    rw [Vault.dbFile_eq_some.mp hf] at hopen
    exact ⟨_, dbFile_write _ _, hrows.mpr (lists_openDbFile hopen hrow)⟩

/-- The vault after a pull that has replaced its trees, given the database file it leaves
after opening. -/
def pulled (ext : Externals) (head : SyncHeadV1) (bundleRelpath : String) (nowMs : Int64)
    (src vault : Dir Content) (file : SqliteFile) : Dir Content :=
  (applied src vault).write Vault.dbPath
    (.sqlite (recordedFile ext "pull" head.snapshotId bundleRelpath head.manifestHash nowMs file))

theorem eval_finishPull_eq_ok {source : Source} {head : SyncHeadV1} {bundleRelpath : String}
    {r : SyncPullResultV1} {s' : Site} :
  (finishPull source head bundleRelpath nowMs).eval (perform ext host) s = (.ok r, s')
    ↔ validateSnapshotDirLimits ext (source.dir s.target) syncSnapshotLimits = .ok ()
      ∧ TreesAreDirectories (source.dir s.target)
      ∧ r = pullResult head
      ∧ ∃ key file, Vault.dbEncryptionKey host (applied (source.dir s.target) s.vault) = .ok key
        ∧ Vault.openDbFile ext key
          ((applied (source.dir s.target) s.vault).get Vault.dbPath) = .ok file
        ∧ s' = { s with
          vault := pulled ext head bundleRelpath nowMs (source.dir s.target) s.vault file }
  := by
  simp only [finishPull, Prog.eval_bind_eq_ok, eval_applySnapshotToVault_eq_ok,
    eval_openDb_eq_ok, Prog.pure_eq, Prog.eval_ret]
  constructor
  · rintro ⟨_, _, ⟨hv, htop, rfl⟩, _, _, ⟨vault, ho, rfl⟩, _, t, hr, h⟩
    obtain ⟨key, file, hk, hf, rfl⟩ := openDb_eq_ok.mp ho
    rw [eval_recordSync _ _ _ _ _ (dbFile_write _ file)] at hr
    cases hr
    cases h
    refine ⟨hv, htop, rfl, key, file, hk, hf, ?_⟩
    simp only [recorded, write_write, pulled]
  · rintro ⟨hv, htop, rfl, key, file, hk, hf, rfl⟩
    have ho := openDb_eq_ok.mpr ⟨key, file, hk, hf, rfl⟩
    refine ⟨(), _, ⟨hv, htop, rfl⟩, (), _, ⟨_, ho, rfl⟩, (), _,
      eval_recordSync _ _ _ _ _ (dbFile_write _ file), ?_⟩
    simp only [recorded, write_write, pulled]

theorem eval_openDb_error {e : AppError} (h : Vault.openDb ext host s.vault = .error e) :
  openDb.eval (perform ext host) s = (.error e, s)
  := by
  apply (Prog.eval_ofExcept _ _).trans
  simp [perform, h]

/-- Within the limits, a pull that finishes leaves the trees as they were replaced, and if all
goes well the rows of the pull in the database on top. -/
theorem eval_finishPull {source : Source} {head : SyncHeadV1} {bundleRelpath : String}
    {result : AppResult SyncPullResultV1} {s' : Site} {applied : AppResult Unit}
    {vault : Dir Content}
    (hv : validateSnapshotDirLimits ext (source.dir s.target) syncSnapshotLimits = .ok ())
    (ht : applyTrees (source.dir s.target) TopDir.all s.vault = (applied, vault))
    (h : (finishPull source head bundleRelpath nowMs).eval (perform ext host) s
      = (result, s')) :
  ((∃ e, result = .error e) ∧ s'.vault = vault
      ∧ ((∃ e, applied = .error e) ∨ ∃ e, Vault.openDb ext host vault = .error e))
    ∨ ∃ key file, result = .ok (pullResult head)
      ∧ Vault.openDbFile ext key (vault.get Vault.dbPath) = .ok file
      ∧ s'.vault = vault.write Vault.dbPath (.sqlite (recordedFile ext "pull"
        head.snapshotId bundleRelpath head.manifestHash nowMs file))
  := by
  have hvalid : (validateLimits source syncSnapshotLimits).eval (perform ext host) s
      = (.ok (), s) := by rw [eval_validateLimits, hv]
  have happly : (applySnapshotToVault source).eval (perform ext host) s
      = (applied, { s with vault }) := by
    rw [applySnapshotToVault, Prog.eval_bind_ok hvalid, eval_forM_replaceTop, ht]
  rw [finishPull] at h
  cases applied with
  | error e =>
    rw [Prog.eval_bind_error happly] at h
    cases h
    exact .inl ⟨⟨e, rfl⟩, rfl, .inl ⟨e, rfl⟩⟩
  | ok u =>
    rw [Prog.eval_bind_ok happly] at h
    rcases ho : Vault.openDb ext host vault with e | opened
    · rw [Prog.eval_bind_error (eval_openDb_error (by exact ho))] at h
      cases h
      exact .inl ⟨⟨e, rfl⟩, rfl, .inr ⟨e, rfl⟩⟩
    · obtain ⟨key, file, -, hf, rfl⟩ := openDb_eq_ok.mp ho
      have hopen : openDb.eval (perform ext host) { s with vault }
          = (.ok (), { s with vault := vault.write Vault.dbPath (.sqlite file) }) :=
        eval_openDb_eq_ok.mpr ⟨_, ho, rfl⟩
      rw [Prog.eval_bind_ok hopen,
        Prog.eval_bind_ok (eval_recordSync _ _ _ _ _ (dbFile_write _ file))] at h
      cases h
      exact .inr ⟨key, file, rfl, hf, write_write _ _ _ _⟩

/-- A pull whose snapshot exceeds the limits changes nothing. -/
theorem eval_finishPull_over_limits {source : Source} {head : SyncHeadV1}
    {bundleRelpath : String} {e : AppError}
    (hv : validateSnapshotDirLimits ext (source.dir s.target) syncSnapshotLimits = .error e) :
  (finishPull source head bundleRelpath nowMs).eval (perform ext host) s = (.error e, s)
  := by
  have hvalid : (validateLimits source syncSnapshotLimits).eval (perform ext host) s
      = (.error e, s) := by
    rw [eval_validateLimits, hv]
  have happly : (applySnapshotToVault source).eval (perform ext host) s = (.error e, s) := by
    rw [applySnapshotToVault, Prog.eval_bind_error hvalid]
  rw [finishPull, Prog.eval_bind_error happly]

/-! ### File targets -/

/-- What a pull from a file target finds when it compares: the database of the vault, its
configuration, a head whose author it accepts, and the hash of the local manifest. -/
structure PullReads (ext : Externals) (host : Host) (target : String) (strictAuth : Bool)
    (s : Site) (file : SqliteFile) (vault : VaultJsonV3) (head : SyncHeadV1)
    (bundle : Dir Content) (hash : String) : Prop where
  opened : Vault.dbFile s.vault = some file
  configured : Vault.vaultOpen host s.vault = .ok vault
  found : readHeadFile s.target = .ok (some head)
  authentic : strictAuth = true →
    SyncAuth.ensureStrictSyncAuthReady ext file.db target head = .ok ()
  exported : localSnapshot ext host s.vault false = .ok (bundle, hash)

/-- A pull that has diverged goes on only if it is to merge, and the preview of the merge is
safe. -/
def MergesSafely (ext : Externals) (host : Host) (target : String) (nowMs : Int64)
    (mode : Option SyncAutoMergeMode) (s : Site) : Prop :=
  ∃ m preview, mode = some m
    ∧ ((syncMergePreviewFileTarget ext target none nowMs).eval (perform ext host) s).1
      = .ok preview
    ∧ ensureMergeSafe m preview.report nowMs = .ok ()

/-- What a pull from a file target needs to go on to the vault. -/
structure PullAccepts (ext : Externals) (host : Host) (target : String) (nowMs : Int64)
    (mode : Option SyncAutoMergeMode) (strictAuth : Bool) (s : Site) (file : SqliteFile)
    (vault : VaultJsonV3) (head : SyncHeadV1) (bundle : Dir Content) (hash : String) : Prop
  extends PullReads ext host target strictAuth s file vault head bundle hash
  where
  agrees : Diverged (some head) file.db hash → MergesSafely ext host target nowMs mode s
  stored : s.target.snapshots.contains head.snapshotId = true

theorem eval_checkStrictAuth_eq_ok {strictAuth : Bool} {head : SyncHeadV1} {u : Unit}
    {file : SqliteFile} {s' : Site} (hf : Vault.dbFile s.vault = some file) :
  (checkStrictAuth ext target strictAuth head).eval (perform ext host) s = (.ok u, s')
    ↔ s' = s ∧ (strictAuth = true →
      SyncAuth.ensureStrictSyncAuthReady ext file.db target head = .ok ())
  := by
  cases strictAuth with
  | false => simp [checkStrictAuth, eq_comm]
  | true =>
    simp only [checkStrictAuth, if_true, Prog.eval_bind_eq_ok, eval_readDb_eq_ok,
      Prog.eval_ofExcept, Prod.mk.injEq, forall_const]
    constructor
    · rintro ⟨_, _, ⟨rfl, file', hf', rfl⟩, hs, rfl⟩
      obtain rfl : file = file' := by simpa [hf] using hf'
      exact ⟨rfl, hs⟩
    · rintro ⟨rfl, hs⟩
      exact ⟨file.db, s', ⟨rfl, file, hf, rfl⟩, hs, rfl⟩

theorem eval_resolveConflict_eq_ok {mode : Option SyncAutoMergeMode} {vaultId hash : String}
    {head : SyncHeadV1} {seen lastApplied : Option String} {u : Unit} {s' : Site} :
  (resolveConflict ext target nowMs mode vaultId hash head seen lastApplied).eval
      (perform ext host) s = (.ok u, s')
    ↔ s' = s ∧ (shouldConflict (some head) seen lastApplied hash = true →
      MergesSafely ext host target nowMs mode s)
  := by
  unfold resolveConflict
  cases hc : shouldConflict (some head) seen lastApplied hash with
  | false => simp [eq_comm]
  | true =>
    rw [if_pos rfl]
    cases mode with
    | none => simp [Prog.eval_bind_eq_ok, MergesSafely]
    | some m =>
      have hreads : (syncMergePreviewFileTarget ext target none nowMs).AllOps Op.Reads :=
        syncMergePreviewFileTarget_reads none
      have hstate := eval_reads ext host hreads s
      simp only [Prog.eval_bind_eq_ok, Prog.eval_ofExcept, Prod.mk.injEq, MergesSafely,
        forall_const]
      constructor
      · rintro ⟨preview, t, hp, hs, rfl⟩
        rw [hp] at hstate
        exact ⟨hstate, m, preview, rfl, by rw [hp], hs⟩
      · rintro ⟨rfl, _, preview, ⟨⟩, hp, hs⟩
        exact ⟨preview, s', Prod.ext hp hstate, hs, rfl⟩

theorem preparePull_eq_ok {mode : Option SyncAutoMergeMode} {strictAuth : Bool}
    {head : SyncHeadV1} {s' : Site} :
  (preparePull ext target nowMs mode strictAuth).eval (perform ext host) s = (.ok head, s')
    ↔ s' = s ∧ ∃ file vault bundle hash,
      PullAccepts ext host target nowMs mode strictAuth s file vault head bundle hash
  := by
  simp only [preparePull, Prog.eval_bind_eq_ok, eval_ensureSyncTables_eq_ok,
    eval_mainDbPath_eq_ok, eval_vaultOpen, eval_readHead, eval_readState_eq_ok,
    eval_buildLocalSnapshot, eval_resolveConflict_eq_ok, eval_snapshotExists,
    Prog.eval_ofExcept, requireHead, okOrElse_eq_ok, Prod.mk.injEq]
  constructor
  · rintro ⟨_, _, ⟨rfl, file, hf⟩, _, _, ⟨rfl, -⟩, vault, _, ⟨hv, rfl⟩, _, _, ⟨hh, rfl⟩, found, _,
      ⟨rfl, rfl⟩, _, _, hstrict, _, _, ⟨rfl, file₁, hf₁, rfl⟩, _, _, ⟨rfl, file₂, hf₂, rfl⟩,
      ⟨bundle, hash⟩, _, ⟨hb, rfl⟩, _, _, ⟨rfl, hres⟩, stored, _, ⟨hex, rfl⟩, h⟩
    obtain ⟨rfl, hauth⟩ := (eval_checkStrictAuth_eq_ok hf).mp hstrict
    obtain rfl : file = file₁ := by simpa [hf] using hf₁
    obtain rfl : file = file₂ := by simpa [hf] using hf₂
    cases hex
    split at h
    · next hstored =>
      cases h
      exact ⟨rfl, file, vault, bundle, hash, ⟨hf, hv, hh, hauth, hb⟩, hres, hstored⟩
    · cases h
  · rintro ⟨rfl, file, vault, bundle, hash, h⟩
    refine ⟨(), s', ⟨rfl, file, h.opened⟩, (), s', ⟨rfl, file, h.opened⟩, vault, s',
      ⟨h.configured, rfl⟩, _, s', ⟨h.found, rfl⟩, head, s', ⟨rfl, rfl⟩, (), s',
      (eval_checkStrictAuth_eq_ok h.opened).mpr ⟨rfl, h.authentic⟩, _, s',
      ⟨rfl, file, h.opened, rfl⟩, _, s', ⟨rfl, file, h.opened, rfl⟩, _, s', ⟨h.exported, rfl⟩, (),
      s', ⟨rfl, h.agrees⟩, true, s', ⟨by rw [h.stored], rfl⟩, rfl⟩

/-- A pull from a file target goes through exactly when its checks let it pass and the trees of
the snapshot can be put in place and the database opened. -/
theorem eval_syncPullWithMode_eq_ok {mode : Option SyncAutoMergeMode} {strictAuth : Bool}
    {r : SyncPullResultV1} {s' : Site} :
  (syncPullWithMode ext target nowMs mode strictAuth).eval (perform ext host) s = (.ok r, s')
    ↔ ∃ head, (∃ file vault bundle hash,
        PullAccepts ext host target nowMs mode strictAuth s file vault head bundle hash)
      ∧ (finishPull (.snapshot head.snapshotId) head ("snapshots/" ++ head.snapshotId)
        nowMs).eval (perform ext host) s = (.ok r, s')
  := by
  rw [syncPullWithMode, Prog.eval_bind_eq_ok]
  constructor
  · rintro ⟨head, t, hp, h⟩
    obtain ⟨rfl, ha⟩ := preparePull_eq_ok.mp hp
    exact ⟨head, ha, h⟩
  · rintro ⟨head, ha, h⟩
    exact ⟨head, s, preparePull_eq_ok.mpr ⟨rfl, ha⟩, h⟩

/-- A pull that its checks let pass goes on to the vault. -/
theorem eval_syncPullWithMode_accepts {mode : Option SyncAutoMergeMode} {strictAuth : Bool}
    {file : SqliteFile} {vault : VaultJsonV3} {head : SyncHeadV1} {bundle : Dir Content}
    {hash : String}
    (h : PullAccepts ext host target nowMs mode strictAuth s file vault head bundle hash) :
  (syncPullWithMode ext target nowMs mode strictAuth).eval (perform ext host) s
    = (finishPull (.snapshot head.snapshotId) head ("snapshots/" ++ head.snapshotId)
        nowMs).eval (perform ext host) s
  := by
  rw [syncPullWithMode, Prog.eval_bind_ok (preparePull_eq_ok.mpr
    ⟨rfl, file, vault, bundle, hash, h⟩)]

/-- Without auto-merge, a pull that has diverged does not go on. -/
theorem pullAccepts_none {strictAuth : Bool} {file : SqliteFile} {vault : VaultJsonV3}
    {head : SyncHeadV1} {bundle : Dir Content} {hash : String} :
  PullAccepts ext host target nowMs none strictAuth s file vault head bundle hash
    ↔ PullReads ext host target strictAuth s file vault head bundle hash
      ∧ ¬ Diverged (some head) file.db hash
      ∧ s.target.snapshots.contains head.snapshotId = true
  := by
  constructor
  · rintro ⟨hr, hagrees, hstored⟩
    refine ⟨hr, ?_, hstored⟩
    intro hd
    obtain ⟨_, _, hm, -⟩ := hagrees hd
    cases hm
  · rintro ⟨hr, hno, hstored⟩
    exact ⟨hr, fun hd => absurd hd hno, hstored⟩

/-- A pull from a file target that its checks do not let pass fails and leaves the vault
alone. -/
theorem eval_syncPullWithMode_refused {mode : Option SyncAutoMergeMode} {strictAuth : Bool}
    (h : ¬ ∃ file vault head bundle hash,
      PullAccepts ext host target nowMs mode strictAuth s file vault head bundle hash) :
  ∃ e s', (syncPullWithMode ext target nowMs mode strictAuth).eval (perform ext host) s
    = (.error e, s') ∧ s'.vault = s.vault
  := by
  have hprepares : (preparePull ext target nowMs mode strictAuth).AllOps Op.KeepsVault :=
    (preparePull_prepares mode strictAuth).mono fun _ ho => ho.keepsVault
  have hvault := eval_keepsVault ext host hprepares s
  rcases hp : (preparePull ext target nowMs mode strictAuth).eval (perform ext host) s with
    ⟨e | head, s'⟩
  · rw [hp] at hvault
    use e, s'
    rw [syncPullWithMode, Prog.eval_bind_error hp]
    exact ⟨rfl, hvault⟩
  · obtain ⟨-, file, vault, bundle, hash, ha⟩ := preparePull_eq_ok.mp hp
    exact absurd ⟨file, vault, head, bundle, hash, ha⟩ h

/-! ### Remote targets -/

/-- What is known of a remote target once a pull from it has gone through: its head, the archive
stored under the snapshot the head names, and the directory it was unpacked into. -/
structure S3PullFinds (ext : Externals) (host : Host) (target : String) (strictAuth : Bool)
    (s : Site) (head : SyncHeadV1) (archive : Content) (dir : Dir Content) : Prop where
  found : parseHead "failed parsing s3 sync head" s.bucket[S3_HEAD_KEY]? = .ok (some head)
  authentic : strictAuth = true → ∃ file, Vault.dbFile s.vault = some file
    ∧ SyncAuth.ensureStrictSyncAuthReady ext file.db target head = .ok ()
  stored : s.bucket[snapshotKey head.snapshotId]? = some archive
  unpacked : unpackZipSnapshotWithLimits ext archive (some syncSnapshotLimits) = .ok dir

theorem eval_acceptHeadS3_eq_ok {strictAuth : Bool} {trust : SyncTrustV1} {head : SyncHeadV1}
    {s' : Site} (h : (acceptHeadS3 ext target strictAuth trust).eval (perform ext host) s
      = (.ok head, s')) :
  s' = s ∧ parseHead "failed parsing s3 sync head" s.bucket[S3_HEAD_KEY]? = .ok (some head)
    ∧ (strictAuth = true → ∃ file, Vault.dbFile s.vault = some file
      ∧ SyncAuth.ensureStrictSyncAuthReady ext file.db target head = .ok ())
  := by
  simp only [acceptHeadS3, Prog.eval_bind_eq_ok, eval_readHeadS3, eval_checkRemoteTrust_eq_ok,
    Prog.eval_ofExcept, requireHead, okOrElse_eq_ok, Prog.pure_eq, Prog.eval_ret,
    Prod.mk.injEq, Except.ok.injEq] at h
  obtain ⟨_, _, ⟨hh, rfl⟩, _, _, ⟨rfl, rfl⟩, _, _, ⟨rfl, file, hf, -⟩, _, _, hstrict, rfl, rfl⟩ := h
  obtain ⟨rfl, hauth⟩ := (eval_checkStrictAuth_eq_ok hf).mp hstrict
  exact ⟨rfl, hh, fun h => ⟨file, hf, hauth h⟩⟩

/-- A conflict that has been resolved has changed nothing. -/
theorem eval_resolveConflictS3_eq_ok {mode : Option SyncAutoMergeMode} {plan : S3PullPlan}
    {head : SyncHeadV1} {u : Unit} {s' : Site}
    (h : (resolveConflictS3 ext host target nowMs mode plan head).eval (perform ext host) s
      = (.ok u, s')) :
  s' = s
  := by
  unfold resolveConflictS3 at h
  split at h
  · cases mode with
    | none => simp [Prog.eval_bind_eq_ok] at h
    | some m =>
      have hreads : (syncMergePreviewS3Target ext host target none nowMs).AllOps Op.Reads :=
        syncMergePreviewS3Target_reads none
      have hstate := eval_reads ext host hreads s
      simp only [Prog.eval_bind_eq_ok, Prog.eval_ofExcept, Prod.mk.injEq] at h
      obtain ⟨_, _, hp, -, rfl⟩ := h
      rw [hp] at hstate
      exact hstate
  · cases h
    rfl

theorem eval_fetchS3Snapshot_eq_ok {mode : Option SyncAutoMergeMode} {strictAuth : Bool}
    {plan : S3PullPlan} {head : SyncHeadV1} {dir : Dir Content} {s' : Site}
    (h : (fetchS3Snapshot ext host target nowMs mode strictAuth plan).eval (perform ext host) s
      = (.ok (head, dir), s')) :
  s' = s ∧ ∃ archive, S3PullFinds ext host target strictAuth s head archive dir
  := by
  simp only [fetchS3Snapshot, Prog.eval_bind_eq_ok, eval_s3Read, eval_unpackZip,
    Prog.eval_ofExcept, okOrElse_eq_ok, Prog.pure_eq, Prog.eval_ret, Prod.mk.injEq,
    Except.ok.injEq] at h
  obtain ⟨found, _, ha, u, t, hr, _, _, ⟨hs, rfl⟩, archive, _, ⟨rfl, rfl⟩, _, _, ⟨hu, rfl⟩,
    ⟨rfl, rfl⟩, rfl⟩ := h
  obtain ⟨rfl, hh, hstrict⟩ := eval_acceptHeadS3_eq_ok ha
  obtain rfl := eval_resolveConflictS3_eq_ok hr
  exact ⟨rfl, archive, hh, hstrict, hs, hu⟩

theorem prepareS3Pull_ok {mode : Option SyncAutoMergeMode} {strictAuth : Bool}
    {plan : S3PullPlan} {s' : Site}
    (h : (prepareS3Pull ext host target nowMs mode strictAuth).eval (perform ext host) s
      = (.ok plan, s')) :
  s' = s
  := by
  simp only [prepareS3Pull, Prog.eval_bind_eq_ok, eval_ensureSyncTables_eq_ok,
    eval_mainDbPath_eq_ok, eval_vaultOpen, eval_readState_eq_ok, eval_buildLocalSnapshot,
    Prog.eval_ofExcept, Prog.pure_eq, Prog.eval_ret, Prod.mk.injEq, Except.ok.injEq] at h
  obtain ⟨_, _, ⟨rfl, -⟩, _, _, ⟨rfl, -⟩, _, _, ⟨-, rfl⟩, _, _, ⟨-, rfl⟩, _, _, ha, _, _, ⟨rfl, -⟩,
    _, _, ⟨rfl, -⟩, _, _, ⟨-, rfl⟩, _, _, hr, -, rfl⟩ := h
  obtain ⟨rfl, -⟩ := eval_acceptHeadS3_eq_ok ha
  apply eval_resolveConflictS3_eq_ok hr

/-- The lock is no object a pull looks for. -/
theorem S3PullFinds.of_locked {strictAuth : Bool} {lock : SyncS3WriteLockV1}
    {head : SyncHeadV1} {archive : Content} {dir : Dir Content}
    (h : S3PullFinds ext host target strictAuth (locked lock s) head archive dir) :
  S3PullFinds ext host target strictAuth s head archive dir
  where
  found := by
    rw [← getElem_head_locked lock]
    exact h.found
  authentic := h.authentic
  stored := by
    have := h.stored
    simpa [locked, Std.ExtTreeMap.getElem?_insert, (snapshotKey_ne_lock _).symm] using this
  unpacked := h.unpacked

/-- A pull from a remote target that goes through has put in place the trees of the archive it
found, and recorded the head. -/
theorem eval_syncPullS3Target_ok {mode : Option SyncAutoMergeMode} {strictAuth : Bool}
    {r : SyncPullResultV1} {s' : Site}
    (h : (syncPullS3Target ext host target nowMs mode strictAuth).eval (perform ext host) s
      = (.ok r, s')) :
  ∃ head archive dir, S3PullFinds ext host target strictAuth s head archive dir
    ∧ r = pullResult head
    ∧ TreesAreDirectories dir
    ∧ ∃ key file, Vault.dbEncryptionKey host (applied dir s.vault) = .ok key
      ∧ Vault.openDbFile ext key ((applied dir s.vault).get Vault.dbPath) = .ok file
      ∧ s'.vault
        = pulled ext head (snapshotKey head.snapshotId) nowMs dir s.vault file
  := by
  rw [syncPullS3Target, Prog.eval_bind_eq_ok] at h
  obtain ⟨plan, t, hp, h⟩ := h
  obtain rfl := prepareS3Pull_ok hp
  by_cases hfree : LockFree target nowMs t
  · rw [eval_withS3Lock (applyS3Pull_keepsLock mode strictAuth plan) hfree] at h
    rcases hbody : (applyS3Pull ext host target nowMs mode strictAuth plan).eval
        (perform ext host) (locked (lockOf plan.vault.vaultId plan.localTrust nowMs) t) with
      ⟨_, t'⟩
    rw [hbody] at h
    cases h
    rw [applyS3Pull, Prog.eval_bind_eq_ok] at hbody
    obtain ⟨⟨head, dir⟩, t₁, hfetch, hfinish⟩ := hbody
    obtain ⟨rfl, archive, hfinds⟩ := eval_fetchS3Snapshot_eq_ok hfetch
    obtain ⟨-, htop, rfl, key, file, hk, ho, rfl⟩ := eval_finishPull_eq_ok.mp hfinish
    exact ⟨head, archive, dir, hfinds.of_locked, rfl, htop, key, file, hk, ho, rfl⟩
  · obtain ⟨e, he⟩ := eval_withS3Lock_not_free ext host
      (applyS3Pull ext host target nowMs mode strictAuth plan) plan.vault.vaultId
      plan.localTrust hfree
    rw [he] at h
    cases h

end Sync

end KnowledgeCore
