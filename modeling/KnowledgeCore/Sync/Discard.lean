import KnowledgeCore.Sync.QuietPull

/-!
# Pulling over local work

A pull without auto-merge is meant to stop before it discards what the vault holds and no
snapshot has. It stops only at a conflict, and the test for a conflict takes missing rows for
agreement; past it the database of the vault is replaced as a whole.
-/

namespace KnowledgeCore

namespace Sync

variable {ext : Externals} {host : Host} {s : Site} {target : String} {nowMs : Int64}

/-- The snapshot the head of a file target points at, empty if there is none. -/
def remoteSnapshot (s : Site) : Dir Content :=
  match readHeadFile s.target with
  | .ok (some head) => s.snapshot head.snapshotId
  | _ => Dir.empty

/-- The snapshot the vault was last synchronised with, empty if it never was. -/
def lastSynced (s : Site) : Dir Content :=
  match seenRemote s.vault with
  | some id => s.snapshot id
  | none => Dir.empty

/-- An entry that the vault holds and that neither snapshot lists. -/
def Unsynced (s : Site) (item : Item) : Prop :=
  Holds s.vault item ∧ ¬ Lists (lastSynced s) item ∧ ¬ Lists (remoteSnapshot s) item

/-- What is asked of a pull without auto-merge: where there is anything unsynced it fails, and
the vault still holds it. -/
def PullKeepsUnsynced (ext : Externals) (host : Host) (target : String) (nowMs : Int64)
    (strictAuth : Bool) (s : Site) : Prop :=
  let run := (syncPullWithMode ext target nowMs none strictAuth).eval (perform ext host) s
  ∀ item, Unsynced s item → (∃ e, run.1 = .error e) ∧ Holds run.2.vault item

/-- Whether a pull stops before it gets to the database: the snapshot has no database tree, and
one of its trees is a file, or the database of the vault cannot be opened anew. -/
def StopsShort (ext : Externals) (host : Host) (src vault : Dir Content) : Prop :=
  src.contains TopDir.db.path = false
    ∧ (¬ TreesAreDirectories src ∨ ∃ e, Vault.openDb ext host vault = .error e)

/-- Whether the store of a snapshot, if it has one, has the file of an entry. -/
def StoreSpares (src : Dir Content) (item : Item) : Prop :=
  src.contains TopDir.store.path = true →
    HasFile src item ∧ ∀ hash, item = .object hash → src.isFile TopDir.store.path = false

/-- A pull discards an entry that is unsynced: it passes its checks, the rows of the vault show
no conflict, the trees of the snapshot are within the limits, and it does not stop short with
the file of the entry in place. -/
def PullDiscards (ext : Externals) (host : Host) (target : String) (strictAuth : Bool)
    (s : Site) : Prop :=
  ∃ file vault head bundle hash,
    PullReads ext host target strictAuth s file vault head bundle hash
      ∧ ¬ Diverged (some head) file.db hash
      ∧ s.target.snapshots.contains head.snapshotId = true
      ∧ validateSnapshotDirLimits ext (s.snapshot head.snapshotId) syncSnapshotLimits = .ok ()
      ∧ ∃ item, Unsynced s item
        ∧ ¬ (StopsShort ext host (s.snapshot head.snapshotId) s.vault
          ∧ StoreSpares (s.snapshot head.snapshotId) item)

/-! ### Past the checks -/

section Applied

variable {src vault vault' : Dir Content} {item : Item} {outcome : AppResult Unit}

theorem under_dbPath_iff {top : TopDir} :
  Dir.under top.path Vault.dbPath = true ↔ top = .db
  := by
  cases top <;> decide

/-- Once the database tree has been replaced, the database is that of the snapshot or gone. -/
theorem get_dbPath_applyTrees (h : src.contains TopDir.db.path = true) :
  (applyTrees src TopDir.all vault).2.get Vault.dbPath
    = if src.isFile TopDir.db.path then none else src.get Vault.dbPath
  := by
  have hdb : (replaced src .db vault).get Vault.dbPath
      = if src.isFile TopDir.db.path then none else src.get Vault.dbPath := by
    rw [get_replaced, if_pos ⟨h, by decide⟩]
  rw [TopDir.all, applyTrees]
  split
  · exact hdb
  · rw [get_applyTrees_of_not, hdb]
    intro top htop _
    cases top <;> first | rfl | simp at htop

/-- Without a database tree in the snapshot, the database stays. -/
theorem get_dbPath_applyTrees_of_not (h : src.contains TopDir.db.path = false) :
  (applyTrees src TopDir.all vault).2.get Vault.dbPath = vault.get Vault.dbPath
  := by
  apply get_applyTrees_of_not
  intro top _ hc
  cases top with
  | db => simp [h] at hc
  | store | index => rfl

/-- Without a database tree in the snapshot, the store is replaced if the snapshot has one. -/
theorem get_store_applyTrees (h : src.contains TopDir.db.path = false) {p : RelPath}
    (hp : Dir.under TopDir.store.path p = true) :
  (applyTrees src TopDir.all vault).2.get p =
    if src.contains TopDir.store.path then
      if src.isFile TopDir.store.path then none else src.get p
    else vault.get p
  := by
  have hdb : (replaced src .db vault).get p = vault.get p := by
    rw [get_replaced, if_neg (by simp [h])]
  have hstore : (replaced src .store (replaced src .db vault)).get p =
      if src.contains TopDir.store.path then
        if src.isFile TopDir.store.path then none else src.get p
      else vault.get p := by
    rw [get_replaced, hdb]
    simp [hp]
  rw [TopDir.all, applyTrees, if_neg (by simp [h]), applyTrees]
  split
  · exact hstore
  · rw [get_applyTrees_of_not, hstore]
    intro top htop _
    obtain rfl : top = .index := by simpa using htop
    by_contra hu
    have := under_unique (by simpa using hu) hp
    cases this

/-- The store of a snapshot has the file of an entry wherever the vault has it after the
replacement. -/
theorem storeSpares_iff (h : src.contains TopDir.db.path = false) (hfile : HasFile vault item) :
  HasFile (applyTrees src TopDir.all vault).2 item ↔ StoreSpares src item
  := by
  cases item with
  | document id => simp [HasFile, StoreSpares]
  | overlay id => simp [HasFile, StoreSpares]
  | object hash =>
    obtain ⟨path, content, hpath, hget⟩ := hfile
    have hu : Dir.under TopDir.store.path path = true :=
      TopDir.under_path.mpr (head_objectPath hpath)
    simp only [HasFile, StoreSpares, hpath, Option.some.injEq, exists_and_left, exists_eq_left',
      get_store_applyTrees h hu]
    cases src.contains TopDir.store.path with
    | false => simp [hget]
    | true => cases src.isFile TopDir.store.path <;> simp

end Applied

/-- A replacement that does not touch the database leaves it to be opened as before. -/
theorem openDb_isOk_congr {vault vault' : Dir Content}
    (hjson : vault'.get Vault.vaultJsonPath = vault.get Vault.vaultJsonPath)
    (hdb : vault'.get Vault.dbPath = vault.get Vault.dbPath) :
  (∃ e, Vault.openDb ext host vault' = .error e) ↔ ∃ e, Vault.openDb ext host vault = .error e
  := by
  simp only [Vault.openDb, Vault.dbEncryptionKey_congr hjson, hdb]
  cases Vault.dbEncryptionKey host vault with
  | error e => simp
  | ok key => cases hf : Vault.openDbFile ext key (vault.get Vault.dbPath) <;> simp [hf]

theorem get_vaultJson_applyTrees (src vault : Dir Content) :
  (applyTrees src TopDir.all vault).2.get Vault.vaultJsonPath = vault.get Vault.vaultJsonPath
  := by
  apply get_applyTrees_of_not
  intro top _ _
  cases top <;> rfl

/-- Of a snapshot with a database tree, nothing is listed afterwards that it does not list. -/
theorem lists_of_applyTrees {src vault : Dir Content} {item : Item}
    (hsrc : src.contains TopDir.db.path = true)
    (hl : Lists (applyTrees src TopDir.all vault).2 item) :
  Lists src item
  := by
  obtain ⟨file, hf, hrow⟩ := hl
  rw [Vault.dbFile_eq_some, get_dbPath_applyTrees hsrc] at hf
  split at hf
  · cases hf
  · exact ⟨file, Vault.dbFile_eq_some.mpr hf, hrow⟩

/-- A pull that goes through does not stop short. -/
theorem not_stopsShort {src vault : Dir Content} {key : Option String} {file : SqliteFile}
    (htop : TreesAreDirectories src)
    (hkey : Vault.dbEncryptionKey host (applied src vault) = .ok key)
    (hopen : Vault.openDbFile ext key ((applied src vault).get Vault.dbPath) = .ok file) :
  ¬ StopsShort ext host src vault
  := by
  have happlied : (applyTrees src TopDir.all vault).2 = applied src vault := by
    rw [applyTrees_all htop]
  rintro ⟨hdb, hno | hno⟩
  · exact hno htop
  · obtain ⟨e, he⟩ := (openDb_isOk_congr (get_vaultJson_applyTrees src vault)
      (get_dbPath_applyTrees_of_not hdb)).mpr hno
    rw [happlied] at he
    simp [Vault.openDb, hkey, hopen] at he

theorem remoteSnapshot_eq {head : SyncHeadV1} (h : readHeadFile s.target = .ok (some head)) :
  remoteSnapshot s = s.snapshot head.snapshotId
  := by
  simp [remoteSnapshot, h]

/-- A pull without auto-merge that passes its checks and stays within the limits keeps an
unsynced entry exactly when it stops short of the database, with the file of the entry in
place. -/
theorem keeps_iff_stopsShort {head : SyncHeadV1} {item : Item} {bundleRelpath : String}
    {result : AppResult SyncPullResultV1} {s' : Site}
    (hhead : readHeadFile s.target = .ok (some head))
    (hv : validateSnapshotDirLimits ext (s.snapshot head.snapshotId) syncSnapshotLimits = .ok ())
    (hun : Unsynced s item)
    (hrun : (finishPull (.snapshot head.snapshotId) head bundleRelpath nowMs).eval
      (perform ext host) s = (result, s')) :
  ((∃ e, result = .error e) ∧ Holds s'.vault item)
    ↔ StopsShort ext host (s.snapshot head.snapshotId) s.vault
      ∧ StoreSpares (s.snapshot head.snapshotId) item
  := by
  obtain ⟨⟨hlists, hfile⟩, -, hremote⟩ := hun
  rw [remoteSnapshot_eq hhead] at hremote
  rcases ht : applyTrees (s.snapshot head.snapshotId) TopDir.all s.vault with ⟨applied, vault⟩
  have hvault : vault = (applyTrees (s.snapshot head.snapshotId) TopDir.all s.vault).2 := by
    rw [ht]
  have hlimits : validateSnapshotDirLimits ext ((Source.snapshot head.snapshotId).dir s.target)
      syncSnapshotLimits = .ok () := hv
  have hends := eval_finishPull hlimits ht hrun
  cases hdb : (s.snapshot head.snapshotId).contains TopDir.db.path with
  | true =>
    apply iff_of_false
    · rintro ⟨-, hlists', -⟩
      apply hremote
      suffices h : Lists (applyTrees (s.snapshot head.snapshotId) TopDir.all s.vault).2 item from
        lists_of_applyTrees hdb h
      rw [← hvault]
      rcases hends with ⟨-, hs', -⟩ | ⟨key, file, -, hopen, hs'⟩
      · rwa [hs'] at hlists'
      · rw [hs'] at hlists'
        exact (lists_recorded_iff hopen).mp hlists'
    · rintro ⟨⟨hno, -⟩, -⟩
      simp [hdb] at hno
  | false =>
    have hget : vault.get Vault.dbPath = s.vault.get Vault.dbPath := by
      rw [hvault, get_dbPath_applyTrees_of_not hdb]
    have hopen : (∃ e, Vault.openDb ext host vault = .error e)
        ↔ ∃ e, Vault.openDb ext host s.vault = .error e := by
      apply openDb_isOk_congr _ hget
      rw [hvault, get_vaultJson_applyTrees]
    rcases hends with ⟨herr, hs', hwhy⟩ | ⟨key, file, rfl, -, -⟩
    · have hstops : StopsShort ext host (s.snapshot head.snapshotId) s.vault := by
        use hdb
        rcases hwhy with ⟨e, rfl⟩ | hwhy
        · left
          intro htop
          simp [applyTrees_all htop] at ht
        · right
          exact hopen.mp hwhy
      have hlists' : Lists vault item := (lists_congr hget).mpr hlists
      rw [hs', Holds, hvault, storeSpares_iff hdb hfile, ← hvault]
      simp [herr, hlists', hstops]
    · apply iff_of_false
      · rintro ⟨⟨e, he⟩, -⟩
        cases he
      · obtain ⟨-, htop, -, key, file, hk, hf, -⟩ := eval_finishPull_eq_ok.mp hrun
        rintro ⟨hstops, -⟩
        exact not_stopsShort htop hk hf hstops

/-- A pull without auto-merge keeps what is unsynced exactly when it does not pass its checks
and then put the trees of a snapshot in place without stopping short of the database. -/
theorem pull_keeps_unsynced_iff (ext : Externals) (host : Host) (target : String)
    (nowMs : Int64) (strictAuth : Bool) (s : Site) :
  PullKeepsUnsynced ext host target nowMs strictAuth s
    ↔ ¬ PullDiscards ext host target strictAuth s
  := by
  rw [PullKeepsUnsynced]
  by_cases h : ∃ file vault head bundle hash,
      PullAccepts ext host target nowMs none strictAuth s file vault head bundle hash
  · obtain ⟨file, vault, head, bundle, hash, ha⟩ := h
    rcases hv : validateSnapshotDirLimits ext (s.snapshot head.snapshotId) syncSnapshotLimits
      with e | _
    · have hlimits : validateSnapshotDirLimits ext
          ((Source.snapshot head.snapshotId).dir s.target) syncSnapshotLimits = .error e := hv
      rw [eval_syncPullWithMode_accepts ha, eval_finishPull_over_limits hlimits]
      apply iff_of_true
      · rintro item ⟨hholds, -⟩
        exact ⟨⟨e, rfl⟩, hholds⟩
      · rintro ⟨_, _, head', _, _, hr, -, -, hv', -⟩
        obtain rfl : head = head' := by simpa [ha.found] using hr.found
        simp [hv] at hv'
    · rcases hrun : (finishPull (.snapshot head.snapshotId) head
        ("snapshots/" ++ head.snapshotId) nowMs).eval (perform ext host) s with ⟨result, s'⟩
      rw [eval_syncPullWithMode_accepts ha, hrun]
      constructor
      · rintro hkeeps ⟨_, _, head', _, _, hr, -, -, -, item, hun, hno⟩
        obtain rfl : head = head' := by simpa [ha.found] using hr.found
        exact hno ((keeps_iff_stopsShort ha.found hv hun hrun).mp (hkeeps item hun))
      · intro hno item hun
        obtain ⟨hr, hagrees, hstored⟩ := pullAccepts_none.mp ha
        apply (keeps_iff_stopsShort ha.found hv hun hrun).mpr
        by_contra hshort
        exact hno ⟨file, vault, head, bundle, hash, hr, hagrees, hstored, hv, item, hun, hshort⟩
  · obtain ⟨e, s', hrun, hvault⟩ := eval_syncPullWithMode_refused h
    rw [hrun]
    apply iff_of_true
    · rintro item ⟨hholds, -⟩
      refine ⟨⟨e, rfl⟩, ?_⟩
      rw [hvault]
      exact hholds
    · rintro ⟨file, vault, head, bundle, hash, hr, hagrees, hstored, -⟩
      exact h ⟨file, vault, head, bundle, hash, pullAccepts_none.mpr ⟨hr, hagrees, hstored⟩⟩

/-- A vault with a document that has never synchronised, at a target with the snapshot of an
empty vault. -/
def Sample.firstPull : Site where
  vault := Sample.documentVault
  target := Sample.target (fileHead "snapshot-of-another-vault" "blake3:00" 1)
    [("snapshot-of-another-vault", Sample.vault Sample.db [])]
  bucket := ∅

/-- Its first pull succeeds, and the document is gone. -/
theorem first_pull_discards_document :
  ¬ PullKeepsUnsynced Sample.ext Sample.host "target" 1000 false Sample.firstPull
  := by
  have hok : ((syncPullWithMode Sample.ext "target" 1000 none false).eval
      (perform Sample.ext Sample.host) Sample.firstPull).1.isOk = true := by decide +kernel
  have hdb : Vault.dbFile Sample.firstPull.vault = some ⟨Sample.documentDb, none, 0⟩ := by
    simp [Vault.dbFile_eq_some, Sample.firstPull, Sample.documentVault, Sample.vault]
    rfl
  have hremote : Vault.dbFile (remoteSnapshot Sample.firstPull) = some ⟨Sample.db, none, 0⟩ := by
    rfl
  have hlast : Vault.dbFile (lastSynced Sample.firstPull) = none := by
    rfl
  have hun : Unsynced Sample.firstPull (.document "document") := by
    refine ⟨⟨⟨_, hdb, ?_⟩, trivial⟩, ?_, ?_⟩
    · decide
    · rintro ⟨file, hf, -⟩
      rw [hlast] at hf
      cases hf
    · rintro ⟨file, hf, hl⟩
      rw [hremote] at hf
      cases hf
      revert hl
      decide
  intro hkeeps
  obtain ⟨⟨e, he⟩, -⟩ := hkeeps _ hun
  rw [he] at hok
  cases hok

end Sync

end KnowledgeCore
