import KnowledgeCore.Sync.QuietPull

/-!
# What applying a snapshot replaces

A snapshot is applied tree by tree: what the vault has at the place of a tree is removed, and the
files of the snapshot are copied there. The trees that the snapshot does not have, and everything
else in the vault, stay as they are.
-/

namespace KnowledgeCore

namespace Sync

/-- What is asked of a vault after a snapshot has been applied to it: the trees of the snapshot
hold the files of the snapshot and no others, and nothing else has changed. -/
structure ReplacesExactly (snapshot vault after : Dir Content) : Prop where
  present : ∀ top : TopDir, snapshot.contains top.path = true →
    after.listFiles top.path = snapshot.listFiles top.path
  absent : ∀ top : TopDir, snapshot.contains top.path = false →
    after.listFiles top.path = vault.listFiles top.path
  others : ∀ p, (∀ top : TopDir, Dir.under top.path p = false) → after.get p = vault.get p
  directories : ∀ p, (∀ top : TopDir, snapshot.contains top.path = true →
      Dir.under top.path p = false) →
    after.dirs.contains p = vault.dirs.contains p
  vaultJson : after.get Vault.vaultJsonPath = vault.get Vault.vaultJsonPath

/-- Replacing a tree leaves the directories outside of it. -/
theorem contains_dirs_replaced {src vault : Dir Content} {top : TopDir} {p : RelPath}
    (h : src.contains top.path = true → Dir.under top.path p = false) :
  (replaced src top vault).dirs.contains p = vault.dirs.contains p
  := by
  rw [replaced]
  split
  · next hc =>
    have hu := h hc
    have hne : top.path ≠ p := by
      rintro rfl
      rw [TopDir.under_path.mpr rfl] at hu
      cases hu
    have hclear : (if kindOf vault top = .absent then vault
        else vault.removeAll top.path).dirs.contains p = vault.dirs.contains p := by
      split
      · rfl
      · simp only [Dir.removeAll, Std.ExtTreeMap.contains_eq_isSome_getElem?,
          Std.ExtTreeMap.getElem?_filter', hu]
        cases vault.dirs[p]? <;> rfl
    have hfresh : ((if kindOf vault top = .absent then vault
        else vault.removeAll top.path).createDirAll top.path).dirs.contains p
          = vault.dirs.contains p := by
      rw [Dir.createDirAll, ← hclear]
      simp [Std.ExtTreeMap.contains_insert, hne]
    rw [replaceTree]
    split
    · exact hfresh
    · rw [Dir.dirs_copyTree]
      exact hfresh
  · rfl

theorem contains_dirs_applied {src vault : Dir Content} {p : RelPath}
    (h : ∀ top : TopDir, src.contains top.path = true → Dir.under top.path p = false) :
  (applied src vault).dirs.contains p = vault.dirs.contains p
  := by
  rw [applied, contains_dirs_replaced (h .index), contains_dirs_replaced (h .store),
    contains_dirs_replaced (h .db)]

/-- A vault to which a snapshot has been applied has the trees of the snapshot, and is otherwise
as it was. -/
theorem applySnapshotToVault_replaces (ext : Externals) (host : Host) (source : Source)
    (s s' : Site)
    (h : (applySnapshotToVault source).eval (perform ext host) s = (.ok (), s')) :
  ReplacesExactly (source.dir s.target) s.vault s'.vault
    ∧ s'.target = s.target ∧ s'.bucket = s.bucket
  := by
  obtain ⟨-, htrees, rfl⟩ := eval_applySnapshotToVault_eq_ok.mp h
  refine ⟨?_, rfl, rfl⟩
  constructor
  · intro top hc
    apply Dir.listFiles_congr
    intro p hu
    apply get_applied_of_under htrees hc hu
  · intro top hc
    apply Dir.listFiles_congr
    intro p hu
    apply get_applied_of_not
    intro top' hc'
    rw [Bool.eq_false_iff]
    intro hu'
    cases under_unique hu hu'
    rw [hc] at hc'
    cases hc'
  · intro p hout
    apply get_applied_of_not
    intro top _
    exact hout top
  · intro p hout
    apply contains_dirs_applied hout
  · apply get_applied_of_not
    rintro (_ | _ | _) _ <;> rfl

/-- A snapshot with a database and an object. -/
def Sample.applicable : Dir Content :=
  Dir.ofFiles [(["db", "knowledge.sqlite"], .raw [1]), (["store", "objects", "3f", "a"], .raw [2])]

/-- A vault with another database, an index, and its configuration. -/
def Sample.outdated : Site where
  vault := Dir.ofFiles [(["db", "knowledge.sqlite"], .raw [3]), (["db", "knowledge.sqlite-wal"], .raw [4]),
    (["index", "vectors", "v"], .raw [5]), (["vault.json"], .raw [6])]
  target := { head := none, snapshots := ∅, conflicts := ∅ }
  bucket := ∅

theorem applySnapshotToVault_replaces_outdated :
  ReplacesExactly Sample.applicable Sample.outdated.vault
    (applied Sample.applicable Sample.outdated.vault)
  := by
  have hvalid : validateSnapshotDirLimits Sample.ext Sample.applicable syncSnapshotLimits
      = .ok () := by
    apply ok_of_toOption
    decide +kernel
  have htrees : TreesAreDirectories Sample.applicable := by
    rintro (_ | _ | _) _ <;> decide +kernel
  exact (applySnapshotToVault_replaces Sample.ext Sample.host (.unpacked Sample.applicable)
    Sample.outdated _ (eval_applySnapshotToVault_eq_ok.mpr ⟨hvalid, htrees, rfl⟩)).1

end Sync

end KnowledgeCore
