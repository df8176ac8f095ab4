import KnowledgeCore.StrictAuth
import KnowledgeCore.Sync.Push
import KnowledgeCore.Sync.Target

/-!
# Rolling out strict authentication

Before strict authentication is turned on, the heads of all targets are read, one after another,
classified and counted. The totals are sums of the counts of the classes, and the check that all
targets are ready passes exactly when every head it has read would let a strict pull past.
-/

namespace KnowledgeCore

namespace Sync

open SyncAuth (SyncAuthReadinessClassification SyncAuthReadinessReportV1 classifySyncAuthReadiness
  ensureStrictSyncAuthReady)

/-! ### Reading heads -/

/-- What a transport is asked for. -/
inductive TransportOp
  | readHead (target : SyncTargetUri)

abbrev TransportOp.Ans : TransportOp → Type
  | .readHead _ => AppResult (Option SyncHeadV1)

abbrev TransportM := Prog TransportOp TransportOp.Ans AppError

variable (ext : Externals) (db : Db)

def syncAuthReadinessTarget (targetUri : String) : TransportM SyncAuthReadinessReportV1 := do
  let target ← Prog.ofExcept (SyncTargetUri.parse targetUri)
  let remoteHead ← Prog.op (.readHead target) Prog.ofExcept
  Prog.ofExcept (classifySyncAuthReadiness ext db target.display remoteHead)

/-! ### Counting reports -/

structure ReadinessCounts where
  classificationCounts : Table Int
  strictReadyCount : Int
  dependsOnLegacyFallbackCount : Int
  invalidCount : Int
  reports : List SyncAuthReadinessReportV1

structure SyncAuthReadinessRolloutReportV1 extends ReadinessCounts where
  reportVersion : Int
  targetCount : Int
  strictBlockedCount : Int

namespace ReadinessCounts

def start : ReadinessCounts where
  classificationCounts := ∅
  strictReadyCount := 0
  dependsOnLegacyFallbackCount := 0
  invalidCount := 0
  reports := []

/-- How many reports are of a class. -/
def countOf (counts : ReadinessCounts) (classification : SyncAuthReadinessClassification) : Int :=
  (counts.classificationCounts[classification.asStr]?).getD 0

/-- Count one more if a condition holds. -/
def oneIf (p : Prop) [Decidable p] : Int :=
  if p then 1 else 0

def add (counts : ReadinessCounts) (report : SyncAuthReadinessReportV1) : ReadinessCounts where
  classificationCounts := counts.classificationCounts.insert report.classification.asStr
    (counts.countOf report.classification + 1)
  strictReadyCount := counts.strictReadyCount + oneIf (report.strictReady = true)
  dependsOnLegacyFallbackCount :=
    counts.dependsOnLegacyFallbackCount + oneIf (report.dependsOnLegacyFallback = true)
  invalidCount := counts.invalidCount
    + oneIf (report.classification = .invalid
      ∨ report.classification = .unsupportedDeclaredAlgorithm)
  reports := counts.reports ++ [report]

def rollout (counts : ReadinessCounts) : SyncAuthReadinessRolloutReportV1 where
  __ := counts
  reportVersion := 1
  targetCount := counts.reports.length
  strictBlockedCount := counts.reports.length - counts.strictReadyCount

end ReadinessCounts

open ReadinessCounts (oneIf)

def collectReports : List String → ReadinessCounts → TransportM ReadinessCounts
  | [], counts => pure counts
  | targetUri :: rest, counts => do
    let report ← syncAuthReadinessTarget ext db targetUri
    collectReports rest (counts.add report)

def syncAuthReadinessTargets (targetUris : List String) :
  TransportM SyncAuthReadinessRolloutReportV1
  :=
  if targetUris = [] then
    .fail (syncError "KC_SYNC_TARGET_INVALID"
      "sync auth readiness rollout report requires at least one target" (.obj []))
  else do
    let counts ← collectReports ext db targetUris .start
    pure counts.rollout

def strictBlocked (report : SyncAuthReadinessRolloutReportV1) : AppError :=
  syncError "KC_SYNC_AUTH_STRICT_BLOCKED"
    "one or more sync targets are not ready for strict sync auth"
    (.obj [("report_version", .int report.reportVersion),
      ("target_count", .int report.targetCount),
      ("strict_ready_count", .int report.strictReadyCount),
      ("strict_blocked_count", .int report.strictBlockedCount),
      ("depends_on_legacy_fallback_count", .int report.dependsOnLegacyFallbackCount),
      ("invalid_count", .int report.invalidCount),
      ("classification_counts",
        .obj (report.classificationCounts.toList.map fun entry => (entry.1, .int entry.2)))])

def syncAuthStrictCheckTargets (targetUris : List String) :
  TransportM SyncAuthReadinessRolloutReportV1
  := do
  let report ← syncAuthReadinessTargets ext db targetUris
  if report.strictBlockedCount = 0 then pure report else .fail (strictBlocked report)

variable {ext db}

/-! ### What is read -/

/-- A target together with the head that was read there. -/
abbrev HeadRead := SyncTargetUri × Option SyncHeadV1

/-- The event of a head that was read. -/
def HeadRead.event (read : HeadRead) : Event TransportOp TransportOp.Ans :=
  ⟨.readHead read.1, .ok read.2⟩

/-- A head that was read gives a report. -/
def HeadRead.GivesReport (ext : Externals) (db : Db) (read : HeadRead)
    (report : SyncAuthReadinessReportV1) : Prop :=
  classifySyncAuthReadiness ext db read.1.display read.2 = .ok report

/-- A strict pull gets past what was read: there is no head, or it passes. -/
def HeadRead.PassesStrictly (ext : Externals) (db : Db) (read : HeadRead) : Prop :=
  ∀ head, read.2 = some head → ensureStrictSyncAuthReady ext db read.1.display head = .ok ()

theorem path_syncAuthReadinessTarget {targetUri : String} {report : SyncAuthReadinessReportV1}
    {tr : List (Event TransportOp TransportOp.Ans)} :
  Prog.Path (syncAuthReadinessTarget ext db targetUri) tr (.ok report)
    ↔ ∃ read : HeadRead, SyncTargetUri.parse targetUri = .ok read.1 ∧ tr = [read.event]
      ∧ read.GivesReport ext db report
  := by
  rw [syncAuthReadinessTarget]
  cases hparse : SyncTargetUri.parse targetUri with
  | error e => simp
  | ok target =>
    rw [Prog.ofExcept_ok, Prog.ret_bind, Prog.op_bind, Prog.path_op]
    constructor
    · rintro ⟨answer, t, rfl, h⟩
      cases answer with
      | error e => simp at h
      | ok head =>
        rw [Prog.ofExcept_ok, Prog.ret_bind, Prog.path_ofExcept] at h
        obtain ⟨rfl, h⟩ := h
        use (target, head), rfl, rfl, h.symm
    · rintro ⟨⟨_, head⟩, ⟨⟩, rfl, h⟩
      use .ok head, [], rfl
      rw [Prog.ofExcept_ok, Prog.ret_bind, Prog.path_ofExcept]
      use rfl, h.symm

/-- The reports are those of what is read, one for each target and in their order. -/
theorem path_collectReports {targetUris : List String} {counts after : ReadinessCounts}
    {tr : List (Event TransportOp TransportOp.Ans)} :
  Prog.Path (collectReports ext db targetUris counts) tr (.ok after)
    ↔ ∃ reads reports, tr = reads.map HeadRead.event
      ∧ List.Forall₂ (fun uri read => SyncTargetUri.parse uri = .ok read.1) targetUris reads
      ∧ List.Forall₂ (HeadRead.GivesReport ext db) reads reports
      ∧ after = reports.foldl ReadinessCounts.add counts
  := by
  induction targetUris generalizing counts tr with
  | nil =>
    rw [collectReports, Prog.pure_eq, Prog.path_ret]
    constructor
    · rintro ⟨rfl, h⟩
      cases h
      use [], [], rfl, .nil, .nil
      rfl
    · rintro ⟨reads, reports, rfl, hparse, hgives, rfl⟩
      cases hparse
      cases hgives
      use rfl
      rfl
  | cons targetUri rest ih =>
    rw [collectReports, Prog.path_bind]
    constructor
    · rintro (⟨e, h, -⟩ | ⟨t, u, report, rfl, hfirst, hrest⟩)
      · cases h
      · obtain ⟨read, hparse, rfl, hgives⟩ := path_syncAuthReadinessTarget.mp hfirst
        obtain ⟨reads, reports, rfl, hparses, hall, rfl⟩ := ih.mp hrest
        use read :: reads, report :: reports, rfl, .cons hparse hparses, .cons hgives hall
        rfl
    · rintro ⟨reads, reports, rfl, hparse, hgives, rfl⟩
      cases hparse with
      | cons hfirst hrest =>
        cases hgives with
        | cons hreport hreports =>
          right
          refine ⟨_, _, _, rfl, path_syncAuthReadinessTarget.mpr ⟨_, hfirst, rfl, hreport⟩, ?_⟩
          apply ih.mpr
          exact ⟨_, _, rfl, hrest, hreports, rfl⟩

theorem path_syncAuthReadinessTargets {targetUris : List String}
    {report : SyncAuthReadinessRolloutReportV1} {tr : List (Event TransportOp TransportOp.Ans)} :
  Prog.Path (syncAuthReadinessTargets ext db targetUris) tr (.ok report)
    ↔ targetUris ≠ [] ∧ ∃ reads reports, tr = reads.map HeadRead.event
      ∧ List.Forall₂ (fun uri read => SyncTargetUri.parse uri = .ok read.1) targetUris reads
      ∧ List.Forall₂ (HeadRead.GivesReport ext db) reads reports
      ∧ report = (reports.foldl ReadinessCounts.add .start).rollout
  := by
  rw [syncAuthReadinessTargets]
  split
  · next hempty => simp [hempty]
  · next hfilled =>
    rw [Prog.path_bind]
    constructor
    · rintro (⟨e, h, -⟩ | ⟨t, u, counts, rfl, hcollect, hreturn⟩)
      · cases h
      · obtain ⟨reads, reports, rfl, hparse, hgives, rfl⟩ := path_collectReports.mp hcollect
        obtain ⟨rfl, hreturn⟩ := Prog.path_ret.mp hreturn
        cases hreturn
        use hfilled, reads, reports, List.append_nil _, hparse, hgives
    · rintro ⟨-, reads, reports, rfl, hparse, hgives, rfl⟩
      right
      refine ⟨_, [], _, (List.append_nil _).symm,
        path_collectReports.mpr ⟨reads, reports, rfl, hparse, hgives, rfl⟩, ?_⟩
      apply Prog.path_ret.mpr
      exact ⟨rfl, rfl⟩

/-! ### What is counted -/

/-- What has been counted of reports. -/
structure Counted (reports : List SyncAuthReadinessReportV1) (counts : ReadinessCounts) : Prop where
  listed : counts.reports = reports
  classes : ∀ name, counts.classificationCounts[name]?
    = if ∃ report ∈ reports, report.classification.asStr = name then
        some (reports.countP fun report => report.classification.asStr = name : Int)
      else none
  ready : counts.strictReadyCount = reports.countP fun report => report.strictReady = true
  fallback : counts.dependsOnLegacyFallbackCount
    = reports.countP fun report => report.dependsOnLegacyFallback = true
  invalid : counts.invalidCount
    = reports.countP fun report => report.classification = .invalid
      ∨ report.classification = .unsupportedDeclaredAlgorithm

theorem asStr_inj {c c' : SyncAuthReadinessClassification} :
  c.asStr = c'.asStr ↔ c = c'
  := by
  constructor
  · cases c <;> cases c' <;> decide
  · rintro rfl
    rfl

theorem Counted.countOf {reports : List SyncAuthReadinessReportV1} {counts : ReadinessCounts}
    (h : Counted reports counts) (c : SyncAuthReadinessClassification) :
  counts.countOf c = reports.countP fun report => report.classification = c
  := by
  rw [ReadinessCounts.countOf, h.classes]
  simp only [asStr_inj]
  split
  · rfl
  · next hnone =>
    rw [List.countP_eq_zero.mpr]
    · rfl
    · intro report hmem hclass
      exact hnone ⟨report, hmem, of_decide_eq_true hclass⟩

theorem natCast_oneIf (p : Prop) [Decidable p] :
  ((if decide p = true then 1 else 0 : Nat) : Int) = oneIf p
  := by
  by_cases h : p <;> simp [oneIf, h]

/-- One report more is counted once. -/
theorem Counted.add {reports : List SyncAuthReadinessReportV1} {counts : ReadinessCounts}
    (h : Counted reports counts) (report : SyncAuthReadinessReportV1) :
  Counted (reports ++ [report]) (counts.add report)
  := by
  constructor
  · rw [ReadinessCounts.add, h.listed]
  · intro name
    rw [ReadinessCounts.add, Std.ExtTreeMap.getElem?_insert, h.countOf, h.classes]
    by_cases hname : report.classification.asStr = name
    · subst hname
      simp [List.countP_append, asStr_inj]
    · simp [List.countP_append, hname]
  · simp only [ReadinessCounts.add, h.ready, List.countP_append, List.countP_singleton,
      Int.natCast_add, natCast_oneIf]
  · simp only [ReadinessCounts.add, h.fallback, List.countP_append, List.countP_singleton,
      Int.natCast_add, natCast_oneIf]
  · simp only [ReadinessCounts.add, h.invalid, List.countP_append, List.countP_singleton,
      Int.natCast_add, natCast_oneIf]

theorem counted_start :
  Counted [] .start
  := by
  constructor <;> simp [ReadinessCounts.start]

theorem counted_foldl {reports earlier : List SyncAuthReadinessReportV1} {counts : ReadinessCounts}
    (h : Counted earlier counts) :
  Counted (earlier ++ reports) (reports.foldl ReadinessCounts.add counts)
  := by
  induction reports generalizing earlier counts with
  | nil => rwa [List.append_nil]
  | cons report rest ih =>
    rw [List.append_cons]
    apply ih (h.add report)

/-! ### Classes and totals -/

/-- What a report says of strict pulls and of the fallback follows from its class. -/
structure Consistent (report : SyncAuthReadinessReportV1) : Prop where
  ready : report.strictReady = true
    ↔ report.classification = .noRemoteHead ∨ report.classification = .declaredEd25519
  fallback : report.dependsOnLegacyFallback = true
    ↔ report.classification = .legacySchema ∨ report.classification = .undeclaredLegacyFallback

theorem HeadRead.GivesReport.consistent {read : HeadRead} {report : SyncAuthReadinessReportV1}
    (h : read.GivesReport ext db report) :
  Consistent report
  := by
  obtain ⟨target, remoteHead⟩ := read
  cases remoteHead with
  | none =>
    cases h
    constructor <;> simp
  | some head =>
    rw [HeadRead.GivesReport, classifySyncAuthReadiness] at h
    split at h
    · cases h
      constructor <;> simp
    · split at h
      · split at h
        · split at h
          · cases h
            constructor <;> simp
          · cases h
            constructor <;> simp
        · cases h
          constructor <;> simp
      · rw [AppResult.bind_eq_ok] at h
        obtain ⟨legacyMatch, -, h⟩ := h
        dsimp only at h
        split at h
        · cases h
          constructor <;> simp
        · split at h
          · cases h
            constructor <;> simp
          · cases h
            constructor <;> simp

/-- There are as many reports as there are of all classes together. -/
theorem length_eq_classes (reports : List SyncAuthReadinessReportV1) :
  reports.length
    = (reports.countP fun report => report.classification = .noRemoteHead)
      + (reports.countP fun report => report.classification = .declaredEd25519)
      + (reports.countP fun report => report.classification = .legacySchema)
      + (reports.countP fun report => report.classification = .undeclaredEd25519Compatible)
      + (reports.countP fun report => report.classification = .undeclaredLegacyFallback)
      + (reports.countP fun report => report.classification = .unsupportedDeclaredAlgorithm)
      + (reports.countP fun report => report.classification = .invalid)
  := by
  induction reports with
  | nil => rfl
  | cons report rest ih =>
    simp only [List.length_cons, List.countP_cons, ih]
    cases report.classification <;> simp <;> omega

/-- What is of one of two classes is counted in both together. -/
theorem countP_eq_add (p : SyncAuthReadinessReportV1 → Prop) [DecidablePred p]
    {reports : List SyncAuthReadinessReportV1} {c c' : SyncAuthReadinessClassification}
    (hne : c ≠ c')
    (h : ∀ report ∈ reports, p report ↔ report.classification = c ∨ report.classification = c') :
  reports.countP (fun report => p report)
    = (reports.countP fun report => report.classification = c)
      + (reports.countP fun report => report.classification = c')
  := by
  induction reports with
  | nil => rfl
  | cons report rest ih =>
    simp only [List.countP_cons, ih fun report hmem => h report (List.mem_cons_of_mem _ hmem),
      h report List.mem_cons_self, decide_eq_true_eq]
    by_cases hc : report.classification = c
    · simp [hc, hne]
      omega
    · simp [hc]
      omega

/-- The counts are those of the reports, and the totals are sums of them. -/
structure AddsUp (reports : List SyncAuthReadinessReportV1)
    (rollout : SyncAuthReadinessRolloutReportV1) : Prop where
  counted : Counted reports rollout.toReadinessCounts
  version : rollout.reportVersion = 1
  total : rollout.targetCount = reports.length
  ready : rollout.strictReadyCount
    = rollout.countOf .noRemoteHead + rollout.countOf .declaredEd25519
  blocked : rollout.strictBlockedCount
    = rollout.countOf .legacySchema + rollout.countOf .undeclaredEd25519Compatible
      + rollout.countOf .undeclaredLegacyFallback + rollout.countOf .unsupportedDeclaredAlgorithm
      + rollout.countOf .invalid
  fallback : rollout.dependsOnLegacyFallbackCount
    = rollout.countOf .legacySchema + rollout.countOf .undeclaredLegacyFallback
  invalid : rollout.invalidCount
    = rollout.countOf .invalid + rollout.countOf .unsupportedDeclaredAlgorithm

theorem addsUp_rollout {reports : List SyncAuthReadinessReportV1} {counts : ReadinessCounts}
    (h : Counted reports counts) (hall : ∀ report ∈ reports, Consistent report) :
  AddsUp reports counts.rollout
  := by
  have hready : counts.strictReadyCount
      = counts.countOf .noRemoteHead + counts.countOf .declaredEd25519 := by
    rw [h.ready, h.countOf, h.countOf, ← Int.natCast_add,
      countP_eq_add _ (by decide) fun report hmem => (hall report hmem).ready]
  constructor
  · exact h
  · rfl
  · rw [ReadinessCounts.rollout, h.listed]
  · exact hready
  · change (counts.reports.length : Int) - counts.strictReadyCount = counts.countOf .legacySchema
      + counts.countOf .undeclaredEd25519Compatible + counts.countOf .undeclaredLegacyFallback
      + counts.countOf .unsupportedDeclaredAlgorithm + counts.countOf .invalid
    have hlength := length_eq_classes reports
    rw [h.listed, hready]
    simp only [h.countOf]
    omega
  · change counts.dependsOnLegacyFallbackCount
      = counts.countOf .legacySchema + counts.countOf .undeclaredLegacyFallback
    rw [h.fallback, h.countOf, h.countOf, ← Int.natCast_add,
      countP_eq_add _ (by decide) fun report hmem => (hall report hmem).fallback]
  · change counts.invalidCount
      = counts.countOf .invalid + counts.countOf .unsupportedDeclaredAlgorithm
    rw [h.invalid, h.countOf, h.countOf, ← Int.natCast_add,
      countP_eq_add _ (by decide) fun _ _ => Iff.rfl]

/-- Whatever is read of the targets, the report lists what each of them was found to be, in their
order, and its totals add up. -/
theorem readiness_counts_add_up (ext : Externals) (db : Db) (targetUris : List String)
    (tr : List (Event TransportOp TransportOp.Ans)) (rollout : SyncAuthReadinessRolloutReportV1)
    (h : Prog.Path (syncAuthReadinessTargets ext db targetUris) tr (.ok rollout)) :
  ∃ reads reports, tr = reads.map HeadRead.event
    ∧ List.Forall₂ (fun uri read => SyncTargetUri.parse uri = .ok read.1) targetUris reads
    ∧ List.Forall₂ (HeadRead.GivesReport ext db) reads reports
    ∧ AddsUp reports rollout
  := by
  obtain ⟨-, reads, reports, rfl, hparse, hgives, rfl⟩ := path_syncAuthReadinessTargets.mp h
  use reads, reports, rfl, hparse, hgives
  apply addsUp_rollout (counted_foldl counted_start)
  intro report hmem
  clear hparse h
  induction hgives with
  | nil => cases hmem
  | cons hfirst _ ih =>
    obtain rfl | hmem := List.mem_cons.mp hmem
    · exact hfirst.consistent
    · apply ih hmem

/-- One target without a head, and one with a head of the first schema. -/
def Sample.heads : List HeadRead :=
  [(.filePath "first", none), (.filePath "second", some (fileHead "snapshot" "blake3:00" 1))]

theorem readiness_counts_add_up_two :
  ∃ rollout, Prog.Path (syncAuthReadinessTargets Sample.ext Sample.db ["first", "second"])
      (Sample.heads.map HeadRead.event) (.ok rollout)
    ∧ rollout.strictReadyCount = 1 ∧ rollout.strictBlockedCount = 1
    ∧ ∃ reports, AddsUp reports rollout
  := by
  obtain ⟨absent, habsent, habsentReady⟩ : ∃ report, HeadRead.GivesReport Sample.ext Sample.db
      (.filePath "first", none) report ∧ report.strictReady = true :=
    ⟨_, rfl, rfl⟩
  obtain ⟨legacy, hlegacy, hlegacyReady⟩ : ∃ report, HeadRead.GivesReport Sample.ext Sample.db
      (.filePath "second", some (fileHead "snapshot" "blake3:00" 1)) report
      ∧ report.strictReady = false :=
    ⟨_, rfl, rfl⟩
  have hfirst : SyncTargetUri.parse "first" = .ok (.filePath "first") :=
    (SyncTargetUri.parse_eq_filePath_iff "first").mpr ⟨by decide, by decide⟩
  have hsecond : SyncTargetUri.parse "second" = .ok (.filePath "second") :=
    (SyncTargetUri.parse_eq_filePath_iff "second").mpr ⟨by decide, by decide⟩
  have hpath : Prog.Path (syncAuthReadinessTargets Sample.ext Sample.db ["first", "second"])
      (Sample.heads.map HeadRead.event)
      (.ok ([absent, legacy].foldl ReadinessCounts.add .start).rollout) := by
    apply path_syncAuthReadinessTargets.mpr
    refine ⟨by simp, Sample.heads, [absent, legacy], rfl, ?_, ?_, rfl⟩
    · exact .cons hfirst (.cons hsecond .nil)
    · exact .cons habsent (.cons hlegacy .nil)
  obtain ⟨_, reports, -, -, -, hadds⟩ := readiness_counts_add_up _ _ _ _ _ hpath
  refine ⟨_, hpath, ?_, ?_, reports, hadds⟩
  all_goals
    simp [ReadinessCounts.rollout, ReadinessCounts.add, ReadinessCounts.start, oneIf, habsentReady,
      hlegacyReady]

/-! ### The strict check -/

theorem HeadRead.GivesReport.passesStrictly_iff {read : HeadRead}
    {report : SyncAuthReadinessReportV1} (h : read.GivesReport ext db report) :
  read.PassesStrictly ext db ↔ report.strictReady = true
  := by
  obtain ⟨target, remoteHead⟩ := read
  cases remoteHead with
  | none =>
    cases h
    apply iff_of_true
    · rintro head ⟨⟩
    · rfl
  | some head =>
    have hreport : classifySyncAuthReadiness ext db target.display (some head) = .ok report := h
    constructor
    · intro hpasses
      have hready := hpasses head rfl
      simp only [ensureStrictSyncAuthReady, hreport, AppResult.ok_bind] at hready
      split at hready
      · next hstrict => exact hstrict
      · cases hready
    · rintro hready _ ⟨⟩
      simp only [ensureStrictSyncAuthReady, hreport, AppResult.ok_bind, if_pos hready]

theorem HeadRead.PassesStrictly.givesReport {read : HeadRead} (h : read.PassesStrictly ext db) :
  ∃ report, read.GivesReport ext db report
  := by
  obtain ⟨target, remoteHead⟩ := read
  cases remoteHead with
  | none => exact ⟨_, rfl⟩
  | some head =>
    have hready := h head rfl
    rw [ensureStrictSyncAuthReady, AppResult.bind_eq_ok] at hready
    obtain ⟨report, hreport, -⟩ := hready
    exact ⟨report, hreport⟩

theorem all_passStrictly_iff {reads : List HeadRead} {reports : List SyncAuthReadinessReportV1}
    (h : List.Forall₂ (HeadRead.GivesReport ext db) reads reports) :
  (∀ read ∈ reads, read.PassesStrictly ext db) ↔ ∀ report ∈ reports, report.strictReady = true
  := by
  induction h with
  | nil => simp
  | cons hfirst _ ih =>
    rw [List.forall_mem_cons, List.forall_mem_cons, ih, hfirst.passesStrictly_iff]

theorem exists_reports {reads : List HeadRead} (h : ∀ read ∈ reads, read.PassesStrictly ext db) :
  ∃ reports, List.Forall₂ (HeadRead.GivesReport ext db) reads reports
  := by
  induction reads with
  | nil => exact ⟨[], .nil⟩
  | cons read rest ih =>
    rw [List.forall_mem_cons] at h
    obtain ⟨report, hreport⟩ := h.1.givesReport
    obtain ⟨reports, hreports⟩ := ih h.2
    exact ⟨report :: reports, .cons hreport hreports⟩

theorem strictBlockedCount_eq_zero_iff {reports : List SyncAuthReadinessReportV1}
    {counts : ReadinessCounts} (h : Counted reports counts) :
  counts.rollout.strictBlockedCount = 0 ↔ ∀ report ∈ reports, report.strictReady = true
  := by
  change (counts.reports.length : Int) - counts.strictReadyCount = 0 ↔ _
  rw [h.listed, h.ready, Int.sub_eq_zero, Int.natCast_inj, eq_comm, List.countP_eq_length]
  simp only [decide_eq_true_eq]

/-- The check that all targets are ready passes exactly when there are targets and every one of
them was read and would let a strict pull past: it has no head, or one that passes the check that a
strict pull makes. -/
theorem strict_check_passes_iff (ext : Externals) (db : Db) (targetUris : List String)
    (tr : List (Event TransportOp TransportOp.Ans)) :
  (∃ rollout, Prog.Path (syncAuthStrictCheckTargets ext db targetUris) tr (.ok rollout))
    ↔ targetUris ≠ [] ∧ ∃ reads, tr = reads.map HeadRead.event
      ∧ List.Forall₂ (fun uri read => SyncTargetUri.parse uri = .ok read.1) targetUris reads
      ∧ ∀ read ∈ reads, read.PassesStrictly ext db
  := by
  have hcounted (reports : List SyncAuthReadinessReportV1) :
      Counted reports (reports.foldl ReadinessCounts.add .start) :=
    counted_foldl counted_start
  simp only [syncAuthStrictCheckTargets, Prog.path_bind]
  constructor
  · rintro ⟨rollout, ⟨e, h, -⟩ | ⟨t, u, report, rfl, hreport, hcheck⟩⟩
    · cases h
    · obtain ⟨hfilled, reads, reports, rfl, hparse, hgives, rfl⟩ :=
        path_syncAuthReadinessTargets.mp hreport
      split at hcheck
      · next hnone =>
        obtain ⟨rfl, -⟩ := Prog.path_ret.mp hcheck
        refine ⟨hfilled, reads, List.append_nil _, hparse, ?_⟩
        apply (all_passStrictly_iff hgives).mpr
        exact (strictBlockedCount_eq_zero_iff (hcounted reports)).mp hnone
      · cases (Prog.path_fail.mp hcheck).2
  · rintro ⟨hfilled, reads, rfl, hparse, hpass⟩
    obtain ⟨reports, hgives⟩ := exists_reports hpass
    have hnone := (strictBlockedCount_eq_zero_iff (hcounted reports)).mpr
      ((all_passStrictly_iff hgives).mp hpass)
    refine ⟨(reports.foldl ReadinessCounts.add .start).rollout, .inr ⟨_, [], _,
      (List.append_nil _).symm,
      path_syncAuthReadinessTargets.mpr ⟨hfilled, reads, reports, rfl, hparse, hgives, rfl⟩, ?_⟩⟩
    rw [if_pos hnone]
    apply Prog.path_ret.mpr
    exact ⟨rfl, rfl⟩

end Sync

end KnowledgeCore
