import KnowledgeCore.Lineage.Locks

/-!
# Adding and binding policies

A policy is stored under an id that comes from its name, without the whitespace around it, and is
found by the name as it was given. Adding a policy again under its name puts new contents in its
place.
-/

namespace KnowledgeCore

namespace OwnerDb

open LineagePolicy

/-! ### Statements -/

/-- The policy of a name, with its id. -/
def policyNamed (db : OwnerDb) (policyName : String) : Option (String × LineagePolicyRow) :=
  db.lineagePolicies.toList.find? fun stored => stored.2.policyName = policyName

/-- The database with other policies. -/
def withPolicies (db : OwnerDb) (policies : Table LineagePolicyRow) : OwnerDb :=
  { db with lineagePolicies := policies }

@[simp] theorem lineagePolicies_withPolicies (db : OwnerDb) (policies : Table LineagePolicyRow) :
  (db.withPolicies policies).lineagePolicies = policies
  := rfl

@[simp] theorem lineagePolicyBindings_withPolicies (db : OwnerDb)
    (policies : Table LineagePolicyRow) :
  (db.withPolicies policies).lineagePolicyBindings = db.lineagePolicyBindings
  := rfl

/-- Insert a policy, or update the one with its name, which keeps its id. The primary key is
checked only for a new name. -/
def upsertPolicy (policyId : String) (row : LineagePolicyRow) (db : OwnerDb) :
  Except String OwnerDb
  :=
  match db.policyNamed row.policyName with
  | some (storedId, _) => .ok (db.withPolicies (db.lineagePolicies.insert storedId row))
  | none =>
    if policyId ∈ db.lineagePolicies then
      .error "UNIQUE constraint failed: lineage_policies.policy_id"
    else
      .ok (db.withPolicies (db.lineagePolicies.insert policyId row))

/-- Whether two bindings are of the same subject and policy. -/
def sameBinding (a b : LineagePolicyBindingRow) : Bool :=
  a.subjectId = b.subjectId ∧ a.policyId = b.policyId

/-- Insert a binding, or update the one of its subject and policy. -/
def upsertBinding (row : LineagePolicyBindingRow) (db : OwnerDb) : OwnerDb :=
  if db.lineagePolicyBindings.any (sameBinding row) = true then
    { db with
      lineagePolicyBindings := db.lineagePolicyBindings.map fun stored =>
        if sameBinding row stored = true then row else stored }
  else
    { db with lineagePolicyBindings := db.lineagePolicyBindings ++ [row] }

@[simp] theorem lineagePolicies_upsertBinding (db : OwnerDb) (row : LineagePolicyBindingRow) :
  (db.upsertBinding row).lineagePolicies = db.lineagePolicies
  := by
  rw [upsertBinding]
  split_ifs <;> rfl

/-- The policy of the id is bound to the subject. -/
def IsBound (db : OwnerDb) (subjectId policyId : String) : Prop :=
  ∃ binding ∈ db.lineagePolicyBindings,
    binding.subjectId = subjectId ∧ binding.policyId = policyId

theorem sameBinding_iff {a b : LineagePolicyBindingRow} :
  sameBinding a b = true ↔ a.subjectId = b.subjectId ∧ a.policyId = b.policyId
  := by
  rw [sameBinding, decide_eq_true_iff]

@[simp] theorem isBound_withPolicies {db : OwnerDb} {policies : Table LineagePolicyRow}
    {subjectId policyId : String} :
  (db.withPolicies policies).IsBound subjectId policyId ↔ db.IsBound subjectId policyId
  := Iff.rfl

@[simp] theorem isBound_upsertBinding {db : OwnerDb} {row : LineagePolicyBindingRow}
    {subjectId policyId : String} :
  (db.upsertBinding row).IsBound subjectId policyId
    ↔ row.subjectId = subjectId ∧ row.policyId = policyId ∨ db.IsBound subjectId policyId
  := by
  rw [upsertBinding]
  by_cases hany : db.lineagePolicyBindings.any (sameBinding row) = true
  · rw [if_pos hany, IsBound, IsBound]
    obtain ⟨old, hold, hsame⟩ := List.any_eq_true.mp hany
    constructor
    · rintro ⟨_, hmem, hkey⟩
      obtain ⟨stored, hmem, rfl⟩ := List.mem_map.mp hmem
      by_cases hstored : sameBinding row stored = true
      · left
        rwa [if_pos hstored] at hkey
      · right
        rw [if_neg hstored] at hkey
        use stored
    · rintro (hkey | ⟨stored, hmem, hkey⟩)
      · refine ⟨_, List.mem_map_of_mem hold, ?_⟩
        rwa [if_pos hsame]
      · refine ⟨_, List.mem_map_of_mem hmem, ?_⟩
        by_cases hstored : sameBinding row stored = true
        · rw [if_pos hstored]
          obtain ⟨hsubject, hpolicy⟩ := sameBinding_iff.mp hstored
          rwa [hsubject, hpolicy]
        · rwa [if_neg hstored]
  · rw [if_neg hany, IsBound, IsBound]
    simp only [List.mem_append, List.mem_singleton]
    constructor
    · rintro ⟨stored, hmem | rfl, hkey⟩
      · right
        use stored
      · left
        apply hkey
    · rintro (hkey | ⟨stored, hmem, hkey⟩)
      · exact ⟨row, Or.inr rfl, hkey⟩
      · exact ⟨stored, Or.inl hmem, hkey⟩

end OwnerDb

namespace LineagePolicy

/-- The statements of SQL an add and a bind consist of. -/
inductive StoreStatement
  | writePolicy
  | readPolicy
  | findPolicy
  | writeBinding

/-- The statements that fail, with their errors. -/
abbrev StoreFaults := StoreStatement → Option String

def noStoreFaults : StoreFaults := fun _ => none

/-! ### Adding a policy -/

structure LineagePolicyV3 extends LineagePolicyRow where
  policyId : String

def normalizeEffect (effect : String) : AppResult String :=
  let normalized := Lineage.toAsciiLowercase (trim effect)
  if normalized = "allow" ∨ normalized = "deny" then
    .ok normalized
  else
    .error (policyError "KC_LINEAGE_POLICY_CONDITION_INVALID"
      "lineage policy effect must be allow or deny"
      [("effect", .str effect), ("supported", .arr [.str "allow", .str "deny"])])

def defaultPriority (effect : String) : Int64 :=
  if effect = "deny" then 100 else 200

/-- What is hashed for the id of a policy. -/
def policyText (name : String) : String :=
  "kc.lineage.policy.v3\n" ++ trim name

def policyIdForName (ext : Externals) (name : String) : String :=
  blake3HexPrefixed ext (.text (policyText name))

theorem policyText_inj {a b : String} :
  policyText a = policyText b ↔ trim a = trim b
  := String.append_right_inj _

theorem policyIdForName_congr (ext : Externals) {a b : String} (h : trim a = trim b) :
  policyIdForName ext a = policyIdForName ext b
  := by
  rw [policyIdForName, policyIdForName, policyText_inj.mpr h]

/-- The row an add is to store. -/
def policyRow (parse : JsonParser) (policyName effect conditionJson createdBy : String)
    (nowMs : Int64) : AppResult LineagePolicyRow
  :=
  if isBlank policyName = true ∨ isBlank createdBy = true then
    .error (policyError "KC_LINEAGE_POLICY_CONDITION_INVALID"
      "lineage policy requires non-empty policy_name and created_by"
      [("policy_name", .str policyName), ("created_by", .str createdBy)])
  else do
    let effect ← normalizeEffect effect
    let (_, conditionJson) ← parseCondition parse conditionJson
    .ok {
      policyName
      effect
      priority := defaultPriority effect
      conditionJson
      createdBy
      createdAtMs := nowMs }

/-- The error of a statement on the policy of a name. -/
def policyQueryFailed (message policyName : String) (error : String) : AppError :=
  policyError "KC_LINEAGE_QUERY_FAILED" message
    [("error", .str error), ("policy_name", .str policyName)]

def NO_ROWS : String := "Query returned no rows"

def lineagePolicyAdd (ext : Externals) (parse : JsonParser) (faults : StoreFaults)
    (policyName effect conditionJson createdBy : String) (nowMs : Int64) (db : OwnerDb) :
  AppResult LineagePolicyV3 × OwnerDb
  :=
  match policyRow parse policyName effect conditionJson createdBy nowMs with
  | .error e => (.error e, db)
  | .ok row =>
    let writeFailed := policyQueryFailed "failed writing lineage policy" policyName
    let readFailed := policyQueryFailed "failed reading lineage policy after write" policyName
    match attempt (faults .writePolicy) writeFailed
        (mapErr writeFailed (db.upsertPolicy (policyIdForName ext policyName) row)) with
    | .error e => (.error e, db)
    | .ok after =>
      (attempt (faults .readPolicy) readFailed (do
        let (policyId, stored) ← okOrElse (readFailed NO_ROWS) (after.policyNamed policyName)
        .ok { stored with policyId }), after)

/-! ### Binding a policy -/

structure LineagePolicyBindingV3 where
  subjectId : String
  policyId : String
  policyName : String
  effect : String
  priority : Int64
  conditionJson : String
  boundBy : String
  boundAtMs : Int64

/-- The error of a bind to a policy that is not found. -/
def policyNotFound (policyName error : String) : AppError :=
  policyError "KC_LINEAGE_POLICY_CONDITION_INVALID" "lineage policy must exist before binding"
    [("error", .str error), ("policy_name", .str policyName)]

/-- The policy that is found refers to a row that is there, so that the binding can be written. -/
def lineagePolicyBind (faults : StoreFaults) (subjectId policyName boundBy : String)
    (nowMs : Int64) (db : OwnerDb) : AppResult LineagePolicyBindingV3 × OwnerDb
  :=
  if isBlank subjectId = true ∨ isBlank policyName = true ∨ isBlank boundBy = true then
    (.error (policyError "KC_LINEAGE_POLICY_CONDITION_INVALID"
      "lineage policy binding requires non-empty subject_id, policy_name, and bound_by"
      [("subject_id", .str subjectId), ("policy_name", .str policyName),
        ("bound_by", .str boundBy)]), db)
  else
    match attempt (faults .findPolicy) (policyNotFound policyName)
        (okOrElse (policyNotFound policyName NO_ROWS) (db.policyNamed policyName)) with
    | .error e => (.error e, db)
    | .ok (policyId, policy) =>
      match faults .writeBinding with
      | some error =>
        (.error (policyError "KC_LINEAGE_QUERY_FAILED" "failed writing lineage policy binding"
          [("error", .str error), ("subject_id", .str subjectId),
            ("policy_name", .str policyName)]), db)
      | none =>
        (.ok {
          subjectId
          policyId
          policyName := policy.policyName
          effect := policy.effect
          priority := policy.priority
          conditionJson := policy.conditionJson
          boundBy
          boundAtMs := nowMs },
        db.upsertBinding {
          subjectId
          policyId
          boundBy
          boundAtMs := nowMs })

/-! ### Histories -/

/-- A call that adds or binds a policy. -/
inductive PolicyCall
  | add (policyName effect conditionJson createdBy : String) (nowMs : Int64)
  | bind (subjectId policyName boundBy : String) (nowMs : Int64)
deriving DecidableEq

/-- The database after a call. -/
def PolicyCall.after (ext : Externals) (parse : JsonParser) (faults : StoreFaults) :
    PolicyCall → OwnerDb → OwnerDb
  | .add policyName effect conditionJson createdBy nowMs, db =>
    (lineagePolicyAdd ext parse faults policyName effect conditionJson createdBy nowMs db).2
  | .bind subjectId policyName boundBy nowMs, db =>
    (lineagePolicyBind faults subjectId policyName boundBy nowMs db).2

/-- The database after a history of calls, each with the statements of it that fail. -/
def history (ext : Externals) (parse : JsonParser) (calls : List (PolicyCall × StoreFaults))
    (db : OwnerDb) : OwnerDb
  :=
  calls.foldl (fun db step => step.1.after ext parse step.2 db) db

/-- A database in which there are no policies yet. -/
structure NoPolicies (db : OwnerDb) : Prop where
  policies : db.lineagePolicies = ∅
  bindings : db.lineagePolicyBindings = []

/-! ### Policies under the ids of their names -/

variable {ext : Externals} {parse : JsonParser} {faults : StoreFaults} {db : OwnerDb}
  {policyName effect conditionJson createdBy subjectId boundBy : String} {nowMs boundAtMs : Int64}

/-- Every policy is stored under the id of its name. -/
def OwnPolicyIds (ext : Externals) (db : OwnerDb) : Prop :=
  ∀ (id : String) (row : LineagePolicyRow), db.lineagePolicies[id]? = some row →
    id = policyIdForName ext row.policyName

theorem NoPolicies.ownPolicyIds (h : NoPolicies db) :
  OwnPolicyIds ext db
  := by
  intro id row hstored
  rw [h.policies] at hstored
  simp at hstored

theorem OwnPolicyIds.insert (h : OwnPolicyIds ext db) {row : LineagePolicyRow}
    (hname : row.policyName = policyName) :
  OwnPolicyIds ext
    (db.withPolicies (db.lineagePolicies.insert (policyIdForName ext policyName) row))
  := by
  intro id stored hstored
  rw [OwnerDb.lineagePolicies_withPolicies, Std.ExtTreeMap.getElem?_insert] at hstored
  split_ifs at hstored with hid
  · rw [← Option.some.inj hstored, hname]
    apply (Std.LawfulEqCmp.compare_eq_iff_eq.mp hid).symm
  · apply h id stored hstored

theorem policyNamed_eq_some_iff (h : OwnPolicyIds ext db) {id : String} {row : LineagePolicyRow} :
  db.policyNamed policyName = some (id, row)
    ↔ db.lineagePolicies[id]? = some row ∧ row.policyName = policyName
  := by
  have hfound {stored : String × LineagePolicyRow}
      (hfind : db.policyNamed policyName = some stored) :
      db.lineagePolicies[stored.1]? = some stored.2 ∧ stored.2.policyName = policyName := by
    rw [OwnerDb.policyNamed] at hfind
    use Std.ExtTreeMap.mem_toList_iff_getElem?_eq_some.mp (List.mem_of_find?_eq_some hfind)
    have hname := List.find?_some hfind
    apply of_decide_eq_true hname
  constructor
  · apply hfound
  · rintro ⟨hstored, hname⟩
    cases hfind : db.policyNamed policyName with
    | none =>
      have hmem := Std.ExtTreeMap.mem_toList_iff_getElem?_eq_some.mpr hstored
      have hno := List.find?_eq_none.mp hfind _ hmem
      rw [decide_eq_true_iff] at hno
      contradiction
    | some stored =>
      obtain ⟨hstored', hname'⟩ := hfound hfind
      have hid : stored.1 = id := by
        rw [h _ _ hstored, h _ _ hstored', hname, hname']
      rw [hid, hstored] at hstored'
      rw [Option.some.inj hstored', ← hid]

/-- A row is put under the id of its name exactly when no policy of another name has that id. -/
theorem upsertPolicy_eq_ok_iff (h : OwnPolicyIds ext db) {row : LineagePolicyRow}
    {after : OwnerDb} :
  db.upsertPolicy (policyIdForName ext row.policyName) row = .ok after
    ↔ (∀ stored, db.lineagePolicies[policyIdForName ext row.policyName]? = some stored →
        stored.policyName = row.policyName)
      ∧ after = db.withPolicies
        (db.lineagePolicies.insert (policyIdForName ext row.policyName) row)
  := by
  rw [OwnerDb.upsertPolicy]
  cases hfind : db.policyNamed row.policyName with
  | some found =>
    obtain ⟨id, stored⟩ := found
    obtain ⟨hstored, hname⟩ := (policyNamed_eq_some_iff h).mp hfind
    obtain rfl : id = policyIdForName ext row.policyName := by rw [h _ _ hstored, hname]
    have hsame : ∀ stored', db.lineagePolicies[policyIdForName ext row.policyName]? = some stored' →
        stored'.policyName = row.policyName := by
      intro stored' hstored'
      rw [hstored] at hstored'
      rw [← Option.some.inj hstored', hname]
    rw [and_iff_right hsame, Except.ok.injEq, eq_comm]
  | none =>
    have hother : ∀ stored, db.lineagePolicies[policyIdForName ext row.policyName]? = some stored →
        stored.policyName ≠ row.policyName := by
      intro stored hstored hname
      rw [(policyNamed_eq_some_iff h).mpr ⟨hstored, hname⟩] at hfind
      cases hfind
    by_cases hmem : policyIdForName ext row.policyName ∈ db.lineagePolicies
    · rw [if_pos hmem]
      constructor
      · rintro ⟨⟩
      · rintro ⟨hsame, -⟩
        obtain ⟨stored, hstored⟩ := Option.isSome_iff_exists.mp
          (Std.ExtTreeMap.isSome_getElem?_iff_mem.mpr hmem)
        have := hother stored hstored (hsame stored hstored)
        contradiction
    · rw [if_neg hmem, Except.ok.injEq, eq_comm, iff_and_self]
      intro _ stored hstored
      rw [Std.ExtTreeMap.getElem?_eq_none hmem] at hstored
      cases hstored

theorem policyRow_eq_ok_iff {row : LineagePolicyRow} :
  policyRow parse policyName effect conditionJson createdBy nowMs = .ok row
    ↔ isBlank policyName = false ∧ isBlank createdBy = false
      ∧ ∃ normalized condition canonical, normalizeEffect effect = .ok normalized
        ∧ parseCondition parse conditionJson = .ok (condition, canonical)
        ∧ row = {
            policyName
            effect := normalized
            priority := defaultPriority normalized
            conditionJson := canonical
            createdBy
            createdAtMs := nowMs }
  := by
  rw [policyRow]
  by_cases hblank : isBlank policyName = true ∨ isBlank createdBy = true
  · rw [if_pos hblank]
    constructor
    · rintro ⟨⟩
    · rintro ⟨hname, hcreatedBy, -⟩
      rw [hname, hcreatedBy] at hblank
      simp at hblank
  · rw [if_neg hblank]
    rw [not_or, Bool.not_eq_true, Bool.not_eq_true] at hblank
    rw [and_iff_right hblank.1, and_iff_right hblank.2]
    constructor
    · intro h
      obtain ⟨normalized, hnormalized, h⟩ := AppResult.bind_eq_ok.mp h
      obtain ⟨⟨condition, canonical⟩, hcondition, h⟩ := AppResult.bind_eq_ok.mp h
      cases h
      exact ⟨normalized, condition, canonical, hnormalized, hcondition, rfl⟩
    · rintro ⟨normalized, condition, canonical, hnormalized, hcondition, rfl⟩
      rw [hnormalized, hcondition]
      rfl

theorem policyName_of_policyRow {row : LineagePolicyRow}
    (h : policyRow parse policyName effect conditionJson createdBy nowMs = .ok row) :
  row.policyName = policyName
  := by
  obtain ⟨-, -, normalized, condition, canonical, -, -, rfl⟩ := policyRow_eq_ok_iff.mp h
  rfl

/-- An add stores the row it is for, or leaves the database as it was. -/
theorem lineagePolicyAdd_cases (h : OwnPolicyIds ext db) :
  (lineagePolicyAdd ext parse faults policyName effect conditionJson createdBy nowMs db).2 = db
    ∨ ∃ row, policyRow parse policyName effect conditionJson createdBy nowMs = .ok row
      ∧ (∀ stored, db.lineagePolicies[policyIdForName ext policyName]? = some stored →
        stored.policyName = policyName)
      ∧ (lineagePolicyAdd ext parse faults policyName effect conditionJson createdBy nowMs db).2
        = db.withPolicies (db.lineagePolicies.insert (policyIdForName ext policyName) row)
  := by
  rw [lineagePolicyAdd]
  cases hrow : policyRow parse policyName effect conditionJson createdBy nowMs with
  | error e =>
    left
    rfl
  | ok row =>
    simp only
    cases hwrite : attempt (faults .writePolicy)
        (policyQueryFailed "failed writing lineage policy" policyName)
        (mapErr (policyQueryFailed "failed writing lineage policy" policyName)
          (db.upsertPolicy (policyIdForName ext policyName) row)) with
    | error e =>
      left
      rfl
    | ok after =>
      right
      obtain ⟨-, hwrite⟩ := attempt_eq_ok.mp hwrite
      have hupsert := mapErr_eq_ok.mp hwrite
      rw [← policyName_of_policyRow hrow] at hupsert ⊢
      obtain ⟨hsame, rfl⟩ := (upsertPolicy_eq_ok_iff h).mp hupsert
      use row, rfl, hsame

/-- When no statement fails, an add stores its row unless a policy of another name has the id. -/
theorem lineagePolicyAdd_noStoreFaults (h : OwnPolicyIds ext db) {row : LineagePolicyRow}
    (hrow : policyRow parse policyName effect conditionJson createdBy nowMs = .ok row)
    (hsame : ∀ stored, db.lineagePolicies[policyIdForName ext policyName]? = some stored →
      stored.policyName = policyName) :
  lineagePolicyAdd ext parse noStoreFaults policyName effect conditionJson createdBy nowMs db
    = (.ok { row with policyId := policyIdForName ext policyName },
      db.withPolicies (db.lineagePolicies.insert (policyIdForName ext policyName) row))
  := by
  have hname := policyName_of_policyRow hrow
  rw [← hname] at hsame
  have hupsert := (upsertPolicy_eq_ok_iff h).mpr ⟨hsame, rfl⟩
  have hread := (policyNamed_eq_some_iff (h.insert hname)).mpr
    ⟨Std.ExtTreeMap.getElem?_insert_self, hname⟩
  rw [lineagePolicyAdd, hrow]
  rw [hname] at hupsert
  simp only [noStoreFaults, attempt_none, hupsert, mapErr_ok, hread, okOrElse_some,
    AppResult.ok_bind]

/-- An add that succeeds finds no policy of another name under its id. -/
theorem policyName_eq_of_lineagePolicyAdd (h : OwnPolicyIds ext db)
    (hok : (lineagePolicyAdd ext parse faults policyName effect conditionJson createdBy nowMs
      db).1.isOk = true) :
  ∀ stored, db.lineagePolicies[policyIdForName ext policyName]? = some stored →
    stored.policyName = policyName
  := by
  rw [lineagePolicyAdd] at hok
  cases hrow : policyRow parse policyName effect conditionJson createdBy nowMs with
  | error e =>
    rw [hrow] at hok
    cases hok
  | ok row =>
    rw [hrow] at hok
    simp only at hok
    cases hwrite : attempt (faults .writePolicy)
        (policyQueryFailed "failed writing lineage policy" policyName)
        (mapErr (policyQueryFailed "failed writing lineage policy" policyName)
          (db.upsertPolicy (policyIdForName ext policyName) row)) with
    | error e =>
      rw [hwrite] at hok
      cases hok
    | ok after =>
      obtain ⟨-, hwrite⟩ := attempt_eq_ok.mp hwrite
      have hupsert := mapErr_eq_ok.mp hwrite
      rw [← policyName_of_policyRow hrow] at hupsert ⊢
      apply ((upsertPolicy_eq_ok_iff h).mp hupsert).1

/-- A bind writes a binding to a policy that is there, or leaves the database as it was. -/
theorem lineagePolicyBind_cases (h : OwnPolicyIds ext db) :
  (lineagePolicyBind faults subjectId policyName boundBy nowMs db).2 = db
    ∨ isBlank subjectId = false ∧ isBlank policyName = false ∧ isBlank boundBy = false
      ∧ (∃ row, db.lineagePolicies[policyIdForName ext policyName]? = some row
        ∧ row.policyName = policyName)
      ∧ (lineagePolicyBind faults subjectId policyName boundBy nowMs db).2 = db.upsertBinding {
          subjectId
          policyId := policyIdForName ext policyName
          boundBy
          boundAtMs := nowMs }
  := by
  rw [lineagePolicyBind]
  by_cases hblank : isBlank subjectId = true ∨ isBlank policyName = true ∨ isBlank boundBy = true
  · left
    rw [if_pos hblank]
  · rw [if_neg hblank]
    simp only [not_or, Bool.not_eq_true] at hblank
    cases hfind : attempt (faults .findPolicy) (policyNotFound policyName)
        (okOrElse (policyNotFound policyName NO_ROWS) (db.policyNamed policyName)) with
    | error e =>
      left
      rfl
    | ok found =>
      obtain ⟨policyId, policy⟩ := found
      obtain ⟨-, hfind⟩ := attempt_eq_ok.mp hfind
      obtain ⟨hstored, hname⟩ := (policyNamed_eq_some_iff h).mp (okOrElse_eq_ok.mp hfind)
      obtain rfl : policyId = policyIdForName ext policyName := by rw [h _ _ hstored, hname]
      cases hwrite : faults .writeBinding with
      | some error =>
        left
        rfl
      | none =>
        right
        use hblank.1, hblank.2.1, hblank.2.2
        constructor
        · use policy
        · trivial

/-- When no statement fails, a bind to a policy that is there goes through. -/
theorem lineagePolicyBind_noStoreFaults (h : OwnPolicyIds ext db) {row : LineagePolicyRow}
    (hsubjectId : isBlank subjectId = false) (hname : isBlank policyName = false)
    (hboundBy : isBlank boundBy = false)
    (hstored : db.lineagePolicies[policyIdForName ext policyName]? = some row)
    (hrow : row.policyName = policyName) :
  lineagePolicyBind noStoreFaults subjectId policyName boundBy nowMs db
    = (.ok {
        subjectId
        policyId := policyIdForName ext policyName
        policyName
        effect := row.effect
        priority := row.priority
        conditionJson := row.conditionJson
        boundBy
        boundAtMs := nowMs },
      db.upsertBinding {
        subjectId
        policyId := policyIdForName ext policyName
        boundBy
        boundAtMs := nowMs })
  := by
  have hfind := (policyNamed_eq_some_iff h).mpr ⟨hstored, hrow⟩
  have hblank : ¬ (isBlank subjectId = true ∨ isBlank policyName = true ∨ isBlank boundBy = true)
      := by
    simp [hsubjectId, hname, hboundBy]
  rw [lineagePolicyBind, if_neg hblank]
  simp only [noStoreFaults, attempt_none, hfind, okOrElse_some, hrow]

theorem OwnPolicyIds.step (h : OwnPolicyIds ext db) (call : PolicyCall) :
  OwnPolicyIds ext (call.after ext parse faults db)
  := by
  cases call with
  | add policyName effect conditionJson createdBy nowMs =>
    rw [PolicyCall.after]
    obtain hsame | ⟨row, hrow, -, hafter⟩ := lineagePolicyAdd_cases h
    · rw [hsame]
      apply h
    · rw [hafter]
      apply h.insert (policyName_of_policyRow hrow)
  | bind subjectId policyName boundBy nowMs =>
    rw [PolicyCall.after]
    obtain hsame | ⟨-, -, -, -, hafter⟩ := lineagePolicyBind_cases h
    · rw [hsame]
      apply h
    · rw [hafter]
      intro id row hstored
      rw [OwnerDb.lineagePolicies_upsertBinding] at hstored
      apply h id row hstored

theorem OwnPolicyIds.history (h : OwnPolicyIds ext db) (calls : List (PolicyCall × StoreFaults)) :
  OwnPolicyIds ext (history ext parse calls db)
  := by
  induction calls generalizing db with
  | nil => exact h
  | cons step calls ih => apply ih (h.step _)

/-! ### Adding a policy and binding it -/

/-- The policy is added, and then bound to the subject as it was just stored. -/
def AddedAndBound (ext : Externals) (parse : JsonParser)
    (policyName effect conditionJson createdBy : String) (nowMs : Int64)
    (subjectId boundBy : String) (boundAtMs : Int64) (db : OwnerDb) : Prop
  :=
  ∃ policy binding added bound,
    lineagePolicyAdd ext parse noStoreFaults policyName effect conditionJson createdBy nowMs db
      = (.ok policy, added)
    ∧ policyRow parse policyName effect conditionJson createdBy nowMs
      = .ok policy.toLineagePolicyRow
    ∧ lineagePolicyBind noStoreFaults subjectId policyName boundBy boundAtMs added
      = (.ok binding, bound)
    ∧ binding.policyId = policy.policyId ∧ binding.policyName = policy.policyName
    ∧ binding.effect = policy.effect ∧ binding.conditionJson = policy.conditionJson
    ∧ bound.lineagePolicies[policy.policyId]? = some policy.toLineagePolicyRow
    ∧ bound.IsBound subjectId policy.policyId

/-- After any history, a valid policy is added and bound exactly when no policy is stored whose
name differs from its name only in the whitespace around it. -/
theorem addedAndBound_iff {calls : List (PolicyCall × StoreFaults)} (hempty : NoPolicies db)
    (hname : isBlank policyName = false) (hcreatedBy : isBlank createdBy = false)
    (heffect : (normalizeEffect effect).isOk = true)
    (hcondition : (parseCondition parse conditionJson).isOk = true)
    (hsubjectId : isBlank subjectId = false) (hboundBy : isBlank boundBy = false)
    (hcollision : ∀ text, ext.blake3 (.text text) = ext.blake3 (.text (policyText policyName)) →
      text = policyText policyName) :
  AddedAndBound ext parse policyName effect conditionJson createdBy nowMs subjectId boundBy
      boundAtMs (history ext parse calls db)
    ↔ ∀ (id : String) (row : LineagePolicyRow),
      (history ext parse calls db).lineagePolicies[id]? = some row →
      trim row.policyName = trim policyName → row.policyName = policyName
  := by
  have hown : OwnPolicyIds ext (history ext parse calls db) := hempty.ownPolicyIds.history calls
  generalize history ext parse calls db = db at hown ⊢
  constructor
  · rintro ⟨policy, binding, added, bound, hadd, -⟩ id row hstored htrim
    have hid : id = policyIdForName ext policyName := by
      rw [hown id row hstored]
      apply policyIdForName_congr ext htrim
    rw [hid] at hstored
    have hok := congrArg (fun result => result.1.isOk) hadd
    apply policyName_eq_of_lineagePolicyAdd hown hok row hstored
  · intro hother
    obtain ⟨normalized, hnormalized⟩ := exists_of_isOk heffect
    obtain ⟨⟨condition, canonical⟩, hparsed⟩ := exists_of_isOk hcondition
    obtain ⟨row, hrow⟩ :
        ∃ row, policyRow parse policyName effect conditionJson createdBy nowMs = .ok row :=
      ⟨_, policyRow_eq_ok_iff.mpr
        ⟨hname, hcreatedBy, normalized, condition, canonical, hnormalized, hparsed, rfl⟩⟩
    have hrowName := policyName_of_policyRow hrow
    have hsame : ∀ stored, db.lineagePolicies[policyIdForName ext policyName]? = some stored →
        stored.policyName = policyName := by
      intro stored hstored
      apply hother _ stored hstored
      have hid := hown _ stored hstored
      apply policyText_inj.mp
      apply hcollision
      apply (blake3HexPrefixed_inj.mp hid).symm
    have hadd := lineagePolicyAdd_noStoreFaults hown hrow hsame
    refine ⟨_, _, _, _, hadd, hrow, lineagePolicyBind_noStoreFaults (hown.insert hrowName)
      hsubjectId hname hboundBy Std.ExtTreeMap.getElem?_insert_self hrowName, rfl, hrowName.symm,
      rfl, rfl, ?_⟩
    constructor
    · rw [OwnerDb.lineagePolicies_upsertBinding]
      apply Std.ExtTreeMap.getElem?_insert_self
    · apply OwnerDb.isBound_upsertBinding.mpr
      left
      use rfl

/-- A database without policies. -/
def Sample.noPoliciesDb : OwnerDb where
  __ := Sample.db
  events := .empty
  trustProviderPolicies := ∅
  lineagePolicies := ∅
  lineagePolicyBindings := []
  lineagePolicyAudit := []

theorem Sample.noPolicies :
  NoPolicies Sample.noPoliciesDb
  := by
  constructor
  · rfl
  · rfl

/-- The call that adds a policy which denies everything. -/
def Sample.denyAll (policyName : String) : PolicyCall :=
  .add policyName "deny" "\x7b\x7d" "owner" 0

/-- A policy is added again, and bound. -/
theorem addedAndBound_readers :
  AddedAndBound (Lineage.Sample.markingExt (policyText "readers")) JsonText.parse
    "readers" " Allow" "\x7b\x7d" "owner" 1 "reader" "owner" 2
    (history (Lineage.Sample.markingExt (policyText "readers")) JsonText.parse
      [(Sample.denyAll "readers", noStoreFaults)] Sample.noPoliciesDb)
  := by
  apply (addedAndBound_iff Sample.noPolicies _ _ _ _ _ _ _).mpr
  · intro id row hstored _
    have hnames : (history (Lineage.Sample.markingExt (policyText "readers")) JsonText.parse
        [(Sample.denyAll "readers", noStoreFaults)] Sample.noPoliciesDb).lineagePolicies.toList.all
        (fun stored => stored.2.policyName = "readers") = true := by decide +kernel
    apply of_decide_eq_true
    apply List.all_eq_true.mp hnames _
      (Std.ExtTreeMap.mem_toList_iff_getElem?_eq_some.mpr hstored)
  · decide +kernel
  · decide +kernel
  · decide +kernel
  · decide +kernel
  · decide +kernel
  · decide +kernel
  · intro text
    apply Lineage.Sample.eq_marked

/-- A policy cannot be added under a name that is stored with other whitespace around it. -/
theorem add_refused_for_whitespace :
  let db := history Sample.ext JsonText.parse [(Sample.denyAll "readers", noStoreFaults)]
    Sample.noPoliciesDb
  NoPolicies Sample.noPoliciesDb ∧ isBlank " readers" = false ∧ isBlank "owner" = false
    ∧ (normalizeEffect "allow").isOk = true
    ∧ (parseCondition JsonText.parse "\x7b\x7d").isOk = true
    ∧ (lineagePolicyAdd Sample.ext JsonText.parse noStoreFaults " readers" "allow" "\x7b\x7d"
      "owner" 1 db).1.isOk = false
  := by
  intro db
  use Sample.noPolicies
  decide +kernel

end LineagePolicy

end KnowledgeCore
