import KnowledgeCore.Lifecycle.Session

/-!
# Lineage policies

Policies are bound to subjects, and each allows or denies the actions that its condition matches.
A denial overrides every allowance, and every decision is put on record.
-/

namespace KnowledgeCore

namespace LineagePolicy

structure LineagePolicyConditionV4 where
  action : Option String
  docIdPrefix : Option String
  docIdSuffix : Option String
  subjectIdPrefix : Option String

structure EvaluatedPolicy where
  policyId : String
  policyName : String
  effect : String
  conditionJson : String

structure LineagePolicyDecisionV3 where
  subjectId : String
  action : String
  docId : Option String
  allowed : Bool
  reason : String
  matchedPolicyId : Option String
  matchedPolicyName : Option String
  matchedEffect : Option String

def policyError (code message : String) (details : List (String × Json)) : AppError where
  code := code
  category := "lineage"
  message := message
  details := .obj details

/-! ### Conditions -/

/-- The members of a condition. No others are known. -/
def conditionKeys : List String :=
  ["action", "doc_id_prefix", "doc_id_suffix", "subject_id_prefix"]

def readCondition (j : Json) : Except String LineagePolicyConditionV4 := do
  Json.expectObject j
  if (j.asObject.getD []).all (fun m => m.1 ∈ conditionKeys) = false then
    .error "unknown field"
  else
    let action ← j.fieldOr "action" (Json.readOption Json.readString) none
    let docIdPrefix ← j.fieldOr "doc_id_prefix" (Json.readOption Json.readString) none
    let docIdSuffix ← j.fieldOr "doc_id_suffix" (Json.readOption Json.readString) none
    let subjectIdPrefix ← j.fieldOr "subject_id_prefix" (Json.readOption Json.readString) none
    .ok { action, docIdPrefix, docIdSuffix, subjectIdPrefix }

/-- Refuse a member that is there and blank. -/
def checkNotBlank (field : String) (value : Option String) : AppResult Unit :=
  if value.any isBlank = true then
    .error (policyError "KC_LINEAGE_POLICY_CONDITION_INVALID"
      ("lineage policy " ++ field ++ " condition must not be empty") [("field", .str field)])
  else
    .ok ()

/-- The condition a text stands for, and its canonical text. -/
def parseCondition (parse : JsonParser) (conditionJson : String) :
  AppResult (LineagePolicyConditionV4 × String)
  := do
  let parsed ← mapErr (fun error => policyError "KC_LINEAGE_POLICY_CONDITION_INVALID"
    "failed parsing lineage policy condition JSON" [("error", .str error)])
    (parse conditionJson)
  match parsed with
  | .obj members =>
    let canonical ← CanonJson.toCanonicalBytes (.obj members)
    let condition ← mapErr (fun error => policyError "KC_LINEAGE_POLICY_CONDITION_INVALID"
      "failed decoding lineage policy condition fields" [("error", .str error)])
      (parse canonical >>= readCondition)
    checkNotBlank "action" condition.action
    checkNotBlank "doc_id_prefix" condition.docIdPrefix
    checkNotBlank "doc_id_suffix" condition.docIdSuffix
    checkNotBlank "subject_id_prefix" condition.subjectIdPrefix
    .ok (condition, canonical)
  | _ =>
    .error (policyError "KC_LINEAGE_POLICY_CONDITION_INVALID"
      "lineage policy condition JSON must be an object" [])

def evaluateCondition (condition : LineagePolicyConditionV4) (subjectId action : String)
    (docId : Option String) : Bool
  :=
  condition.action.all (fun expected => expected = action)
    && condition.docIdPrefix.all
      (fun start => docId.any fun doc => start.toList.isPrefixOf doc.toList)
    && condition.docIdSuffix.all
      (fun ending => docId.any fun doc => ending.toList.isSuffixOf doc.toList)
    && condition.subjectIdPrefix.all (fun start => start.toList.isPrefixOf subjectId.toList)

/-! ### Decisions -/

/-- The policies that are bound to a subject, by their priorities and ids. -/
def boundPolicies (db : OwnerDb) (subjectId : String) : List EvaluatedPolicy :=
  let bound := db.lineagePolicyBindings.filterMap fun binding =>
    if binding.subjectId = subjectId then
      db.lineagePolicies[binding.policyId]?.map fun policy => (binding.policyId, policy)
    else
      none
  let sorted := bound.insertionSort fun a b =>
    a.2.priority < b.2.priority ∨ a.2.priority = b.2.priority ∧ a.1 ≤ b.1
  sorted.map fun (policyId, policy) => {
    policyId
    policyName := policy.policyName
    effect := policy.effect
    conditionJson := policy.conditionJson }

/-- The first policy that allows an action, and the first that denies it. -/
def firstMatches (parse : JsonParser) (subjectId action : String) (docId : Option String) :
    List EvaluatedPolicy → AppResult (Option EvaluatedPolicy × Option EvaluatedPolicy)
  | [] => .ok (none, none)
  | policy :: rest => do
    let (condition, _) ← parseCondition parse policy.conditionJson
    let (allow, deny) ← firstMatches parse subjectId action docId rest
    if evaluateCondition condition subjectId action docId = false then
      .ok (allow, deny)
    else if policy.effect = "deny" then
      .ok (allow, some policy)
    else if policy.effect = "allow" then
      .ok (some policy, deny)
    else
      .ok (allow, deny)

def lineagePolicyDecision (parse : JsonParser) (faults : Faults) (db : OwnerDb)
    (subjectId action : String) (docId : Option String) : AppResult LineagePolicyDecisionV3
  :=
  if isBlank subjectId = true ∨ isBlank action = true then
    .error (policyError "KC_LINEAGE_POLICY_CONDITION_INVALID"
      "lineage policy decision requires non-empty subject_id and action"
      [("subject_id", .str subjectId), ("action", .str action)])
  else do
    let policies ← attempt (faults .policies) (fun error =>
        policyError "KC_LINEAGE_QUERY_FAILED" "failed querying lineage policies for decision"
          [("error", .str error), ("subject_id", .str subjectId)])
      (.ok (boundPolicies db subjectId))
    let (allow, deny) ← firstMatches parse subjectId action docId policies
    match deny, allow with
    | some deny, _ => .ok {
        subjectId
        action
        docId
        allowed := false
        reason := "policy_deny"
        matchedPolicyId := some deny.policyId
        matchedPolicyName := some deny.policyName
        matchedEffect := some "deny" }
    | none, some allow => .ok {
        subjectId
        action
        docId
        allowed := true
        reason := "policy_allow"
        matchedPolicyId := some allow.policyId
        matchedPolicyName := some allow.policyName
        matchedEffect := some "allow" }
    | none, none => .ok {
        subjectId
        action
        docId
        allowed := false
        reason := "no_matching_allow_policy"
        matchedPolicyId := none
        matchedPolicyName := none
        matchedEffect := none }

def decisionDetails (decision : LineagePolicyDecisionV3) : List (String × Json) :=
  [("subject_id", .str decision.subjectId), ("action", .str decision.action),
    ("doc_id", .ofOption decision.docId), ("reason", .str decision.reason),
    ("matched_policy_id", .ofOption decision.matchedPolicyId),
    ("matched_policy_name", .ofOption decision.matchedPolicyName),
    ("matched_effect", .ofOption decision.matchedEffect)]

/-- Put a decision on record. -/
def writePolicyAudit (faults : Faults) (decision : LineagePolicyDecisionV3) (nowMs : Int64)
    (db : OwnerDb) : AppResult OwnerDb
  := do
  let detailsJson ← CanonJson.toCanonicalBytes (.obj (decisionDetails decision))
  attempt (faults .insertAudit) (fun error =>
      policyError "KC_LINEAGE_QUERY_FAILED" "failed writing lineage policy audit row"
        [("error", .str error)])
    (.ok { db with lineagePolicyAudit := db.lineagePolicyAudit ++ [{
      tsMs := nowMs
      subjectId := decision.subjectId
      action := decision.action
      docId := decision.docId
      allowed := decision.allowed
      reason := decision.reason
      matchedPolicyId := decision.matchedPolicyId
      detailsJson }] })

/-- The error of an action that is not allowed. -/
def policyDenied (decision : LineagePolicyDecisionV3) : AppError :=
  policyError
    (if decision.matchedEffect = some "deny" then
      "KC_LINEAGE_POLICY_DENY_ENFORCED"
    else
      "KC_LINEAGE_PERMISSION_DENIED")
    "lineage policy denied action" (decisionDetails decision)

def ensureLineagePolicyAllows (parse : JsonParser) (faults : Faults)
    (subjectId action : String) (docId : Option String) (nowMs : Int64) (db : OwnerDb) :
  AppResult Unit × OwnerDb
  :=
  match lineagePolicyDecision parse faults db subjectId action docId with
  | .error e => (.error e, db)
  | .ok decision =>
    match writePolicyAudit faults decision nowMs db with
    | .error e => (.error e, db)
    | .ok after => (if decision.allowed then .ok () else .error (policyDenied decision), after)

end LineagePolicy

end KnowledgeCore
