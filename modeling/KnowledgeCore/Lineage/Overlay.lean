import KnowledgeCore.Lineage.Locks

/-!
# Overlays

An overlay is an edge that is added to the lineage of a document by hand. To add or to remove one
takes the lock on the document, a role with the permission, and the consent of the policies.
-/

namespace KnowledgeCore

namespace Lineage

open Prog (perform ofExcept)

/-! ### Permissions -/

structure LineagePermissionDecisionV2 where
  subjectId : String
  action : String
  allowed : Bool
  matchedRole : Option String
  matchedRank : Option Int64

def lineagePermissionDecision (subjectId action : String) :
  LineageProg LineagePermissionDecisionV2
  := do
  ofExcept (requireNonEmpty "subject_id" subjectId "KC_LINEAGE_PERMISSION_DENIED")
  ofExcept (requireNonEmpty "action" action "KC_LINEAGE_PERMISSION_DENIED")
  let row ← perform (.permission subjectId action)
  let row ← ofExcept (mapErr (queryFailed "failed evaluating lineage permission"
    [("subject_id", .str subjectId), ("action", .str action)]) row)
  pure {
    subjectId
    action
    allowed := row.any fun (_, _, allowed) => allowed
    matchedRole := row.map fun (roleName, _, _) => roleName
    matchedRank := row.map fun (_, rank, _) => rank }

/-- The error of an action for which no role gives a permission. -/
def permissionDenied (decision : LineagePermissionDecisionV2) (docId : Option String) :
    AppError :=
  lineageError "KC_LINEAGE_PERMISSION_DENIED" "lineage action is not allowed for subject"
    [("subject_id", .str decision.subjectId), ("action", .str decision.action),
      ("doc_id", .ofOption docId), ("matched_role", .ofOption decision.matchedRole),
      ("matched_rank", (decision.matchedRank.map fun rank => Json.int rank.toInt).getD .null)]

def ensureLineagePermission (subjectId action : String) (docId : Option String) :
  LineageProg Unit
  := do
  let decision ← lineagePermissionDecision subjectId action
  if decision.allowed = true then
    pure ()
  else
    .fail (permissionDenied decision docId)

def ensureLineagePolicyAllows (subjectId action : String) (docId : Option String)
    (nowMs : Int64) : LineageProg Unit
  := do
  let result ← perform (.policyAllows subjectId action docId nowMs)
  ofExcept result

/-! ### Adding an overlay -/

structure LineageOverlayEntryV1 where
  overlayId : String
  docId : String
  fromNodeId : String
  toNodeId : String
  relation : String
  evidence : String
  createdAtMs : Int64
  createdBy : String

structure LineageOverlayAddReq where
  docId : String
  fromNodeId : String
  toNodeId : String
  relation : String
  evidence : String
  lockToken : String
  createdAtMs : Int64
  createdBy : String

def OVERLAY_WRITE_ACTION : String := "lineage.overlay.write"

def overlayIdFor (ext : Externals) (docId fromNodeId toNodeId relation evidence : String) :
    String :=
  blake3HexPrefixed ext (.text ("kc.lineage.overlay.v1\n" ++ docId ++ "\n" ++ fromNodeId ++ "\n"
    ++ toNodeId ++ "\n" ++ relation ++ "\n" ++ evidence))

def validateOverlayFields (docId fromNodeId toNodeId relation evidence createdBy : String) :
    AppResult Unit :=
  let fields := [("doc_id", docId), ("from_node_id", fromNodeId), ("to_node_id", toNodeId),
    ("relation", relation), ("evidence", evidence), ("created_by", createdBy)]
  match fields.find? fun field => isBlank field.2 with
  | some field =>
    .error (lineageError "KC_LINEAGE_OVERLAY_INVALID" "overlay field must not be empty"
      [("field", .str field.1)])
  | none => .ok ()

def insertFailed (overlayId : String) (req : LineageOverlayAddReq) : InsertError → AppError
  | .unique =>
    lineageError "KC_LINEAGE_OVERLAY_CONFLICT" "overlay already exists"
      [("overlay_id", .str overlayId), ("doc_id", .str req.docId),
        ("from_node_id", .str req.fromNodeId), ("to_node_id", .str req.toNodeId),
        ("relation", .str req.relation), ("evidence", .str req.evidence)]
  | .other error => queryFailed "failed inserting lineage overlay" [] error

/-- The row of an overlay. -/
def LineageOverlayAddReq.row (req : LineageOverlayAddReq) : LineageOverlayRow where
  docId := req.docId
  fromNodeId := req.fromNodeId
  toNodeId := req.toNodeId
  relation := req.relation
  evidence := req.evidence
  createdAtMs := req.createdAtMs
  createdBy := req.createdBy

def lineageOverlayAdd (ext : Externals) (req : LineageOverlayAddReq) :
  LineageProg LineageOverlayEntryV1
  := do
  ofExcept (validateOverlayFields req.docId req.fromNodeId req.toNodeId req.relation req.evidence
    req.createdBy)
  let _ ← requireValidLock req.docId req.lockToken req.createdAtMs
  ensureLineagePermission req.createdBy OVERLAY_WRITE_ACTION (some req.docId)
  ensureLineagePolicyAllows req.createdBy OVERLAY_WRITE_ACTION (some req.docId) req.createdAtMs
  let overlayId := overlayIdFor ext req.docId req.fromNodeId req.toNodeId req.relation req.evidence
  let inserted ← perform (.insertOverlay overlayId req.row)
  ofExcept (mapErr (insertFailed overlayId req) inserted)
  pure {
    overlayId
    docId := req.docId
    fromNodeId := req.fromNodeId
    toNodeId := req.toNodeId
    relation := req.relation
    evidence := req.evidence
    createdAtMs := req.createdAtMs
    createdBy := req.createdBy }

/-! ### Removing an overlay -/

def overlayNotFound (overlayId : String) : AppError :=
  lineageError "KC_LINEAGE_OVERLAY_NOT_FOUND" "lineage overlay not found"
    [("overlay_id", .str overlayId)]

def lineageOverlayRemove (overlayId lockToken : String) (nowMs : Int64) : LineageProg Unit := do
  let docId ← perform (.overlayDoc overlayId)
  let docId ← ofExcept (mapErr (queryFailed "failed loading lineage overlay before delete"
    [("overlay_id", .str overlayId)]) docId)
  match docId with
  | none => .fail (overlayNotFound overlayId)
  | some docId => do
    let lock ← requireValidLock docId lockToken nowMs
    ensureLineagePermission lock.owner OVERLAY_WRITE_ACTION (some docId)
    ensureLineagePolicyAllows lock.owner OVERLAY_WRITE_ACTION (some docId) nowMs
    let removed ← perform (.deleteOverlay overlayId)
    let removed ← ofExcept (mapErr (queryFailed "failed deleting lineage overlay"
      [("overlay_id", .str overlayId)]) removed)
    if removed = 0 then
      .fail (overlayNotFound overlayId)
    else
      pure ()

end Lineage

end KnowledgeCore
