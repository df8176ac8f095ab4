import KnowledgeCore.Lib.Joined
import KnowledgeCore.Lineage.Gate

/-!
# The ids of overlays

The id of an overlay is the hash of its fields, one on each line. A field may have line breaks of
its own, so that different overlays can have one id. The overlays that no other has the id of are
those in which no line break can be taken for the end of a field.
-/

namespace KnowledgeCore

namespace Lineage

open Joined (join Filled Tight)
open Prog (Ends)
open LineageDb (Effect overlayFields)

/-! ### The text of an overlay -/

/-- What is hashed for the id of an overlay. -/
def overlayText (overlay : LineageOverlayRow) : String :=
  "kc.lineage.overlay.v1\n" ++ overlay.docId ++ "\n" ++ overlay.fromNodeId ++ "\n"
    ++ overlay.toNodeId ++ "\n" ++ overlay.relation ++ "\n" ++ overlay.evidence

/-- The id an overlay is added under. -/
def overlayId (ext : Externals) (overlay : LineageOverlayRow) : String :=
  overlayIdFor ext overlay.docId overlay.fromNodeId overlay.toNodeId overlay.relation
    overlay.evidence

theorem overlayId_eq (ext : Externals) (overlay : LineageOverlayRow) :
  overlayId ext overlay = blake3HexPrefixed ext (.text (overlayText overlay))
  := rfl

/-- The fields, character by character. -/
def fieldChars (overlay : LineageOverlayRow) : List (List Char) :=
  (overlayFields overlay).map String.toList

theorem fieldChars_inj {a b : LineageOverlayRow} :
  fieldChars a = fieldChars b ↔ overlayFields a = overlayFields b
  := by
  constructor
  · apply List.map_injective_iff.mpr
    intro s t
    apply String.toList_inj.mp
  · apply congrArg

theorem toList_lines (header a b c d e : String) :
  (header ++ a ++ "\n" ++ b ++ "\n" ++ c ++ "\n" ++ d ++ "\n" ++ e).toList
    = header.toList ++ join '\n' ([a, b, c, d, e].map String.toList)
  := by
  have newline : "\n".toList = ['\n'] := rfl
  simp only [String.toList_append, List.append_assoc, newline, List.cons_append, List.nil_append,
    List.map_cons, List.map_nil, join]

theorem toList_overlayText :
  ∃ header, ∀ overlay, (overlayText overlay).toList = header ++ join '\n' (fieldChars overlay)
  := by
  exact ⟨_, fun overlay => toList_lines _ _ _ _ _ _⟩

theorem overlayText_inj {a b : LineageOverlayRow} :
  overlayText a = overlayText b ↔ join '\n' (fieldChars a) = join '\n' (fieldChars b)
  := by
  obtain ⟨header, htext⟩ := toList_overlayText
  rw [← String.toList_inj, htext, htext, List.append_cancel_left_eq]

/-! ### Accepted fields -/

/-- A field is accepted for a character that is not whitespace. -/
abbrev Solid (c : Char) : Prop := isWhitespace c = false

theorem not_solid_newline :
  ¬ Solid '\n'
  := by
  decide

/-- The fields of a request pass the check of the add. -/
def Accepted (req : LineageOverlayAddReq) : Prop :=
  validateOverlayFields req.docId req.fromNodeId req.toNodeId req.relation req.evidence
    req.createdBy = .ok ()

theorem filled_iff {s : String} :
  Filled Solid s.toList ↔ isBlank s = false
  := isBlank_eq_false_iff.symm

theorem accepted_iff {req : LineageOverlayAddReq} :
  Accepted req ↔ isBlank req.createdBy = false ∧ ∀ f ∈ fieldChars req.row, Filled Solid f
  := by
  have hfields : overlayFields req.row
      = [req.docId, req.fromNodeId, req.toNodeId, req.relation, req.evidence] := rfl
  rw [fieldChars, List.forall_mem_map, hfields]
  simp only [filled_iff, List.forall_mem_cons]
  rw [Accepted, validateOverlayFields]
  constructor
  · intro h
    split at h
    · cases h
    · rename_i hnone
      simp only [List.find?_eq_none, List.forall_mem_cons, Bool.not_eq_true] at hnone
      obtain ⟨hdocId, hfrom, hto, hrelation, hevidence, hcreatedBy, -⟩ := hnone
      use hcreatedBy, hdocId, hfrom, hto, hrelation, hevidence
      apply List.forall_mem_nil
  · rintro ⟨hcreatedBy, hdocId, hfrom, hto, hrelation, hevidence, -⟩
    simp only [List.find?_cons, List.find?_nil, hdocId, hfrom, hto, hrelation, hevidence, hcreatedBy]

/-! ### Unambiguous fields -/

/-- No line break can be taken for the end of a field: in the document id only whitespace comes
before one, in the evidence only whitespace comes after one, and the other fields have none. -/
structure Unambiguous (overlay : LineageOverlayRow) : Prop where
  docId : ∀ before after, overlay.docId.toList = before ++ '\n' :: after →
    ∀ c ∈ before, isWhitespace c = true
  fromNodeId : '\n' ∉ overlay.fromNodeId.toList
  toNodeId : '\n' ∉ overlay.toNodeId.toList
  relation : '\n' ∉ overlay.relation.toList
  evidence : ∀ before after, overlay.evidence.toList = before ++ '\n' :: after →
    ∀ c ∈ after, isWhitespace c = true

theorem not_filled_iff {l : List Char} :
  ¬ Filled Solid l ↔ ∀ c ∈ l, isWhitespace c = true
  := by
  simp [Filled]

theorem unambiguous_iff {overlay : LineageOverlayRow}
    (h : ∀ f ∈ fieldChars overlay, Filled Solid f) :
  Unambiguous overlay ↔ Tight '\n' Solid false (fieldChars overlay)
  := by
  have hfields : fieldChars overlay = [overlay.docId.toList, overlay.fromNodeId.toList,
    overlay.toNodeId.toList, overlay.relation.toList, overlay.evidence.toList] := rfl
  rw [hfields] at h ⊢
  simp only [List.forall_mem_cons] at h
  obtain ⟨-, hfrom, hto, hrelation, -, -⟩ := h
  rw [Tight, Joined.tight_cons_iff not_solid_newline (List.cons_ne_nil _ _) hfrom,
    Joined.tight_cons_iff not_solid_newline (List.cons_ne_nil _ _) hto,
    Joined.tight_cons_iff not_solid_newline (List.cons_ne_nil _ _) hrelation, Tight, Tight]
  simp only [not_filled_iff]
  constructor
  · rintro ⟨hdocId, hfrom, hto, hrelation, hevidence⟩
    use ?_, hfrom, hto, hrelation, ?_
    · intro before after heq
      use fun _ => hdocId before after heq
      rintro ⟨⟩
    · intro before after heq
      use ?_, fun _ => hevidence before after heq
      intro hnil
      contradiction
  · rintro ⟨hdocId, hfrom, hto, hrelation, hevidence, -⟩
    use ?_, hfrom, hto, hrelation
    · intro before after heq
      apply (hevidence before after heq).2 trivial
    · intro before after heq
      apply (hdocId before after heq).1 (List.cons_ne_nil _ _)

theorem exists_of_length_five {α : Type} {l : List α} {a b c d e : α}
    (h : l.length = [a, b, c, d, e].length) :
  ∃ a b c d e, l = [a, b, c, d, e]
  := by
  match l, h with
  | [a, b, c, d, e], _ => exact ⟨a, b, c, d, e, rfl⟩

/-- When no other text has the hash of its text, an overlay is the only one with its id exactly
when its fields are unambiguous. -/
theorem overlayId_inj_iff {ext : Externals} {overlay : LineageOverlayRow}
    (hfilled : ∀ f ∈ fieldChars overlay, Filled Solid f)
    (hcollision : ∀ text, ext.blake3 (.text text) = ext.blake3 (.text (overlayText overlay)) →
      text = overlayText overlay) :
  (∀ other : LineageOverlayRow, (∀ f ∈ fieldChars other, Filled Solid f) →
      overlayId ext other = overlayId ext overlay → overlayFields other = overlayFields overlay)
    ↔ Unambiguous overlay
  := by
  rw [unambiguous_iff hfilled, Joined.tight_iff not_solid_newline hfilled]
  constructor
  · intro h gs hlength hgs heq
    -- The other reading of the text is an overlay of its own.
    obtain ⟨docId, fromNodeId, toNodeId, relation, evidence, rfl⟩ := exists_of_length_five hlength
    let other : LineageOverlayRow := { overlay with
      docId := .ofList docId
      fromNodeId := .ofList fromNodeId
      toNodeId := .ofList toNodeId
      relation := .ofList relation
      evidence := .ofList evidence }
    have hother : fieldChars other = [docId, fromNodeId, toNodeId, relation, evidence] := by
      simp only [fieldChars, overlayFields, other, List.map_cons, List.map_nil,
        String.toList_ofList]
    rw [← hother] at hgs heq ⊢
    apply fieldChars_inj.mpr
    apply h other hgs
    rw [overlayId_eq, overlayId_eq, overlayText_inj.mpr heq]
  · intro h other hother hid
    apply fieldChars_inj.mp
    apply h _ _ hother
    · apply overlayText_inj.mp
      apply hcollision
      apply blake3HexPrefixed_inj.mp hid
    · rfl

/-! ### Runs -/

-- No text is to be examined character by character.
attribute [local irreducible] isBlank requireNonEmpty

variable {ext : Externals} {parse : JsonParser} {db after : LineageDb}

/-- Every overlay has accepted fields and is stored under the id they give. -/
def OwnIds (ext : Externals) (db : LineageDb) : Prop :=
  ∀ (id : String) (overlay : LineageOverlayRow), db.lineageOverlays[id]? = some overlay →
    id = overlayId ext overlay ∧ ∀ f ∈ fieldChars overlay, Filled Solid f

theorem OwnIds.of_overlays_eq (h : OwnIds ext db)
    (heq : after.lineageOverlays = db.lineageOverlays) :
  OwnIds ext after
  := by
  intro id overlay hstored
  rw [heq] at hstored
  apply h id overlay hstored

theorem OwnIds.insert (h : OwnIds ext db) {req : LineageOverlayAddReq} (hreq : Accepted req) :
  OwnIds ext (db.withOverlays (db.lineageOverlays.insert (overlayId ext req.row) req.row))
  := by
  intro id overlay hstored
  rw [LineageDb.lineageOverlays_withOverlays, Std.ExtTreeMap.getElem?_insert] at hstored
  split_ifs at hstored with hid
  · obtain rfl := Option.some.inj hstored
    use (Std.LawfulEqCmp.compare_eq_iff_eq.mp hid).symm
    apply (accepted_iff.mp hreq).2
  · apply h id overlay hstored

theorem OwnIds.erase (h : OwnIds ext db) (overlayId : String) :
  OwnIds ext (db.withOverlays (db.lineageOverlays.erase overlayId))
  := by
  intro id overlay hstored
  rw [LineageDb.lineageOverlays_withOverlays, Std.ExtTreeMap.getElem?_erase] at hstored
  split_ifs at hstored
  apply h id overlay hstored

theorem OwnIds.ends (h : OwnIds ext db) {call : Call} {result : AppResult Unit}
    (hend : Ends (Effect parse) (call.prog ext) db result after) :
  OwnIds ext after
  := by
  cases call with
  | acquire docId owner nowMs =>
    obtain ⟨r, hr, -⟩ := Prog.ends_bind_ret hend
    apply h.of_overlays_eq (lineageOverlays_of_onLock (onLock_lineageLockAcquire _ _ _) hr)
  | release docId token =>
    apply h.of_overlays_eq (lineageOverlays_of_onLock (onLock_lineageLockRelease _ _) hend)
  | add req =>
    obtain ⟨r, hr, -⟩ := Prog.ends_bind_ret hend
    cases (safe_lineageOverlayAdd req).ends hr with
    | failed e rows => apply h.of_overlays_eq rfl
    | added entry lock row id hvalid hlock hallowed hrow hid hfresh =>
      subst hid
      apply OwnIds.insert (h.of_overlays_eq rfl) hvalid
  | remove id lockToken nowMs =>
    cases (safe_lineageOverlayRemove id lockToken nowMs).ends hend with
    | failed e rows => apply h.of_overlays_eq rfl
    | removed overlay lock row hstored hlock hallowed hrow =>
      apply OwnIds.erase (h.of_overlays_eq rfl)

theorem OwnIds.run (h : OwnIds ext db) {steps : List Step} (hrun : Run ext parse db steps after) :
  OwnIds ext after
  := by
  induction hrun with
  | nil => exact h
  | snoc call result _ hend ih => apply ih.ends hend

/-- An overlay of a document that is there is not inserted when one with its fields or under its
id is there. -/
theorem stored_of_insertOverlay {id : String} {row : LineageOverlayRow}
    (hdoc : row.docId ∈ db.docs) (h : (db.insertOverlay id row).1.isOk = false) :
  ∃ (id' : String) (overlay : LineageOverlayRow), db.lineageOverlays[id']? = some overlay
    ∧ (overlayFields overlay = overlayFields row ∨ id' = id)
  := by
  rw [LineageDb.insertOverlay] at h
  split_ifs at h with hunique hkey
  · obtain ⟨⟨id', overlay⟩, hmem, hsame⟩ := List.any_eq_true.mp hunique
    use id', overlay, Std.ExtTreeMap.mem_toList_iff_getElem?_eq_some.mp hmem
    left
    apply of_decide_eq_true hsame
  · obtain ⟨overlay, hstored⟩ := Option.isSome_iff_exists.mp
      (Std.ExtTreeMap.isSome_getElem?_iff_mem.mpr hkey)
    use id, overlay, hstored
    right
    rfl
  · contradiction

/-- The overlay is not taken for another one. -/
structure Identified (ext : Externals) (parse : JsonParser) (F : LineageOverlayAddReq) : Prop where
  injective : ∀ G, Accepted G → overlayId ext G.row = overlayId ext F.row →
    overlayFields G.row = overlayFields F.row
  /-- When the insertion of it fails for a reason other than its document, it is there. -/
  added : ∀ (db : LineageDb) (steps : List Step) (after : LineageDb), db.lineageOverlays = ∅ →
    Run ext parse db steps after → F.docId ∈ after.docs →
    (after.insertOverlay (overlayId ext F.row) F.row).1.isOk = false →
    ∃ (id : String) (overlay : LineageOverlayRow), after.lineageOverlays[id]? = some overlay
      ∧ overlayFields overlay = overlayFields F.row
  /-- What its id removes is it. -/
  removed : ∀ (db : LineageDb) (steps : List Step) (after : LineageDb), db.lineageOverlays = ∅ →
    Run ext parse db steps after → ∀ overlay : LineageOverlayRow,
    after.lineageOverlays[overlayId ext F.row]? = some overlay →
    overlayFields overlay = overlayFields F.row

/-- When no other text has the hash of its text, an overlay with accepted fields is identified
exactly when its fields are unambiguous. -/
theorem identified_iff {F : LineageOverlayAddReq} (hF : Accepted F)
    (hcollision : ∀ text, ext.blake3 (.text text) = ext.blake3 (.text (overlayText F.row)) →
      text = overlayText F.row) :
  Identified ext parse F ↔ Unambiguous F.row
  := by
  obtain ⟨hcreatedBy, hfilled⟩ := accepted_iff.mp hF
  rw [← overlayId_inj_iff hfilled hcollision]
  constructor
  · intro h other hother hid
    -- The other overlay can be asked for as well.
    let G : LineageOverlayAddReq := { F with
      docId := other.docId
      fromNodeId := other.fromNodeId
      toNodeId := other.toNodeId
      relation := other.relation
      evidence := other.evidence }
    apply h.injective G (accepted_iff.mpr ⟨hcreatedBy, hother⟩) hid
  · intro h
    have removed (db : LineageDb) (steps : List Step) (after : LineageDb)
        (hempty : db.lineageOverlays = ∅) (hrun : Run ext parse db steps after)
        (overlay : LineageOverlayRow)
        (hstored : after.lineageOverlays[overlayId ext F.row]? = some overlay) :
        overlayFields overlay = overlayFields F.row := by
      have hown : OwnIds ext db := by
        intro id overlay hstored
        rw [hempty] at hstored
        simp at hstored
      obtain ⟨hid, hoverlay⟩ := hown.run hrun _ overlay hstored
      apply h overlay hoverlay hid.symm
    constructor
    · intro G hG
      apply h G.row (accepted_iff.mp hG).2
    · intro db steps after hempty hrun hdoc hfailed
      obtain ⟨id, overlay, hstored, hsame | hid⟩ := stored_of_insertOverlay hdoc hfailed
      · use id, overlay, hstored
      · use id, overlay, hstored
        rw [hid] at hstored
        apply removed db steps after hempty hrun overlay hstored
    · apply removed

theorem unambiguous_of_not_mem {overlay : LineageOverlayRow}
    (h : ∀ f ∈ fieldChars overlay, '\n' ∉ f) :
  Unambiguous overlay
  := by
  have mem {f : String} (hf : f ∈ overlayFields overlay) : '\n' ∉ f.toList :=
    h _ (List.mem_map_of_mem hf)
  constructor
  · intro before after heq
    have hno := mem (f := overlay.docId) (by simp [overlayFields])
    simp [heq] at hno
  · apply mem
    simp [overlayFields]
  · apply mem
    simp [overlayFields]
  · apply mem
    simp [overlayFields]
  · intro before after heq
    have hno := mem (f := overlay.evidence) (by simp [overlayFields])
    simp [heq] at hno

/-- An overlay without line breaks is identified. -/
theorem identified_overlayReq :
  Identified (Sample.markingExt (overlayText (Sample.overlayReq "editor").row)) JsonText.parse
    (Sample.overlayReq "editor")
  := by
  apply (identified_iff _ _).mpr
  · apply unambiguous_of_not_mem
    decide +kernel
  · apply accepted_iff.mpr
    decide +kernel
  · intro text
    apply Sample.eq_marked

/-- A request for an overlay between the given nodes. -/
def Sample.overlayBetween (fromNodeId toNodeId : String) : LineageOverlayAddReq :=
  { Sample.overlayReq "editor" with
    fromNodeId
    toNodeId }

/-- Two overlays with the same id: the second cannot be added, and its id removes the first. -/
theorem overlays_share_id :
  let first := Sample.overlayBetween "a\nb" "c"
  let second := Sample.overlayBetween "a" "b\nc"
  let db := (Sample.next (.add first) (Sample.lockedBy "editor")).2
  let removed := (Sample.next (.remove (overlayId Sample.ext second.row) second.lockToken 1) db).2
  Accepted first ∧ Accepted second ∧ overlayFields first.row ≠ overlayFields second.row
    ∧ overlayId Sample.ext first.row = overlayId Sample.ext second.row
    ∧ overlayId Sample.ext first.row ∈ db.lineageOverlays
    ∧ (Sample.next (.add second) db).1.isOk = false
    ∧ overlayId Sample.ext first.row ∉ removed.lineageOverlays
  := by
  refine ⟨accepted_iff.mpr (by decide +kernel), accepted_iff.mpr (by decide +kernel), ?_⟩
  decide +kernel

end Lineage

end KnowledgeCore
