import KnowledgeCore.CanonJson
import KnowledgeCore.Events
import KnowledgeCore.Objects.ChunkRanges

/-!
# The ids of chunks

A chunk is named by the hash of a text that says what document it is of, how it was made and
which range it is. The text can be taken apart again, and so can that of a configuration. The
chunks of a text start at different positions, since a loop that comes back to a position does
not end.
-/

namespace KnowledgeCore

namespace Chunking

open CanonJson (append_separator_inj notMem_toString newline_notMem_toString toCanonicalBytes)

/-! ### Configurations -/

theorem distinctKeys_toJson (cfg : ChunkingConfigV1) : cfg.toJson.DistinctKeys := by
  simp [ChunkingConfigV1.toJson, Json.DistinctKeys, Json.DistinctKeysMembers]

theorem eq_of_same_toJson {cfg cfg' : ChunkingConfigV1} (h : Json.Same cfg.toJson cfg'.toJson) :
  cfg = cfg'
  := by
  obtain ⟨v, ⟨maxChars, minChars⟩, ⟨windowChars, overlapChars, respectMarkers⟩⟩ := cfg
  obtain ⟨v', ⟨maxChars', minChars'⟩, ⟨windowChars', overlapChars', respectMarkers'⟩⟩ := cfg'
  simp [ChunkingConfigV1.toJson, Json.Same, Json.SameMembers, List.lookup_cons] at h
  obtain ⟨hv, ⟨hmax, hmin⟩, hwindow, hoverlap, hrespect⟩ := h
  rw [Int64.toInt_inj.mp hv, UInt64.toNat_inj.mp hmax, UInt64.toNat_inj.mp hmin,
    UInt64.toNat_inj.mp hwindow, UInt64.toNat_inj.mp hoverlap, hrespect]

/-- A configuration can be told from its canonical text. -/
theorem eq_of_toCanonicalBytes_eq {cfg cfg' : ChunkingConfigV1}
    (h : toCanonicalBytes cfg.toJson = toCanonicalBytes cfg'.toJson) :
  cfg = cfg'
  := by
  have hfloat : CanonJson.hasFloat cfg.toJson = false := by
    simp [ChunkingConfigV1.toJson, CanonJson.hasFloat, CanonJson.membersHaveFloat]
  obtain ⟨text, htext⟩ := CanonJson.toCanonicalBytes_ok_of_not_hasFloat hfloat
  apply eq_of_same_toJson
  apply (CanonJson.canonicalBytes_eq_iff_same (a := ⟨_, distinctKeys_toJson cfg⟩)
    (b := ⟨_, distinctKeys_toJson cfg'⟩) htext (h ▸ htext)).mp rfl

/-! ### The texts that name chunks -/

/-- What the id of a chunk is taken of. -/
def ChunkRecord.idText (chunk : ChunkRecord) : String :=
  "kc.chunk.v1\n" ++ chunk.docId ++ "\n" ++ chunk.chunkingConfigHash ++ "\n"
    ++ toString chunk.ordinal.toInt ++ "\n" ++ toString chunk.startChar.toInt ++ ":"
    ++ toString chunk.endChar.toInt

theorem toList_lines (header d c o s e : String) :
  (header ++ d ++ "\n" ++ c ++ "\n" ++ o ++ "\n" ++ s ++ ":" ++ e).toList
    = header.toList ++ (d.toList ++ '\n' :: (c.toList ++ '\n' :: (o.toList
        ++ '\n' :: (s.toList ++ ':' :: e.toList))))
  := by
  have newline : "\n".toList = ['\n'] := rfl
  have colon : ":".toList = [':'] := rfl
  simp only [String.toList_append, List.append_assoc, newline, colon, List.cons_append,
    List.nil_append]

theorem toString_toInt_inj {a b : Int64} : toString a.toInt = toString b.toInt ↔ a = b := by
  rw [← Int64.toInt_inj]
  exact Int.repr_inj

/-- The fields of a chunk can be told from the text that names it. -/
theorem idText_inj {chunk chunk' : ChunkRecord} (hdoc : '\n' ∉ chunk.docId.toList)
    (hdoc' : '\n' ∉ chunk'.docId.toList) (hcfg : '\n' ∉ chunk.chunkingConfigHash.toList)
    (hcfg' : '\n' ∉ chunk'.chunkingConfigHash.toList) (h : chunk.idText = chunk'.idText) :
  chunk.docId = chunk'.docId ∧ chunk.chunkingConfigHash = chunk'.chunkingConfigHash
    ∧ chunk.ordinal = chunk'.ordinal ∧ chunk.startChar = chunk'.startChar
    ∧ chunk.endChar = chunk'.endChar
  := by
  have hcolon (n : Int) : ':' ∉ (toString n).toList := notMem_toString (by decide) (by decide) n
  unfold ChunkRecord.idText at h
  have h := congrArg String.toList h
  rw [toList_lines, toList_lines, List.append_cancel_left_eq,
    append_separator_inj hdoc hdoc', append_separator_inj hcfg hcfg',
    append_separator_inj (newline_notMem_toString _) (newline_notMem_toString _),
    append_separator_inj (hcolon _) (hcolon _)] at h
  simpa only [String.toList_inj, toString_toInt_inj] using h

theorem newline_notMem_of_validated {s : String} (h : validateBlake3Prefixed s = .ok ()) :
  '\n' ∉ s.toList
  := by
  rw [validateBlake3Prefixed] at h
  split_ifs at h with hpre hdigits
  obtain ⟨digits, hs⟩ := List.isPrefixOf_iff_prefix.mp (Bool.of_not_eq_false hpre)
  rw [← hs, List.mem_append, not_or]
  use by decide
  intro hmem
  rw [← hs] at hdigits
  have hdrop : ("blake3:".toList ++ digits).drop 7 = digits := rfl
  rw [hdrop] at hdigits
  have hdigit := List.all_eq_true.mp hdigits.2 _ hmem
  revert hdigit
  decide

/-! ### The starts of chunks -/

section Loop

variable {record : Int64 → Int64 → Int64 → ChunkRecord} {pace : Pace} {total : Int64}

/-- What the loop makes from a start on has the same length, whatever the number of the first
chunk. -/
theorem chunksFrom_length {steps steps' : Nat} {start ordinal ordinal' : Int64}
    {chunks chunks' : List ChunkRecord}
    (h : chunksFrom record pace total steps start ordinal = some chunks)
    (h' : chunksFrom record pace total steps' start ordinal' = some chunks') :
  chunks.length = chunks'.length
  := by
  induction steps using Nat.strong_induction_on generalizing steps' start ordinal ordinal' chunks
    chunks' with
  | h steps ih =>
    by_cases hlt : start < total
    · obtain ⟨rest, rfl, hrest⟩ := chunksFrom_eq_some hlt h
      obtain ⟨rest', rfl, hrest'⟩ := chunksFrom_eq_some hlt h'
      rw [List.length_cons, List.length_cons]
      obtain ⟨hend, rfl⟩ | ⟨hne, fewer, hfewer, hrest⟩ := hrest
      · obtain ⟨-, rfl⟩ | ⟨hne, -⟩ := hrest'
        · rfl
        · exact absurd hend hne
      · obtain ⟨hend, -⟩ | ⟨-, fewer', -, hrest'⟩ := hrest'
        · exact absurd hend hne
        · rw [ih fewer hfewer hrest hrest']
    · rw [chunksFrom_of_not_lt hlt] at h h'
      rw [← Option.some_inj.mp h, ← Option.some_inj.mp h']

/-- The chunks are made one by one, and the loop goes on from the start of each of them. -/
theorem chunksFrom_of_mem (hrecord : ∀ ordinal start end_, (record ordinal start end_).startChar
      = start) {steps : Nat} {start ordinal : Int64} {chunks : List ChunkRecord}
    (h : chunksFrom record pace total steps start ordinal = some chunks) {chunk : ChunkRecord}
    (hmem : chunk ∈ chunks) :
  (∃ ordinal start end_, chunk = record ordinal start end_)
    ∧ ∃ steps' ordinal' rest,
      chunksFrom record pace total steps' chunk.startChar ordinal' = some rest
        ∧ rest.length ≤ chunks.length
  := by
  induction steps using Nat.strong_induction_on generalizing start ordinal chunks with
  | h steps ih =>
    by_cases hlt : start < total
    · obtain ⟨rest, rfl, hrest⟩ := chunksFrom_eq_some hlt h
      obtain rfl | hmem := List.mem_cons.mp hmem
      · use ⟨_, _, _, rfl⟩, steps, ordinal, record ordinal start (pace.endOf start) :: rest
        rw [hrecord]
        exact ⟨h, le_refl _⟩
      · obtain ⟨-, rfl⟩ | ⟨-, fewer, hfewer, hrest⟩ := hrest
        · cases hmem
        · obtain ⟨hmade, steps', ordinal', rest', hrest', hle⟩ := ih fewer hfewer hrest hmem
          exact ⟨hmade, steps', ordinal', rest', hrest', Nat.le_succ_of_le hle⟩
    · rw [chunksFrom_of_not_lt hlt] at h
      rw [← Option.some_inj.mp h] at hmem
      cases hmem

/-- A loop that ends comes to no start twice. -/
theorem chunksFrom_nodup (hrecord : ∀ ordinal start end_, (record ordinal start end_).startChar
      = start) {steps : Nat} {start ordinal : Int64} {chunks : List ChunkRecord}
    (h : chunksFrom record pace total steps start ordinal = some chunks) :
  (chunks.map ChunkRecord.startChar).Nodup
  := by
  induction steps using Nat.strong_induction_on generalizing start ordinal chunks with
  | h steps ih =>
    by_cases hlt : start < total
    · obtain ⟨rest, rfl, hrest⟩ := chunksFrom_eq_some hlt h
      rw [List.map_cons, List.nodup_cons, hrecord]
      obtain ⟨-, rfl⟩ | ⟨-, fewer, hfewer, hrest⟩ := hrest
      · exact ⟨List.not_mem_nil, List.nodup_nil⟩
      · use fun hagain => ?_, ih fewer hfewer hrest
        -- from the same start on there would be fewer chunks the second time
        obtain ⟨chunk, hmem, rfl⟩ := List.mem_map.mp hagain
        obtain ⟨-, steps', ordinal', rest', hrest', hle⟩ := chunksFrom_of_mem hrecord hrest hmem
        have hlength := chunksFrom_length h hrest'
        rw [List.length_cons] at hlength
        omega
    · rw [chunksFrom_of_not_lt hlt] at h
      rw [← Option.some_inj.mp h]
      apply List.nodup_nil

end Loop

/-! ### Ids -/

section Ids

variable {ext : Externals} {docId text mime : String} {cfg : ChunkingConfigV1}

/-- What a call makes is nothing, or what a loop from the start on makes. -/
theorem chunksFrom_of_chunkDocument {steps : Nat} {chunks : List ChunkRecord}
    (h : chunkDocument ext docId text mime cfg steps = .ok (some chunks)) :
  chunks = [] ∨ ∃ pace total, chunksFrom
      (chunkRecord ext docId (blake3HexPrefixed ext (.json cfg.toJson 0))) pace total steps 0 0
        = some chunks
  := by
  rw [chunkDocument] at h
  by_cases hv : cfg.v ≠ 1
  · rw [if_pos hv] at h
    cases h
  rw [if_neg hv, hashChunkingConfig_eq] at h
  dsimp only [AppResult.ok_bind] at h
  split_ifs at h
  · left
    cases h
    rfl
  · right
    exact ⟨_, _, Except.ok.inj h⟩
  · right
    exact ⟨_, _, Except.ok.inj h⟩

theorem nodup_starts {steps : Nat} {chunks : List ChunkRecord}
    (h : chunkDocument ext docId text mime cfg steps = .ok (some chunks)) :
  (chunks.map ChunkRecord.startChar).Nodup
  := by
  obtain rfl | ⟨pace, total, hloop⟩ := chunksFrom_of_chunkDocument h
  · apply List.nodup_nil
  · exact chunksFrom_nodup (fun _ _ _ => rfl) hloop

/-- The chunks of a document are named by its id and the hash of the configuration. -/
theorem chunk_of_mem {steps : Nat} {chunks : List ChunkRecord}
    (h : chunkDocument ext docId text mime cfg steps = .ok (some chunks)) {chunk : ChunkRecord}
    (hmem : chunk ∈ chunks) :
  chunk.docId = docId ∧ chunk.chunkingConfigHash = blake3HexPrefixed ext (.json cfg.toJson 0)
    ∧ chunk.chunkId = blake3HexPrefixed ext (.text chunk.idText)
  := by
  obtain rfl | ⟨pace, total, hloop⟩ := chunksFrom_of_chunkDocument h
  · cases hmem
  · obtain ⟨⟨ordinal, start, end_, rfl⟩, -⟩ := chunksFrom_of_mem (fun _ _ _ => rfl) hloop hmem
    exact ⟨rfl, rfl, rfl⟩

end Ids

/-- The canonical texts of two configurations, and the texts that name chunks, have hashes of
their own. -/
structure CollisionFree (ext : Externals) (cfg cfg' : ChunkingConfigV1)
    (chunks : List ChunkRecord) : Prop where
  config : ext.blake3 (.json cfg.toJson 0) = ext.blake3 (.json cfg'.toJson 0) →
    toCanonicalBytes cfg.toJson = toCanonicalBytes cfg'.toJson
  text : ∀ chunk ∈ chunks, ∀ other ∈ chunks,
    ext.blake3 (.text chunk.idText) = ext.blake3 (.text other.idText) →
      chunk.idText = other.idText

/-- Chunks with one id are of one range of one document, with one number, and made with one
configuration. The chunks that are made together have different ids. -/
theorem chunkIds_unique (ext : Externals) (docId text mime : String) (cfg : ChunkingConfigV1)
    (steps : Nat) (chunks : List ChunkRecord) (docId' text' mime' : String)
    (cfg' : ChunkingConfigV1) (steps' : Nat) (chunks' : List ChunkRecord)
    (hdoc : validateBlake3Prefixed docId = .ok ()) (hdoc' : validateBlake3Prefixed docId' = .ok ())
    (h : chunkDocument ext docId text mime cfg steps = .ok (some chunks))
    (h' : chunkDocument ext docId' text' mime' cfg' steps' = .ok (some chunks'))
    (hcollision : CollisionFree ext cfg cfg' (chunks ++ chunks')) :
  (∀ chunk ∈ chunks, ∀ other ∈ chunks', chunk.chunkId = other.chunkId →
      docId = docId' ∧ cfg = cfg' ∧ chunk.ordinal = other.ordinal ∧ chunk.bounds = other.bounds)
    ∧ (chunks.map ChunkRecord.chunkId).Nodup
  := by
  have hline {docId : String} {chunk : ChunkRecord} {cfg : ChunkingConfigV1}
      (hdoc : validateBlake3Prefixed docId = .ok ()) (hchunk : chunk.docId = docId
        ∧ chunk.chunkingConfigHash = blake3HexPrefixed ext (.json cfg.toJson 0)
        ∧ chunk.chunkId = blake3HexPrefixed ext (.text chunk.idText)) :
      '\n' ∉ chunk.docId.toList ∧ '\n' ∉ chunk.chunkingConfigHash.toList := by
    rw [hchunk.1, hchunk.2.1]
    exact ⟨newline_notMem_of_validated hdoc, newline_notMem_blake3HexPrefixed _⟩
  have hfields {docId' : String} {cfg' : ChunkingConfigV1} {chunk other : ChunkRecord}
      (hdoc' : validateBlake3Prefixed docId' = .ok ()) (hmem : chunk ∈ chunks)
      (hother : other ∈ chunks ++ chunks') (hnamed : other.docId = docId'
        ∧ other.chunkingConfigHash = blake3HexPrefixed ext (.json cfg'.toJson 0)
        ∧ other.chunkId = blake3HexPrefixed ext (.text other.idText))
      (hid : chunk.chunkId = other.chunkId) :
      chunk.docId = other.docId ∧ chunk.chunkingConfigHash = other.chunkingConfigHash
        ∧ chunk.ordinal = other.ordinal ∧ chunk.startChar = other.startChar
        ∧ chunk.endChar = other.endChar := by
    have hchunk := chunk_of_mem h hmem
    rw [hchunk.2.2, hnamed.2.2, blake3HexPrefixed_inj] at hid
    apply idText_inj (hline hdoc hchunk).1 (hline hdoc' hnamed).1 (hline hdoc hchunk).2
      (hline hdoc' hnamed).2
    exact hcollision.text chunk (List.mem_append_left _ hmem) other hother hid
  constructor
  · intro chunk hmem other hother hid
    have hchunk := chunk_of_mem h hmem
    have hnamed := chunk_of_mem h' hother
    obtain ⟨hdocs, hconfigs, hordinal, hstart, hend⟩ :=
      hfields hdoc' hmem (List.mem_append_right _ hother) hnamed hid
    rw [hchunk.1, hnamed.1] at hdocs
    rw [hchunk.2.1, hnamed.2.1, blake3HexPrefixed_inj] at hconfigs
    refine ⟨hdocs, eq_of_toCanonicalBytes_eq (hcollision.config hconfigs), hordinal, ?_⟩
    rw [ChunkRecord.bounds, ChunkRecord.bounds, hstart, hend]
  · have hstarts : chunks.Pairwise fun chunk other => chunk.startChar ≠ other.startChar :=
      List.pairwise_map.mp (nodup_starts h)
    apply List.pairwise_map.mpr
    apply hstarts.imp_of_mem
    intro chunk other hmem hother hne hid
    apply hne
    exact (hfields hdoc hmem (List.mem_append_left _ hother) (chunk_of_mem h hother) hid).2.2.2.1

/-! ### Two documents -/

/-- Chunks of two characters. -/
def Sample.narrowConfig : ChunkingConfigV1 where
  v := 1
  mdHtml := { maxChars := 2, minChars := 1 }
  pdf := { windowChars := 2, overlapChars := 0, respectMarkers := false }

def Sample.docId (n : Nat) : String :=
  blake3HexPrefixed Sample.ext (.raw (List.replicate n 0))

def Sample.chunk (n : Nat) (cfg : ChunkingConfigV1) (ordinal start end_ : Int64) : ChunkRecord :=
  chunkRecord Sample.ext (Sample.docId n) (blake3HexPrefixed Sample.ext (.json cfg.toJson 0))
    ordinal start end_

theorem Sample.chunks_narrow :
  chunkDocument Sample.ext (Sample.docId 0) "abc" "text/plain" Sample.narrowConfig 3
    = .ok (some [Sample.chunk 0 Sample.narrowConfig 0 0 2,
        Sample.chunk 0 Sample.narrowConfig 1 2 3])
  := by
  rw [chunkDocument, if_neg (by decide), hashChunkingConfig_eq]
  rfl

theorem Sample.chunks_default :
  chunkDocument Sample.ext (Sample.docId 1) "abc" "text/plain" defaultChunkingConfigV1 3
    = .ok (some [Sample.chunk 1 defaultChunkingConfigV1 0 0 3])
  := by
  rw [chunkDocument, if_neg (by decide), hashChunkingConfig_eq]
  rfl

theorem Sample.collisionFree :
  CollisionFree Sample.ext Sample.narrowConfig defaultChunkingConfigV1
    [Sample.chunk 0 Sample.narrowConfig 0 0 2, Sample.chunk 0 Sample.narrowConfig 1 2 3,
      Sample.chunk 1 defaultChunkingConfigV1 0 0 3]
  := by
  constructor
  · intro h
    exfalso
    revert h
    decide +kernel
  · decide +kernel

/-- The chunks of two documents have ids of their own. -/
theorem chunkIds_unique_narrow :
  (∀ chunk ∈ [Sample.chunk 0 Sample.narrowConfig 0 0 2, Sample.chunk 0 Sample.narrowConfig 1 2 3],
      ∀ other ∈ [Sample.chunk 1 defaultChunkingConfigV1 0 0 3], chunk.chunkId = other.chunkId →
        Sample.docId 0 = Sample.docId 1 ∧ Sample.narrowConfig = defaultChunkingConfigV1
          ∧ chunk.ordinal = other.ordinal ∧ chunk.bounds = other.bounds)
    ∧ ([Sample.chunk 0 Sample.narrowConfig 0 0 2,
        Sample.chunk 0 Sample.narrowConfig 1 2 3].map ChunkRecord.chunkId).Nodup
  :=
  chunkIds_unique Sample.ext (Sample.docId 0) "abc" "text/plain" Sample.narrowConfig 3 _
    (Sample.docId 1) "abc" "text/plain" defaultChunkingConfigV1 3 _
    (validateBlake3Prefixed_blake3HexPrefixed _ _) (validateBlake3Prefixed_blake3HexPrefixed _ _)
    Sample.chunks_narrow Sample.chunks_default Sample.collisionFree

end Chunking

end KnowledgeCore
