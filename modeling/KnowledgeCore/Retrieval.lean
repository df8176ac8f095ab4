import Mathlib.Data.Prod.Lex
import Mathlib.Data.Rat.Floor
import Mathlib.Data.String.Basic
import KnowledgeCore.Db
import KnowledgeCore.Lib.Gathering
import KnowledgeCore.Lib.Sorting

/-!
# Ranking what was retrieved

The chunks that a lexical and a vector index find are merged into one ranking. Every chunk is given
a share for each rank it was found at, and the shares are added up, weighted by the source of its
document and by how recent it is. The ranking is the same in whatever order the map of the chunks
is read, and for any arithmetic of the scores whose order is total.
-/

namespace KnowledgeCore

namespace Retrieval

open Gathering (combine valuesOf Commutes)

structure LexicalCandidate where
  chunkId : String
  rank : Int64

structure VectorCandidate where
  chunkId : String
  rank : Int64

structure RecencyConfigV1 where
  enabled : Bool
  windowDays : Int64
  maxBoost : ℚ

structure RetrievalConfigV1 where
  rrfK : Int64
  wLex : ℚ
  wVec : ℚ
  recency : RecencyConfigV1

structure MergedHit (F : Type) where
  chunkId : String
  docId : String
  ordinal : Int64
  finalScore : F
deriving DecidableEq

structure Interim (S : Type) where
  chunkId : String
  docId : String
  ordinal : Int64
  sourceKind : String
  effectiveTsMs : Int64
  score : S

/-! ### Scores -/

/-- The arithmetic of the scores: the share of a lexical and of a vector rank, the sum of shares,
and the final score, given the source of the document and its time. -/
structure Scoring (S F : Type) where
  lexical : Int64 → S
  vector : Int64 → S
  add : S → S → S
  finalScore : S → String → Int64 → F

def clamp (value low high : ℚ) : ℚ := max low (min value high)

def sourcePrior (sourceKind : String) : ℚ :=
  let raw : ℚ :=
    if sourceKind = "manuals" then 110 / 100
    else if sourceKind = "confluence_exports" then 107 / 100
    else if sourceKind = "notes" then 105 / 100
    else if sourceKind = "evidence_packs" then 108 / 100
    else if sourceKind = "inbox" then 98 / 100
    else 1
  clamp raw (90 / 100) (115 / 100)

def recencyBoost (nowMs tsMs : Int64) (cfg : RecencyConfigV1) : ℚ :=
  if cfg.enabled = false ∨ cfg.windowDays ≤ 0 ∨ nowMs < tsMs then 0
  else
    let ageMs := nowMs - tsMs
    let windowMs := cfg.windowDays * 24 * 60 * 60 * 1000
    if ageMs ≥ windowMs then 0
    else
      let factor := 1 - (ageMs.toInt / windowMs.toInt : ℚ)
      clamp (cfg.maxBoost * factor) 0 cfg.maxBoost

/-- Round to the nearest integer, and away from zero where there are two. -/
def round (value : ℚ) : ℤ :=
  if value < 0 then -⌊-value + 1 / 2⌋ else ⌊value + 1 / 2⌋

def round12 (value : ℚ) : ℚ := round (value * 1000000000000) / 1000000000000

/-- The share of a rank. -/
def reciprocalRank (cfg : RetrievalConfigV1) (weight : ℚ) (rank : Int64) : ℚ :=
  weight * (1 / (cfg.rrfK.toInt + rank.toInt))

/-- The scores as they are where no digit is lost. -/
def exactScoring (cfg : RetrievalConfigV1) (nowMs : Int64) : Scoring ℚ ℚ where
  lexical := reciprocalRank cfg cfg.wLex
  vector := reciprocalRank cfg cfg.wVec
  add := (· + ·)
  finalScore score sourceKind effectiveTsMs :=
    round12 (score * sourcePrior sourceKind * (1 + recencyBoost nowMs effectiveTsMs cfg.recency))

/-! ### Merging -/

/-- What is known of a chunk: its document, its ordinal, and the source and time of the document. -/
abbrev ChunkMeta := String × Int64 × String × Int64

variable {S F : Type} (scoring : Scoring S F) (metaLookup : String → AppResult ChunkMeta)

/-- Add the share of a candidate to what its chunk has. -/
def addShare (byChunk : Table (Interim S)) (chunkId : String) (rrf : S) :
  AppResult (Table (Interim S))
  := do
  let (docId, ordinal, sourceKind, effectiveTsMs) ← metaLookup chunkId
  .ok (byChunk.alter chunkId fun
    | some s => some { s with score := scoring.add s.score rrf }
    | none => some { chunkId, docId, ordinal, sourceKind, effectiveTsMs, score := rrf })

def hitOf (it : Interim S) : MergedHit F where
  chunkId := it.chunkId
  docId := it.docId
  ordinal := it.ordinal
  finalScore := scoring.finalScore it.score it.sourceKind it.effectiveTsMs

/-- What hits with one score are ordered by. -/
def tieKey (hit : MergedHit F) : String ×ₗ ℤ ×ₗ String :=
  toLex (hit.docId, toLex (hit.ordinal.toInt, hit.chunkId))

section Merging

variable [Preorder F] [DecidableLE F] [DecidableLT F]

/-- The order of the ranking: by the score from the greatest to the least, and then by the
document, the ordinal and the chunk. -/
def rankLe (a b : MergedHit F) : Prop :=
  b.finalScore < a.finalScore
    ∨ (a.finalScore ≤ b.finalScore ∧ b.finalScore ≤ a.finalScore) ∧ tieKey a ≤ tieKey b

instance : DecidableRel (rankLe (F := F)) := fun a b =>
  inferInstanceAs (Decidable (b.finalScore < a.finalScore
    ∨ (a.finalScore ≤ b.finalScore ∧ b.finalScore ≤ a.finalScore) ∧ tieKey a ≤ tieKey b))

/-- Merge the candidates, when the map of the chunks is read in the given order. -/
def mergeCandidates (order : List (Interim S) → List (Interim S))
    (lexical : List LexicalCandidate) (vector : List VectorCandidate) :
  AppResult (List (MergedHit F))
  := do
  let byChunk ← lexical.foldlM (fun byChunk c =>
    addShare scoring metaLookup byChunk c.chunkId (scoring.lexical c.rank)) ∅
  let byChunk ← vector.foldlM (fun byChunk c =>
    addShare scoring metaLookup byChunk c.chunkId (scoring.vector c.rank)) byChunk
  let hits := (order (byChunk.toList.map Prod.snd)).map (hitOf scoring)
  .ok (hits.insertionSort rankLe)

end Merging

/-! ### Gathering the shares -/

/-- The shares of the candidates, under their chunks. -/
def shares (lexical : List LexicalCandidate) (vector : List VectorCandidate) : List (String × S) :=
  lexical.map (fun c => (c.chunkId, scoring.lexical c.rank))
    ++ vector.map fun c => (c.chunkId, scoring.vector c.rank)

/-- Under the chunks are their shares so far, added up, and what is known of the chunks. -/
def Gathered (done : List (String × S)) (byChunk : Table (Interim S)) : Prop :=
  ∀ (chunkId : String) it, byChunk[chunkId]? = some it
    ↔ combine scoring.add (valuesOf done chunkId) = some it.score ∧ it.chunkId = chunkId
      ∧ metaLookup chunkId = .ok (it.docId, it.ordinal, it.sourceKind, it.effectiveTsMs)

variable {scoring metaLookup} {done rest : List (String × S)} {byChunk after : Table (Interim S)}

/-- A share that is added is counted. -/
theorem Gathered.addShare {chunkId : String} {rrf : S}
    (hgathered : Gathered scoring metaLookup done byChunk)
    (h : addShare scoring metaLookup byChunk chunkId rrf = .ok after) :
  Gathered scoring metaLookup (done ++ [(chunkId, rrf)]) after
  := by
  obtain ⟨⟨docId, ordinal, sourceKind, effectiveTsMs⟩, hmeta, h⟩ := AppResult.bind_eq_ok.mp h
  cases h
  intro key it
  rw [Gathering.valuesOf_append, Gathering.valuesOf_cons, Gathering.valuesOf_nil,
    Std.ExtTreeMap.getElem?_alter]
  by_cases hkey : chunkId = key
  · subst hkey
    rw [if_pos Std.ReflCmp.compare_self, if_pos rfl, Gathering.combine_concat]
    obtain ⟨chunkId', docId', ordinal', sourceKind', effectiveTsMs', score⟩ := it
    cases hold : byChunk[chunkId]? with
    | none =>
      have hnone : combine scoring.add (valuesOf done chunkId) = none := by
        cases hscore : combine scoring.add (valuesOf done chunkId) with
        | none => rfl
        | some score =>
          have hthere := (hgathered chunkId ⟨chunkId, docId, ordinal, sourceKind, effectiveTsMs,
            score⟩).mpr ⟨hscore, rfl, hmeta⟩
          rw [hold] at hthere
          cases hthere
      rw [hnone, hmeta]
      simp only [Option.elim_none, Option.some.injEq, Interim.mk.injEq, Except.ok.injEq,
        Prod.mk.injEq]
      grind
    | some s =>
      obtain ⟨hscore, hid, hmeta'⟩ := (hgathered chunkId s).mp hold
      rw [hmeta] at hmeta'
      rw [hscore, hmeta]
      simp only [Option.elim_some, Option.some.injEq, Interim.mk.injEq, Except.ok.injEq,
        Prod.mk.injEq] at hmeta' ⊢
      grind
  · rw [if_neg (by simpa using hkey), if_neg hkey, List.append_nil]
    exact hgathered key it

/-- Every candidate that is added has a chunk that is known. -/
theorem isOk_of_addShare {chunkId : String} {rrf : S}
    (h : addShare scoring metaLookup byChunk chunkId rrf = .ok after) :
  (metaLookup chunkId).isOk = true
  := by
  obtain ⟨known, hmeta, -⟩ := AppResult.bind_eq_ok.mp h
  rw [hmeta]
  rfl

/-- Add shares one after the other. -/
def addShares (scoring : Scoring S F) (metaLookup : String → AppResult ChunkMeta)
    (byChunk : Table (Interim S)) (l : List (String × S)) : AppResult (Table (Interim S)) :=
  l.foldlM (fun byChunk e => Retrieval.addShare scoring metaLookup byChunk e.1 e.2) byChunk

theorem addShares_eq_ok (hgathered : Gathered scoring metaLookup done byChunk)
    (h : addShares scoring metaLookup byChunk rest = .ok after) :
  Gathered scoring metaLookup (done ++ rest) after
    ∧ ∀ e ∈ rest, (metaLookup e.1).isOk = true
  := by
  induction rest generalizing done byChunk with
  | nil =>
    cases h
    simpa using hgathered
  | cons e rest ih =>
    rw [addShares, List.foldlM_cons] at h
    obtain ⟨next, hnext, h⟩ := AppResult.bind_eq_ok.mp h
    obtain ⟨hafter, hknown⟩ := ih (hgathered.addShare hnext) h
    rw [List.append_assoc] at hafter
    exact ⟨hafter, List.forall_mem_cons.mpr ⟨isOk_of_addShare hnext, hknown⟩⟩

theorem addShares_isOk (scoring : Scoring S F) (byChunk : Table (Interim S))
    (hknown : ∀ e ∈ rest, (metaLookup e.1).isOk = true) :
  ∃ after, addShares scoring metaLookup byChunk rest = .ok after
  := by
  induction rest generalizing byChunk with
  | nil => exact ⟨byChunk, rfl⟩
  | cons e rest ih =>
    rw [List.forall_mem_cons] at hknown
    obtain ⟨known, hmeta⟩ := exists_of_isOk hknown.1
    rw [addShares, List.foldlM_cons, Retrieval.addShare, hmeta]
    exact ih _ hknown.2

theorem gathered_empty :
  Gathered scoring metaLookup [] ∅
  := by
  intro chunkId it
  simp [combine]

variable {lexical lexical' : List LexicalCandidate} {vector vector' : List VectorCandidate}

/-- Candidates that may be reordered without changing what is added up: the arithmetic commutes, or
no chunk is repeated in either list. -/
def Reorderable (scoring : Scoring S F) (lexical : List LexicalCandidate)
    (vector : List VectorCandidate) : Prop :=
  Commutes scoring.add
    ∨ (lexical.map LexicalCandidate.chunkId).Nodup ∧ (vector.map VectorCandidate.chunkId).Nodup

theorem combine_shares_perm (h : Reorderable scoring lexical vector)
    (hlexical : lexical.Perm lexical') (hvector : vector.Perm vector') (chunkId : String) :
  combine scoring.add (valuesOf (shares scoring lexical vector) chunkId)
    = combine scoring.add (valuesOf (shares scoring lexical' vector') chunkId)
  := by
  obtain hcommutes | ⟨hlexicalOnce, hvectorOnce⟩ := h
  · apply Gathering.combine_perm hcommutes
    exact Gathering.valuesOf_perm ((hlexical.map _).append (hvector.map _)) chunkId
  · rw [shares, shares, Gathering.valuesOf_append, Gathering.valuesOf_append,
      Gathering.valuesOf_eq_of_perm _ (hlexical.map _) chunkId,
      Gathering.valuesOf_eq_of_perm _ (hvector.map _) chunkId]
    · rwa [List.map_map]
    · rwa [List.map_map]

/-! ### The ranking -/

variable [Preorder F]

/-- A hit comes before another one: its score is greater, or as great, and then its document, its
ordinal or its chunk decides. -/
def Before (a b : MergedHit F) : Prop :=
  b.finalScore < a.finalScore
    ∨ (a.finalScore ≤ b.finalScore ∧ b.finalScore ≤ a.finalScore) ∧ tieKey a < tieKey b

theorem Before.asymm {a b : MergedHit F} (h : Before a b) :
  ¬ Before b a
  := by
  rintro (hback | ⟨hsame, hback⟩)
  · obtain hlt | ⟨⟨-, hle⟩, -⟩ := h
    · exact lt_asymm hlt hback
    · exact not_le_of_gt hback hle
  · obtain hlt | ⟨-, hkey⟩ := h
    · exact not_le_of_gt hlt hsame.2
    · exact lt_asymm hkey hback

/-- The ranking of the candidates: every chunk that is among them once, with the score its shares
add up to, and each hit before those that follow. -/
structure IsRanking (scoring : Scoring S F) (metaLookup : String → AppResult ChunkMeta)
    (lexical : List LexicalCandidate) (vector : List VectorCandidate)
    (hits : List (MergedHit F)) : Prop where
  scored : ∀ hit, hit ∈ hits ↔ ∃ sourceKind effectiveTsMs score,
    metaLookup hit.chunkId = .ok (hit.docId, hit.ordinal, sourceKind, effectiveTsMs)
      ∧ combine scoring.add (valuesOf (shares scoring lexical vector) hit.chunkId) = some score
      ∧ hit.finalScore = scoring.finalScore score sourceKind effectiveTsMs
  chunks : ∀ chunkId, chunkId ∈ hits.map MergedHit.chunkId
    ↔ chunkId ∈ lexical.map LexicalCandidate.chunkId
      ∨ chunkId ∈ vector.map VectorCandidate.chunkId
  once : (hits.map MergedHit.chunkId).Nodup
  ordered : hits.Pairwise Before

variable {hits hits' : List (MergedHit F)}

/-- There is one ranking of what has the same shares. -/
theorem IsRanking.unique (h : IsRanking scoring metaLookup lexical vector hits)
    (h' : IsRanking scoring metaLookup lexical' vector' hits')
    (hshares : ∀ chunkId, combine scoring.add (valuesOf (shares scoring lexical vector) chunkId)
      = combine scoring.add (valuesOf (shares scoring lexical' vector') chunkId)) :
  hits = hits'
  := by
  have hperm : hits.Perm hits' := by
    rw [List.perm_ext_iff_of_nodup h.once.of_map h'.once.of_map]
    intro hit
    rw [h.scored, h'.scored, hshares]
  apply hperm.eq_of_pairwise _ h.ordered h'.ordered
  intro a b _ _ hab hba
  exact absurd hba hab.asymm

theorem isTrans_rankLe :
  IsTrans (MergedHit F) rankLe
  := by
  constructor
  rintro a b c (hab | ⟨⟨hab, hba⟩, hkey⟩) (hbc | ⟨⟨hbc, hcb⟩, hkey'⟩)
  · exact Or.inl (hbc.trans hab)
  · exact Or.inl (hcb.trans_lt hab)
  · exact Or.inl (hbc.trans_le hba)
  · exact Or.inr ⟨⟨hab.trans hbc, hcb.trans hba⟩, hkey.trans hkey'⟩

theorem total_rankLe [Std.Total ((· ≤ ·) : F → F → Prop)] :
  Std.Total (rankLe (F := F))
  := by
  constructor
  intro a b
  by_cases hab : a.finalScore ≤ b.finalScore
  · by_cases hba : b.finalScore ≤ a.finalScore
    · exact (le_total (tieKey a) (tieKey b)).imp (fun h => Or.inr ⟨⟨hab, hba⟩, h⟩)
        fun h => Or.inr ⟨⟨hba, hab⟩, h⟩
    · exact Or.inr (Or.inl (lt_of_le_not_ge hab hba))
  · have hba := (Std.Total.total (r := (· ≤ ·)) a.finalScore b.finalScore).resolve_left hab
    exact Or.inl (Or.inl (lt_of_le_not_ge hba hab))

variable [DecidableLE F] [DecidableLT F] [Std.Total ((· ≤ ·) : F → F → Prop)]
  {order order' : List (Interim S) → List (Interim S)}

omit [Std.Total ((· ≤ ·) : F → F → Prop)] in
theorem mergeCandidates_eq :
  mergeCandidates scoring metaLookup order lexical vector
    = (addShares scoring metaLookup ∅ (shares scoring lexical vector)).map fun byChunk =>
      ((order (byChunk.toList.map Prod.snd)).map (hitOf scoring)).insertionSort rankLe
  := by
  rw [addShares, shares, List.foldlM_append, List.foldlM_map, mergeCandidates]
  cases lexical.foldlM (fun byChunk c =>
      Retrieval.addShare scoring metaLookup byChunk c.chunkId (scoring.lexical c.rank)) ∅ with
  | error e => rfl
  | ok byChunk =>
    rw [AppResult.ok_bind, AppResult.ok_bind, List.foldlM_map]
    cases vector.foldlM (fun byChunk c =>
      Retrieval.addShare scoring metaLookup byChunk c.chunkId (scoring.vector c.rank)) byChunk <;> rfl

/-- What is read from the map, sorted, is the ranking. -/
theorem isRanking_of_gathered {byChunk : Table (Interim S)}
    (hgathered : Gathered scoring metaLookup (shares scoring lexical vector) byChunk)
    (hknown : ∀ e ∈ shares scoring lexical vector, (metaLookup e.1).isOk = true)
    (horder : ∀ l, (order l).Perm l)
    (hhits : hits = ((order (byChunk.toList.map Prod.snd)).map (hitOf scoring)).insertionSort
      rankLe) :
  IsRanking scoring metaLookup lexical vector hits
  := by
  have hperm : hits.Perm ((byChunk.toList.map Prod.snd).map (hitOf scoring)) := by
    rw [hhits]
    exact (List.perm_insertionSort _ _).trans ((horder _).map _)
  have hmem (hit : MergedHit F) : hit ∈ hits
      ↔ ∃ (chunkId : String) (it : Interim S),
        byChunk[chunkId]? = some it ∧ hitOf scoring it = hit := by
    rw [hperm.mem_iff, List.mem_map]
    constructor
    · rintro ⟨it, hit, rfl⟩
      obtain ⟨⟨chunkId, it'⟩, hentry, rfl⟩ := List.mem_map.mp hit
      exact ⟨chunkId, it', Std.ExtTreeMap.mem_toList_iff_getElem?_eq_some.mp hentry, rfl⟩
    · rintro ⟨chunkId, it, hentry, rfl⟩
      exact ⟨it, List.mem_map.mpr ⟨(chunkId, it),
        Std.ExtTreeMap.mem_toList_iff_getElem?_eq_some.mpr hentry, rfl⟩, rfl⟩
  have hids : ((byChunk.toList.map Prod.snd).map (hitOf scoring)).map MergedHit.chunkId
      = byChunk.toList.map Prod.fst := by
    rw [List.map_map, List.map_map]
    apply List.map_congr_left
    rintro ⟨chunkId, it⟩ hentry
    exact ((hgathered chunkId it).mp (Std.ExtTreeMap.mem_toList_iff_getElem?_eq_some.mp hentry)).2.1
  have honce : (hits.map MergedHit.chunkId).Nodup := by
    rw [(hperm.map _).nodup_iff, hids, List.Nodup, List.pairwise_map]
    apply Std.ExtTreeMap.distinct_keys_toList.imp
    rintro a b hne hsame
    rw [hsame] at hne
    exact hne Std.ReflCmp.compare_self
  have hscored (hit : MergedHit F) : hit ∈ hits ↔ ∃ sourceKind effectiveTsMs score,
      metaLookup hit.chunkId = .ok (hit.docId, hit.ordinal, sourceKind, effectiveTsMs)
        ∧ combine scoring.add (valuesOf (shares scoring lexical vector) hit.chunkId) = some score
        ∧ hit.finalScore = scoring.finalScore score sourceKind effectiveTsMs := by
    rw [hmem]
    constructor
    · rintro ⟨chunkId, it, hentry, rfl⟩
      obtain ⟨hscore, rfl, hmeta⟩ := (hgathered chunkId it).mp hentry
      exact ⟨it.sourceKind, it.effectiveTsMs, it.score, hmeta, hscore, rfl⟩
    · rintro ⟨sourceKind, effectiveTsMs, score, hmeta, hscore, hfinal⟩
      refine ⟨hit.chunkId, ⟨hit.chunkId, hit.docId, hit.ordinal, sourceKind, effectiveTsMs, score⟩,
        (hgathered _ _).mpr ⟨hscore, rfl, hmeta⟩, ?_⟩
      rw [hitOf, ← hfinal]
  constructor
  · exact hscored
  · intro chunkId
    have hshares : chunkId ∈ (shares scoring lexical vector).map Prod.fst
        ↔ chunkId ∈ lexical.map LexicalCandidate.chunkId
          ∨ chunkId ∈ vector.map VectorCandidate.chunkId := by
      simp [shares]
    rw [← hshares, List.mem_map]
    constructor
    · rintro ⟨hit, hhit, rfl⟩
      obtain ⟨_, _, _, -, hscore, -⟩ := (hscored hit).mp hhit
      by_contra hnot
      rw [Gathering.valuesOf_eq_nil.mpr hnot] at hscore
      cases hscore
    · intro hshare
      obtain ⟨e, he, rfl⟩ := List.mem_map.mp hshare
      obtain ⟨⟨docId, ordinal, sourceKind, effectiveTsMs⟩, hmeta⟩ := exists_of_isOk (hknown e he)
      have hsome : (combine scoring.add (valuesOf (shares scoring lexical vector) e.1)).isSome
          = true := by
        rw [Gathering.combine_isSome]
        intro hnil
        exact Gathering.valuesOf_eq_nil.mp hnil hshare
      obtain ⟨score, hscore⟩ := Option.isSome_iff_exists.mp hsome
      exact ⟨⟨e.1, docId, ordinal, scoring.finalScore score sourceKind effectiveTsMs⟩,
        (hscored _).mpr ⟨sourceKind, effectiveTsMs, score, hmeta, hscore, rfl⟩, rfl⟩
  · exact honce
  · have hsorted : hits.Pairwise rankLe := by
      have htotal := total_rankLe (F := F)
      have htrans := isTrans_rankLe (F := F)
      rw [hhits]
      exact List.pairwise_insertionSort _ _
    apply (hsorted.and (List.pairwise_map.mp honce)).imp
    rintro a b ⟨hlt | ⟨hsame, hle⟩, hne⟩
    · exact Or.inl hlt
    · right
      use hsame
      apply lt_of_le_of_ne hle
      intro hkey
      have htie := (Prod.mk.inj (toLex.injective hkey)).2
      exact hne (Prod.mk.inj (toLex.injective htie)).2

omit [Std.Total ((· ≤ ·) : F → F → Prop)] in
theorem gathered_of_ok (h : mergeCandidates scoring metaLookup order lexical vector = .ok hits) :
  ∃ byChunk, Gathered scoring metaLookup (shares scoring lexical vector) byChunk
    ∧ (∀ e ∈ shares scoring lexical vector, (metaLookup e.1).isOk = true)
    ∧ hits = ((order (byChunk.toList.map Prod.snd)).map (hitOf scoring)).insertionSort rankLe
  := by
  rw [mergeCandidates_eq] at h
  cases hadd : addShares scoring metaLookup ∅ (shares scoring lexical vector) with
  | error e =>
    rw [hadd] at h
    cases h
  | ok byChunk =>
    rw [hadd] at h
    cases h
    obtain ⟨hgathered, hknown⟩ := addShares_eq_ok gathered_empty hadd
    exact ⟨byChunk, hgathered, hknown, rfl⟩

omit [Std.Total ((· ≤ ·) : F → F → Prop)] in
theorem exists_mergeCandidates (scoring : Scoring S F) (metaLookup : String → AppResult ChunkMeta)
    (order : List (Interim S) → List (Interim S)) (lexical : List LexicalCandidate)
    (vector : List VectorCandidate)
    (hknown : ∀ e ∈ shares scoring lexical vector, (metaLookup e.1).isOk = true) :
  ∃ hits, mergeCandidates scoring metaLookup order lexical vector = .ok hits
  := by
  obtain ⟨byChunk, hadd⟩ := addShares_isOk scoring ∅ hknown
  rw [mergeCandidates_eq, hadd]
  exact ⟨_, rfl⟩

theorem isRanking_of_ok (horder : ∀ l, (order l).Perm l)
    (h : mergeCandidates scoring metaLookup order lexical vector = .ok hits) :
  IsRanking scoring metaLookup lexical vector hits
  := by
  obtain ⟨byChunk, hgathered, hknown, hhits⟩ := gathered_of_ok h
  exact isRanking_of_gathered hgathered hknown horder hhits

/-- What merging returns: the ranking of the candidates. It is the same in whatever order the map is
read, and the candidates are, if these may be reordered. -/
structure Ranks (scoring : Scoring S F) (metaLookup : String → AppResult ChunkMeta)
    (lexical : List LexicalCandidate) (vector : List VectorCandidate)
    (hits : List (MergedHit F)) : Prop where
  ranking : IsRanking scoring metaLookup lexical vector hits
  stable : ∀ order' lexical' vector', (∀ l, (order' l).Perm l) → lexical.Perm lexical' →
    vector.Perm vector' → Reorderable scoring lexical vector →
      mergeCandidates scoring metaLookup order' lexical' vector' = .ok hits

/-- Whatever the arithmetic of the scores is, as long as any two final scores compare, and whatever
the candidates are: merging that succeeds returns each chunk that was found once and no other one,
with the score its shares add up to, strictly ordered, and the same for every order in which the map
is read and the candidates are listed. -/
theorem merge_candidates_ranks (scoring : Scoring S F)
    (metaLookup : String → AppResult ChunkMeta) (order : List (Interim S) → List (Interim S))
    (lexical : List LexicalCandidate) (vector : List VectorCandidate)
    (hits : List (MergedHit F)) (horder : ∀ l, (order l).Perm l)
    (h : mergeCandidates scoring metaLookup order lexical vector = .ok hits) :
  Ranks scoring metaLookup lexical vector hits
  := by
  have hranking := isRanking_of_ok horder h
  obtain ⟨byChunk, -, hknown, -⟩ := gathered_of_ok h
  use hranking
  intro order' lexical' vector' horder' hlexical hvector hreorder
  have hknown' : ∀ e ∈ shares scoring lexical' vector', (metaLookup e.1).isOk = true := by
    intro e he
    exact hknown e (((hlexical.map _).append (hvector.map _)).mem_iff.mpr he)
  obtain ⟨hits', hok⟩ := exists_mergeCandidates scoring metaLookup order' lexical' vector' hknown'
  rw [hok, hranking.unique (isRanking_of_ok horder' hok)
    (combine_shares_perm hreorder hlexical hvector)]

/-- Two chunks of one document, of which one is found twice. -/
def Sample.chunkMeta (chunkId : String) : AppResult Retrieval.ChunkMeta :=
  .ok ("document", if chunkId = "first" then 0 else 1, "notes", 0)

def Sample.retrievalConfig : RetrievalConfigV1 where
  rrfK := 60
  wLex := 1
  wVec := 1
  recency := { enabled := true, windowDays := 365, maxBoost := 1 / 5 }

theorem merge_candidates_ranks_twice :
  ∃ hits, mergeCandidates (exactScoring Sample.retrievalConfig 1000) Sample.chunkMeta id
      [⟨"first", 1⟩, ⟨"second", 2⟩] [⟨"second", 1⟩] = .ok hits
    ∧ Ranks (exactScoring Sample.retrievalConfig 1000) Sample.chunkMeta
      [⟨"first", 1⟩, ⟨"second", 2⟩] [⟨"second", 1⟩] hits
  := by
  have hok : mergeCandidates (exactScoring Sample.retrievalConfig 1000) Sample.chunkMeta id
      [⟨"first", 1⟩, ⟨"second", 2⟩] [⟨"second", 1⟩] = .ok _ := rfl
  exact ⟨_, hok, merge_candidates_ranks _ _ id _ _ _ (fun l => List.Perm.refl l) hok⟩

end Retrieval

end KnowledgeCore
