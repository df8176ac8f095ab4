import KnowledgeCore.Ask.Service

/-!
# What is cited resolves

Whatever a provider answers, what is returned of it cites the text of documents: each locator
resolves, and there is one in every paragraph that is cited. The trace file of the answer has the
same citations, in the same order, beside the contexts that the provider was given.
-/

namespace KnowledgeCore

namespace Ask

open Locator (resolveLocatorStrict)
open Retrieval

/-! ### Checks -/

theorem forM_eq_ok {α : Type} {f : α → AppResult Unit} {l : List α} :
  forM l f = .ok () ↔ ∀ a ∈ l, f a = .ok ()
  := by
  induction l with
  | nil => simp [pure, Except.pure]
  | cons a l ih =>
    rw [List.forM_cons, AppResult.bind_eq_ok, List.forall_mem_cons, ← ih]
    constructor
    · rintro ⟨⟨⟩, ha, hl⟩
      exact ⟨ha, hl⟩
    · rintro ⟨ha, hl⟩
      exact ⟨(), ha, hl⟩

theorem forall₂_of_mapM {α β : Type} {f : α → AppResult β} {l : List α} {l' : List β}
    (h : l.mapM f = .ok l') :
  List.Forall₂ (fun a b => f a = .ok b) l l'
  := by
  induction l generalizing l' with
  | nil =>
    rw [List.mapM_nil] at h
    cases h
    exact List.Forall₂.nil
  | cons a l ih =>
    simp only [List.mapM_cons, AppResult.bind_eq_ok] at h
    obtain ⟨b, hb, bs, hbs, h⟩ := h
    cases h
    exact List.Forall₂.cons hb (ih hbs)

/-- Citations that pass the checks: there are some, and each is of a paragraph and cites locators
of the first version. -/
theorem validateCitations_eq_ok {citations : Citations} :
  validateCitations citations = .ok ()
    ↔ citations ≠ [] ∧ ∀ citation ∈ citations, 0 ≤ citation.1 ∧ citation.2 ≠ []
      ∧ ∀ locator ∈ citation.2, locator.v = 1
  := by
  have hlocator (paragraph : Int64) (locator : CitedLocator) :
      validateLocator paragraph locator = .ok () ↔ locator.v = 1 := by
    rw [validateLocator]
    split <;> simp_all
  have hcitation (citation : Int64 × List CitedLocator) : validateCitation citation = .ok ()
      ↔ 0 ≤ citation.1 ∧ citation.2 ≠ [] ∧ ∀ locator ∈ citation.2, locator.v = 1 := by
    rw [validateCitation]
    split
    · next h => simp [Int64.not_le.mpr h]
    · next h =>
      split
      · next hnone => simp [hnone]
      · next hsome => simp [forM_eq_ok, hlocator, hsome, Int64.not_lt.mp h]
  rw [validateCitations]
  split
  · next h => simp [h]
  · next h => simp [forM_eq_ok, hcitation, h]

/-! ### The order of the citations -/

theorem pairwise_sortLocatorList (locators : List CitedLocator) :
  (sortLocatorList locators).Pairwise fun a b => locatorKey a ≤ locatorKey b
  := by
  have htotal := Sorting.total_key locatorKey
  have htrans := Sorting.isTrans_key locatorKey
  exact List.pairwise_insertionSort _ _

theorem pairwise_normalizeCitations (citations : Citations) :
  (normalizeCitations citations).Pairwise fun a b => citationKey a ≤ citationKey b
  := by
  have htotal := Sorting.total_key citationKey
  have htrans := Sorting.isTrans_key citationKey
  exact List.pairwise_insertionSort _ _

theorem normalizeCitations_perm (citations : Citations) :
  (normalizeCitations citations).Perm
    (citations.map fun citation => (citation.1, sortLocatorList citation.2))
  := List.perm_insertionSort _ _

theorem mem_normalizeCitations {citations : Citations} {citation : Int64 × List CitedLocator} :
  citation ∈ normalizeCitations citations
    ↔ ∃ given ∈ citations, (given.1, sortLocatorList given.2) = citation
  := by
  rw [(normalizeCitations_perm citations).mem_iff, List.mem_map]

/-- The lists of normalized citations are sorted. -/
theorem pairwise_of_mem_normalizeCitations {citations : Citations}
    {citation : Int64 × List CitedLocator} (h : citation ∈ normalizeCitations citations) :
  citation.2.Pairwise fun a b => locatorKey a ≤ locatorKey b
  := by
  obtain ⟨given, -, rfl⟩ := mem_normalizeCitations.mp h
  apply pairwise_sortLocatorList

/-- Normalized citations stay as they are when they are sorted again. -/
theorem normalizeCitations_normalizeCitations (citations : Citations) :
  normalizeCitations (normalizeCitations citations) = normalizeCitations citations
  := by
  have hsame : (normalizeCitations citations).map
      (fun citation => (citation.1, sortLocatorList citation.2)) = normalizeCitations citations := by
    nth_rewrite 2 [← List.map_id (normalizeCitations citations)]
    apply List.map_congr_left
    intro citation h
    rw [sortLocatorList, (pairwise_of_mem_normalizeCitations h).insertionSort_eq]
    rfl
  rw [normalizeCitations.eq_def (normalizeCitations citations), hsame,
    (pairwise_normalizeCitations citations).insertionSort_eq]

/-! ### What is returned -/

variable {S F : Type} {env : AskEnv S F} {db : Db} {files : Files}

/-- What locators resolve to. -/
def AskEnv.Resolves (env : AskEnv S F) (db : Db) (files : Files) (locator : CitedLocator)
    (text : String) : Prop :=
  resolveLocatorStrict env.ext db env.store files locator.toLocatorV1 = .ok text

/-- Citations of text: there are some, each is of a paragraph and cites something, and what it
cites resolves. They are in the order of the paragraphs, and of the documents within one. -/
structure Cited (env : AskEnv S F) (db : Db) (files : Files) (citations : Citations) : Prop where
  nonempty : citations ≠ []
  paragraph : ∀ citation ∈ citations, 0 ≤ citation.1 ∧ citation.2 ≠ []
  resolves : ∀ citation ∈ citations, ∀ locator ∈ citation.2, ∃ text,
    env.Resolves db files locator text
  ordered : citations.Pairwise fun a b => citationKey a ≤ citationKey b
  orderedEach : ∀ citation ∈ citations, citation.2.Pairwise fun a b => locatorKey a ≤ locatorKey b

/-- Citations that differ in their order, and in the order of what each of them cites. -/
def Reordered (citations citations' : Citations) : Prop :=
  ∃ between, List.Forall₂ (fun a b => a.1 = b.1 ∧ a.2.Perm b.2) citations between
    ∧ between.Perm citations'

theorem reordered_normalizeCitations (citations : Citations) :
  Reordered citations (normalizeCitations citations)
  := by
  use citations.map fun citation => (citation.1, sortLocatorList citation.2)
  constructor
  · rw [List.forall₂_map_right_iff, List.forall₂_same]
    intro citation _
    exact ⟨rfl, (List.perm_insertionSort _ _).symm⟩
  · exact (normalizeCitations_perm citations).symm

theorem resolveCitations_eq_ok {citations : Citations} :
  resolveCitations env db files citations = .ok ()
    ↔ ∀ citation ∈ citations, ∀ locator ∈ citation.2, ∃ text, env.Resolves db files locator text
  := by
  have hresolve (locator : CitedLocator) :
      (do
        let _ ← resolveLocatorStrict env.ext db env.store files locator.toLocatorV1
        .ok () : AppResult Unit) = .ok () ↔ ∃ text, env.Resolves db files locator text := by
    simp [AppResult.bind_eq_ok, AskEnv.Resolves]
  simp only [resolveCitations, List.forM_eq_forM, forM_eq_ok, hresolve]

/-- What resolves and passes the checks is cited. -/
theorem cited_normalizeCitations {citations : Citations}
    (hresolve : resolveCitations env db files citations = .ok ())
    (hvalid : validateCitations (normalizeCitations citations) = .ok ()) :
  Cited env db files (normalizeCitations citations)
  := by
  obtain ⟨hsome, heach⟩ := validateCitations_eq_ok.mp hvalid
  constructor
  · exact hsome
  · intro citation h
    exact ⟨(heach citation h).1, (heach citation h).2.1⟩
  · intro citation h locator hlocator
    obtain ⟨given, hgiven, rfl⟩ := mem_normalizeCitations.mp h
    apply resolveCitations_eq_ok.mp hresolve given hgiven
    exact (List.perm_insertionSort _ _).subset hlocator
  · apply pairwise_normalizeCitations
  · intro citation h
    exact pairwise_of_mem_normalizeCitations h

/-- A chunk is of the document that its metadata names. -/
theorem docId_of_loadChunk {index : ChunkIndex} {chunkId docId sourceKind : String}
    {chunk : ChunkRow} {row : CanonicalTextRow} {ordinal effectiveTsMs : Int64}
    (hchunk : loadChunk index db chunkId = .ok (chunk, row))
    (hmeta : chunkMeta index db chunkId = .ok (docId, ordinal, sourceKind, effectiveTsMs)) :
  chunk.docId = docId
  := by
  simp only [loadChunk, chunkMeta, okOrElse_eq_ok, Option.bind_eq_bind, Option.bind_eq_some_iff,
    Option.some.injEq, Prod.mk.injEq] at hchunk hmeta
  obtain ⟨_, hrow, _, -, rfl, rfl⟩ := hchunk
  obtain ⟨_, hrow', _, -, rfl, -⟩ := hmeta
  rw [hrow] at hrow'
  cases hrow'
  rfl

theorem loadContext_eq_ok {hit : MergedHit F} {context : RetrievedContext F} :
  loadContext env db files hit = .ok context
    ↔ ∃ chunk row text, loadChunk env.index db hit.chunkId = .ok (chunk, row)
      ∧ readText env.ext env.store files chunk row = .ok text
      ∧ context.locator = chunkLocator chunk row text
      ∧ env.Resolves db files context.locator context.snippet
      ∧ context.chunkId = hit.chunkId ∧ context.ordinal = hit.ordinal
      ∧ context.finalScore = hit.finalScore
  := by
  obtain ⟨chunkId, ordinal, finalScore, locator, snippet⟩ := context
  simp only [loadContext, AppResult.bind_eq_ok, Prod.exists, Except.ok.injEq,
    RetrievedContext.mk.injEq, AskEnv.Resolves]
  constructor
  · rintro ⟨chunk, row, hchunk, text, htext, snippet', hsnippet, rfl, rfl, rfl, rfl, rfl⟩
    exact ⟨chunk, row, text, hchunk, htext, rfl, hsnippet, rfl, rfl, rfl⟩
  · rintro ⟨chunk, row, text, hchunk, htext, rfl, hsnippet, rfl, rfl, rfl⟩
    exact ⟨chunk, row, hchunk, text, htext, snippet, hsnippet, rfl, rfl, rfl, rfl, rfl⟩

section Offering

variable [Preorder F] {req : AskRequest} {recencyEnabled : Bool}
  {contexts : List (RetrievedContext F)}

/-- What a provider is given: the five best of the ranking of the candidates, each with the part of
the text of its document that its locator resolves to. -/
structure Offered (env : AskEnv S F) (db : Db) (files : Files) (req : AskRequest)
    (recencyEnabled : Bool) (contexts : List (RetrievedContext F)) : Prop where
  best : ∃ hits, IsRanking (env.scoring (retrievalCfg recencyEnabled) req.nowMs)
      (chunkMeta env.index db) (lexicalCandidates env.index db req.question 32) [] hits
    ∧ List.Forall₂ (fun hit context => context.chunkId = hit.chunkId
        ∧ context.locator.docId = hit.docId ∧ context.ordinal = hit.ordinal
        ∧ context.finalScore = hit.finalScore)
      (hits.take 5) contexts
  read : ∀ context ∈ contexts, env.Resolves db files context.locator context.snippet

/-- The contexts that are loaded are the best of the ranking. -/
theorem offered_of_loadContexts [DecidableLE F] [DecidableLT F]
    [Std.Total ((· ≤ ·) : F → F → Prop)] (horder : ∀ l, (env.order l).Perm l)
    (h : loadContexts env db files req recencyEnabled = .ok contexts) :
  Offered env db files req recencyEnabled contexts
  := by
  obtain ⟨hits, hranking, hcontexts⟩ : ∃ hits, IsRanking
      (env.scoring (retrievalCfg recencyEnabled) req.nowMs) (chunkMeta env.index db)
      (lexicalCandidates env.index db req.question 32) [] hits
      ∧ (hits.take 5).mapM (loadContext env db files) = .ok contexts := by
    cases hlexical : lexicalCandidates env.index db req.question 32 with
    | nil =>
      rw [loadContexts, hlexical] at h
      cases h
      use []
      constructor
      · constructor <;> simp [shares, Gathering.combine]
      · rfl
    | cons candidate candidates =>
      rw [loadContexts, hlexical] at h
      obtain ⟨hits, hmerged, hcontexts⟩ := AppResult.bind_eq_ok.mp h
      use hits, isRanking_of_ok horder hmerged
  have hloaded := forall₂_of_mapM hcontexts
  constructor
  · use hits, hranking
    have hranked : ∀ hit ∈ hits.take 5, hit ∈ hits := fun hit => List.mem_of_mem_take
    apply ((List.forall₂_and_left _ _).mpr ⟨hranked, hloaded⟩).imp
    rintro hit context ⟨hhit, hcontext⟩
    obtain ⟨chunk, row, text, hchunk, -, hlocator, -, hid, hordinal, hscore⟩ :=
      loadContext_eq_ok.mp hcontext
    obtain ⟨_, _, _, hmeta, -⟩ := (hranking.scored hit).mp hhit
    refine ⟨hid, ?_, hordinal, hscore⟩
    rw [hlocator]
    exact docId_of_loadChunk hchunk hmeta
  · have hread : List.Forall₂ (fun context _ => env.Resolves db files context.locator context.snippet
        ∧ True) contexts (hits.take 5) := by
      apply List.Forall₂.flip
      apply hloaded.imp
      intro hit context hcontext
      obtain ⟨_, _, _, -, -, -, hresolves, -⟩ := loadContext_eq_ok.mp hcontext
      exact ⟨hresolves, trivial⟩
    exact ((List.forall₂_and_left _ _).mp hread).1

/-! ### Answers -/

/-- What is kept of an answer: one trace file is written, with the citations of the answer beside
the contexts it was given from. -/
def Traced (env : AskEnv S F) (req : AskRequest) (contexts : List (RetrievedContext F))
    (response : AskResponse) (traces traces' : Table Json) : Prop :=
  ∃ trace, traces' = traces.insert response.tracePath trace
    ∧ trace.get "question" = some (.str req.question)
    ∧ (trace.get "retrieval").bind (·.get "chunks") = some (.arr (contexts.map (contextJson env)))
    ∧ (trace.get "retrieval").bind (·.get "citations") = some (citationsJson response.citations)
    ∧ (trace.get "answer").bind (·.get "text") = some (.str response.answerText)

/-- An answer of a provider that is returned: the provider was given contexts, what is cited of its
answer resolves, and is what it has cited, and both are kept. -/
structure Answered (env : AskEnv S F) (service : RetrievedOnlyAskService F) (req : AskRequest)
    (recencyEnabled : Bool) (db : Db) (files : Files) (contexts : List (RetrievedContext F))
    (answer : ProviderAnswer) (response : AskResponse) (traces traces' : Table Json) : Prop where
  nonempty : contexts ≠ []
  offered : Offered env db files req recencyEnabled contexts
  provided : service.provider req.question contexts = .ok answer
  text : response.answerText = answer.answerText
  reordered : Reordered answer.citations response.citations
  cited : Cited env db files response.citations
  traced : Traced env req contexts response traces traces'

variable {service : RetrievedOnlyAskService F} {faults : TraceFaults} {traceId : String}
  {m m' : Machine} {traces traces' : Table Json} {response : AskResponse}

omit [Preorder F] in
theorem writeTraceLog_eq_ok {traceDir path : String} {trace : TraceLogV1} {citations : Citations} :
  writeTraceLog faults traceDir trace citations traces = .ok (path, traces')
    ↔ faults.createDir = none ∧ faults.write = none
      ∧ path = PathBuf.join traceDir (trace.traceId ++ ".json")
      ∧ traces' = traces.insert path (traceJson trace (normalizeCitations citations))
  := by
  obtain ⟨createDir, write⟩ := faults
  cases createDir with
  | some error => simp [writeTraceLog]
  | none =>
    cases write with
    | some error => simp [writeTraceLog]
    | none =>
      simp only [writeTraceLog, Except.ok.injEq, Prod.mk.injEq, true_and]
      constructor
      · rintro ⟨rfl, rfl⟩
        exact ⟨rfl, rfl⟩
      · rintro ⟨rfl, rfl⟩
        exact ⟨rfl, rfl⟩

omit [Preorder F] in
/-- What is finalized passes the checks, and is what the trace file has. -/
theorem finalizeAnswer_eq_ok {answerText : String} {citations : Citations}
    (h : finalizeAnswerWithRetrieval env service faults traceId req answerText citations
      (retrievalJson env contexts) m traces = .ok (response, traces')) :
  validateCitations (normalizeCitations citations) = .ok ()
    ∧ response.answerText = answerText ∧ response.citations = normalizeCitations citations
    ∧ Traced env req contexts response traces traces'
  := by
  simp only [finalizeAnswerWithRetrieval, AppResult.bind_eq_ok, Prod.exists, writeTraceLog_eq_ok,
    Except.ok.injEq, Prod.mk.injEq] at h
  obtain ⟨⟨⟩, hvalid, vault, -, path, _, ⟨-, -, hpath, rfl⟩, rfl, rfl⟩ := h
  refine ⟨hvalid, rfl, rfl, _, rfl, rfl, rfl, ?_, rfl⟩
  rw [normalizeCitations_normalizeCitations]
  rfl

variable [DecidableLE F] [DecidableLT F] [Std.Total ((· ≤ ·) : F → F → Prop)]

/-- Whatever the provider answers, and whatever the arithmetic of the scores and the index are: an
answer that is returned is one to the best contexts of the ranking, cites them or other text by
locators that all resolve, in order, and the trace file of it has just what is returned. -/
theorem answers_cite_what_resolves (env : AskEnv S F) (service : RetrievedOnlyAskService F)
    (faults : TraceFaults) (traceId : String) (req : AskRequest) (m m' : Machine)
    (traces traces' : Table Json) (response : AskResponse) (horder : ∀ l, (env.order l).Perm l)
    (h : ask env service faults traceId req m traces = .ok (response, m', traces')) :
  ∃ vault file contexts answer, Ingest.openVault env.ext env.host m.vault = .ok (vault, file)
    ∧ m' = Ingest.opened m vault file
    ∧ Answered env service req vault.defaults.recencyEnabled file.db m'.files contexts answer
      response traces traces'
  := by
  rw [ask, AppResult.bind_eq_ok] at h
  obtain ⟨⟨vault, file⟩, hopen, h⟩ := h
  rw [AppResult.bind_eq_ok] at h
  obtain ⟨contexts, hcontexts, h⟩ := h
  split_ifs at h with hnone
  simp only [AppResult.bind_eq_ok, Prod.exists, Except.ok.injEq, Prod.mk.injEq] at h
  obtain ⟨answer, hanswer, ⟨⟩, hresolve, response, traces', hfinal, rfl, rfl, rfl⟩ := h
  obtain ⟨hvalid, htext, hcitations, htraced⟩ := finalizeAnswer_eq_ok hfinal
  refine ⟨vault, file, contexts, answer, hopen, rfl, ?_⟩
  constructor
  · simpa using hnone
  · exact offered_of_loadContexts horder hcontexts
  · exact hanswer
  · exact htext
  · rw [hcitations]
    apply reordered_normalizeCitations
  · rw [hcitations]
    exact cited_normalizeCitations hresolve hvalid
  · exact htraced

end Offering

/-- A document of one letter, which is its only chunk. -/
def Sample.letterDb : Db where
  __ := Sample.documentDb
  canonicalText := (∅ : Table CanonicalTextRow).insert "document" {
    canonicalObjectHash := Sample.objectHash
    canonicalHash := "canonical"
    extractorName := "text"
    extractorVersion := "1"
    extractorFlagsJson := "{}"
    normalizationVersion := 1
    toolchainJson := "{}"
    createdEventId := 1 }

def Sample.letterMachine : Machine where
  vault := Sample.vault Sample.letterDb []
  files := (∅ : Files).insert ("/vault/store/objects/3f/" ++ Sample.objectHash) [65]

def Sample.askEnv : AskEnv ℚ ℚ where
  ext := Sample.ext
  host := Sample.host
  index := {
    chunks := (∅ : Table ChunkRow).insert "chunk" ⟨"document", 0, 0, 9⟩
    chunksFts := none }
  scoring := exactScoring
  order := id
  scoreJson score := .int score.num

def Sample.askService : RetrievedOnlyAskService ℚ where
  traceDirName := "trace"
  provider := DeterministicAskProvider

theorem answers_cite_what_resolves_letter :
  ∃ response m' traces' recencyEnabled db contexts answer,
    ask Sample.askEnv Sample.askService ⟨none, none⟩ "trace-1" ⟨"What?", 1000⟩
      Sample.letterMachine ∅ = .ok (response, m', traces')
    ∧ Answered Sample.askEnv Sample.askService ⟨"What?", 1000⟩ recencyEnabled db
      m'.files contexts answer response ∅ traces'
  := by
  obtain ⟨⟨response, m', traces'⟩, hok⟩ := exists_of_isOk
    (show (ask Sample.askEnv Sample.askService ⟨none, none⟩ "trace-1" ⟨"What?", 1000⟩
      Sample.letterMachine ∅).isOk = true by decide +kernel)
  obtain ⟨vault, file, contexts, answer, -, -, hanswered⟩ := answers_cite_what_resolves
    Sample.askEnv Sample.askService ⟨none, none⟩ "trace-1" ⟨"What?", 1000⟩ Sample.letterMachine m'
    ∅ traces' response (fun l => List.Perm.refl l) hok
  exact ⟨response, m', traces', _, file.db, contexts, answer, hok, hanswered⟩

end Ask

end KnowledgeCore
