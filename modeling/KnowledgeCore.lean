import KnowledgeCore.Sync.Target
import KnowledgeCore.Sync.Overwrite
import KnowledgeCore.Sync.Settled
import KnowledgeCore.Sync.Authorship
import KnowledgeCore.Sync.Rotation
import KnowledgeCore.Sync.Identity
import KnowledgeCore.Sync.SafetyContext
import KnowledgeCore.Objects.Locator
import KnowledgeCore.Objects.ChunkBoundaries
import KnowledgeCore.Objects.ChunkIds
import KnowledgeCore.Objects.ObjectPaths
import KnowledgeCore.Objects.AtRest
import KnowledgeCore.Objects.AllOrNothing
import KnowledgeCore.Objects.Inbox
import KnowledgeCore.Objects.References
import KnowledgeCore.Events.Lookup
import KnowledgeCore.CanonJson
import KnowledgeCore.Extract.Markers
import KnowledgeCore.Hexadecimal
import KnowledgeCore.Lifecycle.Reextraction
import KnowledgeCore.DbCipher.Survival
import KnowledgeCore.Lineage.Exclusion
import KnowledgeCore.Lineage.OverlayId
import KnowledgeCore.Lineage.DenyOverrides
import KnowledgeCore.Federation.Padding
import KnowledgeCore.Governance.ProviderTables
import KnowledgeCore.Governance.ClockSkew
import KnowledgeCore.Governance.Disabling
import KnowledgeCore.Governance.Revocation
import KnowledgeCore.Governance.Tenant
import KnowledgeCore.Sync.Custody
import KnowledgeCore.Operations.Enabling
import KnowledgeCore.Operations.Recovery
import KnowledgeCore.Operations.Atomicity
import KnowledgeCore.Operations.Exported
import KnowledgeCore.Sync.MergeSafety
import KnowledgeCore.Sync.Unpacking
import KnowledgeCore.Sync.Replacement
import KnowledgeCore.Verifier.Exports
import KnowledgeCore.Sync.Clients
import KnowledgeCore.Sync.WriteLock
import KnowledgeCore.Sync.SharedHead
import KnowledgeCore.Lib.Drawing
import KnowledgeCore.Lineage.Query
import KnowledgeCore.Lineage.Drawn
import KnowledgeCore.Lineage.WellFormed
import KnowledgeCore.Lib.Gathering
import KnowledgeCore.Retrieval
import KnowledgeCore.Ask.Service
import KnowledgeCore.Ask.Cited
import KnowledgeCore.Ask.Answering
import KnowledgeCore.Sync.Archives
import KnowledgeCore.Objects.Collecting
import KnowledgeCore.Sync.Failing
import KnowledgeCore.Sync.Rollout
