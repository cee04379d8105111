import ScopedAccess.Main
import ScopedAccess.Report
import ScopedAccess.Proofs.Decision
import ScopedAccess.Proofs.RelationshipSide
import ScopedAccess.Proofs.Text
import ScopedAccess.Proofs.Catalog
import ScopedAccess.Proofs.FilterGrammar
import ScopedAccess.Proofs.RelationNaming
import ScopedAccess.Proofs.AttributeSide
import ScopedAccess.Proofs.Engine
import ScopedAccess.Proofs.Interruption
import ScopedAccess.Proofs.Degradation
import ScopedAccess.Proofs.Queries
import ScopedAccess.Proofs.Instance
import ScopedAccess.Proofs.Session
import ScopedAccess.Proofs.EventQueue
import ScopedAccess.Proofs.Outcome
import ScopedAccess.Proofs.Shadow
import ScopedAccess.Proofs.Query
import ScopedAccess.Proofs.Events
import ScopedAccess.Proofs.Outages
import ScopedAccess.Proofs.PolicyHistory
import ScopedAccess.Proofs.Rollout
import ScopedAccess.Proofs.Deployment
import ScopedAccess.Proofs.Ramp
import ScopedAccess.Proofs.CacheHistory
import ScopedAccess.Proofs.Invalidation
import ScopedAccess.Proofs.Configuration
import ScopedAccess.Proofs.Spelling
import ScopedAccess.Proofs.Directory
import ScopedAccess.Proofs.Refresher
import ScopedAccess.Proofs.Freshness
import ScopedAccess.Proofs.PermissionRoundTrip
import ScopedAccess.Proofs.Targeting
import ScopedAccess.Proofs.JsonText
import ScopedAccess.Proofs.DurationText
import ScopedAccess.Proofs.Codec
import ScopedAccess.Proofs.ConfigRoundTrip
import ScopedAccess.Proofs.ResultRoundTrip
import ScopedAccess.Proofs.Listing
import ScopedAccess.Proofs.Agreement
import ScopedAccess.Proofs.Comparison
