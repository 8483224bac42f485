import Hookup.Main
import Hookup.Proofs.CaseMapping
import Hookup.Proofs.CanonicalName
import Hookup.Proofs.KeyMap
import Hookup.Proofs.Outcome
import Hookup.Proofs.Wiring
import Hookup.Proofs.ActiveSet
import Hookup.Proofs.Names
import Hookup.Proofs.Walk
import Hookup.Proofs.Starts
import Hookup.Proofs.Entry
import Hookup.Proofs.Resolution
import Hookup.Proofs.Chains
import Hookup.Proofs.Cycles
import Hookup.Proofs.Agreement
import Hookup.Proofs.Narrowing
import Hookup.Proofs.CacheAgreement
import Hookup.Proofs.Maximality
import Hookup.Proofs.Coherence
import Hookup.Proofs.Merging
import Hookup.Proofs.SignalPath
import Hookup.Proofs.Locality
import Hookup.Proofs.StoreQueries
import Hookup.Proofs.Lifetimes
import Hookup.Proofs.Overlap
import Hookup.Proofs.StoreWrites
import Hookup.Proofs.StoreRuns
import Hookup.Proofs.StoreViews
import Hookup.Proofs.CacheFile
import Hookup.Proofs.JsonText
import Hookup.Proofs.JsonRecords
import Hookup.Proofs.Folder
import Hookup.Proofs.CacheUse
import Hookup.Proofs.StrictQueries
import Hookup.Proofs.Batches
import Hookup.Proofs.PartIdentity
import Hookup.Proofs.CacheStrictness
import Hookup.Proofs.Calendar
import Hookup.Proofs.CivilTime
import Hookup.Proofs.AuditLog
import Hookup.Proofs.Rebuilds
import Hookup.Proofs.StrictPorts
import Hookup.Proofs.StartingKeys
import Hookup.Proofs.RedirectDepth
import Hookup.Proofs.Transparency
import Hookup.Proofs.StartingPorts
import Hookup.Proofs.OverlapReports
import Hookup.Proofs.ChainTiming
import Hookup.Proofs.RequestedLabels
import Hookup.Proofs.Listings
import Hookup.Proofs.Contexts
import Hookup.Proofs.Spelling
