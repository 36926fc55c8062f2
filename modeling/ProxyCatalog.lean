import ProxyCatalog.Proxy
import ProxyCatalog.Proofs.Failure
import ProxyCatalog.Proofs.PoolLifecycle
import ProxyCatalog.Proofs.Completeness
import ProxyCatalog.Proofs.Soundness
import ProxyCatalog.Proofs.Drift
import ProxyCatalog.Proofs.Integrity
import ProxyCatalog.Proofs.Release
import ProxyCatalog.Proofs.Restoration
import ProxyCatalog.Proofs.Repair
import ProxyCatalog.Proofs.Rediscovery
import ProxyCatalog.Proofs.Contents
import ProxyCatalog.Proofs.Equivalence
import ProxyCatalog.Proofs.FailedStart
import ProxyCatalog.Proofs.Reproduction
import ProxyCatalog.Proofs.Commutation
import ProxyCatalog.Proofs.Canonical
import ProxyCatalog.Proofs.Repetition
import ProxyCatalog.Proofs.Succession
import ProxyCatalog.Proofs.Spelling
import ProxyCatalog.Proofs.Distribution
import ProxyCatalog.Proofs.Configurations
import ProxyCatalog.Proofs.Turnover
import ProxyCatalog.Proofs.Precedence
import ProxyCatalog.Proofs.Convergence
import ProxyCatalog.Proofs.Conversion
import ProxyCatalog.Proofs.Decomposition
import ProxyCatalog.Proofs.Verdicts
import ProxyCatalog.Proofs.Unanimity
import ProxyCatalog.Proofs.Readability
import ProxyCatalog.Proofs.CachedRows
import ProxyCatalog.Proofs.WrittenForms
import ProxyCatalog.Proofs.MinimalPatch
