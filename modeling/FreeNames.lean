import FreeNames.Batch
import FreeNames.Tree.Mention
import FreeNames.Proofs.Lookup
import FreeNames.Proofs.Tree
import FreeNames.Proofs.References
import FreeNames.Proofs.Insertions
import FreeNames.Proofs.Numbers
import FreeNames.Proofs.Splice
import FreeNames.Proofs.Unit
import FreeNames.Proofs.Rebuild
import FreeNames.Proofs.Counts
import FreeNames.Proofs.Passes
import FreeNames.Proofs.Chains
import FreeNames.Proofs.Census
import FreeNames.Proofs.Layers
import FreeNames.Proofs.Reread
import FreeNames.Proofs.CacheHistory
import FreeNames.Proofs.Membership
import FreeNames.Proofs.Coherence
import FreeNames.Proofs.Run
import FreeNames.Proofs.UserNames
import FreeNames.Proofs.Targets
import FreeNames.Proofs.SharedCache
import FreeNames.Proofs.Decoders
import FreeNames.Proofs.SelfInitializer
import FreeNames.Proofs.Checks
import FreeNames.Proofs.OwnNames
import FreeNames.Proofs.Members
import FreeNames.Proofs.Listings
import FreeNames.Proofs.Contributions
import FreeNames.Proofs.Anchors
import FreeNames.Proofs.Assertions
import FreeNames.Proofs.Discovery
import FreeNames.Proofs.Nesting
