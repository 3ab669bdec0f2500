import JsonReference.Digest
import JsonReference.Tree
import JsonReference.Cache.Callers
import JsonReference.Config
import JsonReference.RefSite
import JsonReference.Main
import JsonReference.Proofs.Tree.Walk
import JsonReference.Proofs.RefChain.Loops
import JsonReference.Proofs.RefChain.Landing
import JsonReference.Proofs.Uri.Standard
import JsonReference.Proofs.Loader.Absolute
import JsonReference.Proofs.Reference.Archive
import JsonReference.Proofs.Tree.Ids
import JsonReference.Proofs.Tree.Nearest
import JsonReference.Proofs.Json.Paths
import JsonReference.Proofs.RefChain.Route
import JsonReference.Proofs.RefChain.OneDocument
import JsonReference.Proofs.Reference.Confined
import JsonReference.Proofs.Cache.Recency
import JsonReference.Proofs.Tree.Strategies
import JsonReference.Proofs.Cache.Ideal
import JsonReference.Proofs.Cache.Distinct
import JsonReference.Proofs.Cache.Gates
import JsonReference.Proofs.Cache.SingleFlight
import JsonReference.Proofs.Loader.Redirected
import JsonReference.Proofs.Loader.Pinned
import JsonReference.Proofs.Reference.Printed
import JsonReference.Proofs.Uri.Climbs
import JsonReference.Proofs.Reference.Alike
import JsonReference.Proofs.Config.WellFormed
import JsonReference.Proofs.Pointer.Grammar
import JsonReference.Proofs.Uri.Extended
import JsonReference.Proofs.Config.Rewritten
import JsonReference.Proofs.Config.Building
import JsonReference.Proofs.RefSite.Search
import JsonReference.Proofs.Config.Targets
import JsonReference.Proofs.RefChain.Bound
import JsonReference.Proofs.Command.Agreement
import JsonReference.Proofs.Pointer.Nodes
import JsonReference.Proofs.Uri.Grammar
import JsonReference.Proofs.Json.Numbers
import JsonReference.Proofs.Tree.Undoing
import JsonReference.Proofs.Tree.Located
import JsonReference.Proofs.Cache.Leftover
