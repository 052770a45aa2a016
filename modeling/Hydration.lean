import Hydration.Config
import Hydration.Handler.Stock
import Hydration.Hydrate
import Hydration.Proofs.Cache.Convergence
import Hydration.Proofs.Mapper.Soundness
import Hydration.Proofs.Plan.Partition
import Hydration.Proofs.Plan.Winner
import Hydration.Proofs.Session.Agreement
import Hydration.Proofs.Session.Transparency
import Hydration.Proofs.Source.Conservation
import Hydration.Proofs.Tracked.Mapping
import Hydration.Record
import Hydration.Source.Any
import Hydration.Proofs.Handlers
import Hydration.Proofs.Mapper.Contents
import Hydration.Proofs.Plan.Reordering
import Hydration.Proofs.Mapper.Reordering
import Hydration.Proofs.Plan.History
import Hydration.Proofs.Session.Sharing
import Hydration.Proofs.Source.Consumption
import Hydration.Proofs.Session.Consumption
import Hydration.Proofs.Plan.Selection
import Hydration.Proofs.Plan.Needs
import Hydration.Proofs.Mapper.Construction
import Hydration.Proofs.Mapper.Nulls
import Hydration.Proofs.Coercion.Paths
import Hydration.Proofs.Mapper.Failure
import Hydration.Proofs.Plan.Initialised
import Hydration.Proofs.Text.Trimming
import Hydration.Proofs.Enumeration
import Hydration.Proofs.Integer
import Hydration.Proofs.RoundTrip
import Hydration.Proofs.Source.Exhaustion
import Hydration.Proofs.CacheKey
import Hydration.Proofs.Error
import Hydration.Proofs.Plan.Order
import Hydration.Proofs.Tracked.Log
import Hydration.Proofs.Config.Loading
