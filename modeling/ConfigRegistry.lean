import ConfigRegistry.Json.Value
import ConfigRegistry.Main
import ConfigRegistry.Proofs.Callers
import ConfigRegistry.Proofs.Contents
import ConfigRegistry.Proofs.Operated
import ConfigRegistry.Proofs.Orphans
import ConfigRegistry.Proofs.Replay
import ConfigRegistry.Proofs.SoleOwner
import ConfigRegistry.Proofs.Success
import ConfigRegistry.Store.Remote
import ConfigRegistry.Proofs.ClientKeys
import ConfigRegistry.Proofs.Calls
import ConfigRegistry.Proofs.Courses
import ConfigRegistry.Proofs.Gating
import ConfigRegistry.Proofs.Namespaces
import ConfigRegistry.Proofs.Visitors
import ConfigRegistry.Proofs.LostReplies
import ConfigRegistry.Proofs.Spelling
import ConfigRegistry.Proofs.Carrying
import ConfigRegistry.Proofs.ItemCodec
import ConfigRegistry.Proofs.StoredItems
import ConfigRegistry.Proofs.Filing
import ConfigRegistry.Proofs.Minding
import ConfigRegistry.Proofs.Solitary
import ConfigRegistry.Proofs.Aside
import ConfigRegistry.Proofs.Beside
import ConfigRegistry.Proofs.FirstUse
import ConfigRegistry.Proofs.Library
import ConfigRegistry.Proofs.Shelving
import ConfigRegistry.Proofs.Attending
import ConfigRegistry.Proofs.Evictions
import ConfigRegistry.Proofs.Clients
import ConfigRegistry.Proofs.GroupEdits
import ConfigRegistry.Store.Wire
import ConfigRegistry.Proofs.Wire
import ConfigRegistry.Proofs.Backends
import ConfigRegistry.Proofs.Persistence
import ConfigRegistry.Proofs.Settlements
import ConfigRegistry.Proofs.Removals
import ConfigRegistry.Proofs.NamedLabels
import ConfigRegistry.Proofs.Refusals
import ConfigRegistry.Proofs.Acceptance
import ConfigRegistry.Proofs.Sightings
import ConfigRegistry.Proofs.Sweeps
import ConfigRegistry.Proofs.Assembly
import ConfigRegistry.Proofs.Attempts
import ConfigRegistry.Proofs.Lifetimes
