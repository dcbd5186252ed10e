import ObjectModel.Session
import ObjectModel.Proofs.Runs.Scripts
import ObjectModel.Proofs.Realms.Shape
import ObjectModel.Proofs.Classes.Routes
import ObjectModel.Proofs.Realms.Isolation
import ObjectModel.Proofs.Runs.Refusal
import ObjectModel.Proofs.Members.Metadata
import ObjectModel.Proofs.Realms.DepthLimit
import ObjectModel.Proofs.Tables.EntryOrder
import ObjectModel.Proofs.Journal.Episodes
import ObjectModel.Proofs.Classes.NameIndex
import ObjectModel.Proofs.Members.Settled
import ObjectModel.Proofs.Members.Writes
import ObjectModel.Proofs.Tables.Snapshots
import ObjectModel.Proofs.Classes.Naming
import ObjectModel.Proofs.Realms.Instances
import ObjectModel.Proofs.Runs.Transparency
import ObjectModel.Proofs.Tables.Tiers
import ObjectModel.Proofs.Classes.Binding
import ObjectModel.Proofs.Chains.Bounds
