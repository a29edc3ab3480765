import Roster.Announcement
import Roster.Api
import Roster.Cluster
import Roster.Config
import Roster.Daemon
import Roster.Digest
import Roster.Entry
import Roster.Ledger
import Roster.Main
import Roster.Migration
import Roster.Node
import Roster.Peer
import Roster.Profile
import Roster.Proofs.Millis
import Roster.Proofs.Fleet.Convergence
import Roster.Proofs.Fleet.Origin
import Roster.Proofs.Fleet.Run
import Roster.Proofs.Node
import Roster.Proofs.Spelling
import Roster.Proofs.Store.LastWrite
import Roster.Proofs.Store.Outdated
import Roster.Proofs.Store.Run
import Roster.Proofs.Store.Version
import Roster.Round
import Roster.Slot
import Roster.Store
import Roster.Trust
import Roster.Wire
import Roster.Proofs.Digest
import Roster.Proofs.Fleet.Agreement
import Roster.Proofs.Fleet.Removal
import Roster.Proofs.Net.Address
import Roster.Proofs.Node.Phase
import Roster.Proofs.Node.Ownership
import Roster.Proofs.Node.Admission
import Roster.Proofs.Store.Eviction
import Roster.Proofs.Json.Numeral
import Roster.Proofs.Json.Form
import Roster.Proofs.Wire
import Roster.Proofs.Fleet.Traffic
import Roster.Proofs.Fleet.Provenance
import Roster.Proofs.Fleet.Expiry
import Roster.Proofs.Node.Interleaving
import Roster.Proofs.Store.Remembered
import Roster.Proofs.Store.Translation
import Roster.Proofs.Api
import Roster.Proofs.Node.Refusal
import Roster.Proofs.Json.Order
import Roster.Proofs.Exchange
import Roster.Proofs.Relay
import Roster.Proofs.Node.Query
import Roster.Proofs.Node.Versions
import Roster.Proofs.Store.Merging
import Roster.Proofs.Cluster
import Roster.Proofs.Round
import Roster.Proofs.Announcement
import Roster.Proofs.Node.Announcing
import Roster.Proofs.Net.Order
import Roster.Proofs.Node.Trusted
import Roster.Proofs.Config
import Roster.Proofs.Node.Configured
import Roster.Proofs.Node.Peers
import Roster.Proofs.Http.Redirection
import Roster.Proofs.Node.Heartbeat
import Roster.Proofs.Node.Offers
import Roster.Proofs.Node.Requesters
import Roster.Proofs.Json.Cut
import Roster.Proofs.Truncation
import Roster.Proofs.Json.Tree
import Roster.Proofs.Json.Interpretation
import Roster.Proofs.Decoding
import Roster.Proofs.Json.Content
import Roster.Proofs.Contact
import Roster.Proofs.Switch
