import SiteFabric.Core.Claims
import SiteFabric.Authority.Refusals
import SiteFabric.Authority.Election
import SiteFabric.Authority.Publications
import SiteFabric.Compose.Determinism
import SiteFabric.Compose.Totality
import SiteFabric.Compose.Current
import SiteFabric.Codec.Records
import SiteFabric.Codec.Sites
import SiteFabric.Store.Damage
import SiteFabric.Store.Failures
import SiteFabric.Controller.Demotion
import SiteFabric.Controller.Connections
import SiteFabric.Controller.Compacting
import SiteFabric.Controller.Restart
import SiteFabric.Controller.Interleaving
import SiteFabric.Store.Bounds
import SiteFabric.Controller.Envelopes
import SiteFabric.Protocol.RoundTrip
import SiteFabric.Controller.Epochs
import SiteFabric.Controller.Acceptance
import SiteFabric.Compose.Rejected
import SiteFabric.Compose.Reference
import SiteFabric.Compose.Derived
import SiteFabric.Controller.History
import SiteFabric.Protocol.Canonicity
import SiteFabric.Codec.Sealed
import SiteFabric.Store.Exactness
import SiteFabric.Authority.Takeover
import SiteFabric.Compose.Closing
import SiteFabric.Compose.Winners
import SiteFabric.Compose.Disagreement
import SiteFabric.Controller.Composing
import SiteFabric.Controller.Overtaking
import SiteFabric.Controller.Duplicates
import SiteFabric.Controller.Losses
import SiteFabric.Compose.Speakers
import SiteFabric.Compose.Partitions
import SiteFabric.Compose.Unions
import SiteFabric.Compose.Floors
import SiteFabric.Core.Rearranged
import SiteFabric.Compose.Explained
import SiteFabric.Compose.Deficits
import SiteFabric.Authority.Revocation
import SiteFabric.Authority.Grants
import SiteFabric.Authority.Sequences
import SiteFabric.Controller.Retirement
import SiteFabric.Protocol.Frames
import SiteFabric.Store.Digests
import SiteFabric.Core.Aggregation
import SiteFabric.Core.Conformance
import SiteFabric.Core.Provenance
import SiteFabric.Compose.Reports
import SiteFabric.Core.KeyText
import SiteFabric.Controller.Reads
import SiteFabric.Publisher.Agreement
