import TagCheck.Json.Writer
import TagCheck.Main
import TagCheck.Proofs.Body
import TagCheck.Proofs.Composition
import TagCheck.Proofs.Declarations
import TagCheck.Proofs.DirectAncestor
import TagCheck.Proofs.Excerpt
import TagCheck.Proofs.FirstOfEach
import TagCheck.Proofs.Grammar
import TagCheck.Proofs.KnownNames
import TagCheck.Proofs.Locality
import TagCheck.Proofs.Malformed
import TagCheck.Proofs.Memory
import TagCheck.Proofs.Merging
import TagCheck.Proofs.Mismatch
import TagCheck.Proofs.MissingSignature
import TagCheck.Proofs.NearestDefinition
import TagCheck.Proofs.Nilable
import TagCheck.Proofs.Objection
import TagCheck.Proofs.Position
import TagCheck.Proofs.Precedence
import TagCheck.Proofs.Reload
import TagCheck.Proofs.Rendering
import TagCheck.Proofs.Resolution
import TagCheck.Proofs.ReturnTag
import TagCheck.Proofs.RoundTrip
import TagCheck.Proofs.SameName
import TagCheck.Proofs.Signature
import TagCheck.Proofs.Surplus
import TagCheck.Proofs.Termination
import TagCheck.Proofs.Unfamiliar
import TagCheck.Proofs.Unresolved
import TagCheck.Snapshot.Builder
import TagCheck.Snapshot.Encoder
