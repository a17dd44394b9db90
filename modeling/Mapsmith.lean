import Mapsmith.Main
import Mapsmith.Directive.Declaration
import Mapsmith.Interchange.Encode
import Mapsmith.Projection
import Mapsmith.Text.Truth
import Mapsmith.Proofs.PublicRoutines
import Mapsmith.Proofs.Importable
import Mapsmith.Proofs.Session
import Mapsmith.Proofs.Workers
import Mapsmith.Proofs.Containment
import Mapsmith.Proofs.Legality
import Mapsmith.Proofs.PrivateMappings
import Mapsmith.Proofs.References
import Mapsmith.Proofs.Routing
import Mapsmith.Proofs.Places
import Mapsmith.Proofs.Verdicts
import Mapsmith.Proofs.Roots
import Mapsmith.Proofs.Closure
import Mapsmith.Proofs.Renames
import Mapsmith.Proofs.Recency
import Mapsmith.Proofs.Rows
import Mapsmith.Proofs.Spellings
import Mapsmith.Proofs.Scopes
import Mapsmith.Proofs.Respelling
import Mapsmith.Proofs.Fingerprints
import Mapsmith.Proofs.Writing
