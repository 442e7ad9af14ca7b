import Redaction.Catalogue
import Redaction.Grammar
import Redaction.Composable
import Redaction.Policy.Condition
import Redaction.Script.Step
import Redaction.Proofs.FirstUse
import Redaction.Proofs.PairedRuns
import Redaction.Proofs.Identifier
import Redaction.Proofs.Identifier.Closure
import Redaction.Proofs.Text.LetterCase
import Redaction.Proofs.Text.TitleCase
import Redaction.Proofs.Text.ByteOrder
import Redaction.Proofs.Text.Quoted
import Redaction.Proofs.Text.JsonString
import Redaction.Proofs.Policy.Canonical
import Redaction.Proofs.Spec.Grammar
import Redaction.Proofs.Spec.RoundTrip
import Redaction.Proofs.Spec.Classification
import Redaction.Proofs.Spec.Listing
import Redaction.Proofs.Similarity
import Redaction.Proofs.Similarity.Construction
import Redaction.Proofs.HiddenValues
import Redaction.Proofs.Composite.Assembly
import Redaction.Proofs.Composite.Reveal
import Redaction.Proofs.Script.Contribution
import Redaction.Proofs.Script.Frame
import Redaction.Proofs.Script.Demand
import Redaction.Proofs.Script.Warnings
import Redaction.Proofs.Template
import Redaction.Proofs.Template.Grammar
import Redaction.Proofs.Template.Acceptance
import Redaction.Proofs.Template.RoundTrip
import Redaction.Proofs.Attribute.Protection
import Redaction.Proofs.Attribute.Listed
import Redaction.Proofs.Attribute.Compose
import Redaction.Proofs.Attribute.ProtectionFault
import Redaction.Proofs.Attribute.FailClosed
import Redaction.Proofs.Attribute.AnyOrder
import Redaction.Proofs.Attribute.Documentation
import Redaction.Proofs.Declaration.TypeTerm
import Redaction.Proofs.Derivation.Fields
import Redaction.Proofs.Derivation.Lookup
import Redaction.Proofs.Derivation.Acceptance
import Redaction.Proofs.Derivation.OwnName
import Redaction.Proofs.Derivation.References
import Redaction.Proofs.Derivation.Uses
import Redaction.Proofs.Derivation.Names
import Redaction.Proofs.Derivation.Pattern
import Redaction.Proofs.Derivation.Accepted
import Redaction.Proofs.Derivation.Bounds
import Redaction.Proofs.Derivation.Scoping
import Redaction.Proofs.Derivation.Statements
import Redaction.Proofs.Derivation.Shown
import Redaction.Proofs.Derivation.Run
import Redaction.Proofs.Derivation.Template
import Redaction.Proofs.Derivation.Secrecy
import Redaction.Proofs.Derivation.Segments
import Redaction.Proofs.Derivation.Alike
import Redaction.Proofs.Derivation.Targeting
import Redaction.Proofs.Rendering
