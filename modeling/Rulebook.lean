import Rulebook.Expectation
import Rulebook.Files.Memory
import Rulebook.Main
import Rulebook.Proofs.Catalogue.Agreement
import Rulebook.Proofs.Catalogue.Placement
import Rulebook.Proofs.Grammar.Inlining
import Rulebook.Proofs.Listing.Unambiguous
import Rulebook.Proofs.Rendering.Simulation
import Rulebook.Rendering.Trace
import Rulebook.Proofs.Grammar.Tips
import Rulebook.Proofs.Rendering.Collection
import Rulebook.Proofs.Listing.Paragraphs
import Rulebook.Proofs.Document.Anchors
import Rulebook.Proofs.Document.Flush
import Rulebook.Proofs.Catalogue.Links
import Rulebook.Proofs.Document.Gathering
import Rulebook.Proofs.Catalogue.Written
import Rulebook.Proofs.Catalogue.Reading
import Rulebook.Proofs.Catalogue.Usages
import Rulebook.Proofs.Catalogue.Listed
import Rulebook.Proofs.Catalogue.Identifiers
import Rulebook.Proofs.Rendering.Answering
import Rulebook.Proofs.Catalogue.Omission
import Rulebook.Proofs.Document.RoundTrip
import Rulebook.Proofs.Rendering.Completion
import Rulebook.Proofs.Listing.Framing
import Rulebook.Proofs.Notation.Exactness
import Rulebook.Proofs.Listing.Reordered
import Rulebook.Proofs.Grammar.Postorder
import Rulebook.Proofs.Rendering.Records
import Rulebook.Proofs.Document.Pruning
import Rulebook.Proofs.Catalogue.Documented
import Rulebook.Proofs.Listing.Relaid
import Rulebook.Proofs.Catalogue.Relaid
import Rulebook.Proofs.Catalogue.LineBreaks
import Rulebook.Proofs.Grammar.Address
import Rulebook.Proofs.Rendering.Grouping
import Rulebook.Proofs.Listing.FewestLines
import Rulebook.Proofs.Grammar.Exclusion
import Rulebook.Proofs.Grammar.Remainder
import Rulebook.Proofs.Notation.Admission
import Rulebook.Proofs.Notation.Labels
import Rulebook.Proofs.Text.Delimited
import Rulebook.Proofs.Listing.Alternatives
import Rulebook.Proofs.Text.Order
import Rulebook.Proofs.Catalogue.Filling
import Rulebook.Proofs.Document.Programs
import Rulebook.Proofs.Document.Interleaving
