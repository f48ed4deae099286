import RBinding.Proofs.Docstring.Appending
import RBinding.Proofs.Docstring.Arrangement
import RBinding.Proofs.Docstring.EntryLines
import RBinding.Proofs.Docstring.Fragments
import RBinding.Proofs.Docstring.RoundTrip
import RBinding.Proofs.Header.Signature
import RBinding.Proofs.Literal.Identity
import RBinding.Proofs.Scaffold.Alignment
import RBinding.Proofs.Scaffold.Customisation
import RBinding.Proofs.Scaffold.Documentation
import RBinding.Proofs.World.Resolution
import RBinding.Proofs.Text.Dedenting
import RBinding.Proofs.Text.Paragraphs
import RBinding.Proofs.Docstring.Opening
import RBinding.Proofs.Docstring.SourceMargin
import RBinding.Proofs.Scaffold.DeclaredNames
import RBinding.Proofs.Docstring.Merging
import RBinding.Proofs.Literal.Defects
import RBinding.Proofs.World.Defaults
import RBinding.Proofs.World.Description
import RBinding.Proofs.Scaffold.Tags
import RBinding.Proofs.Docstring.Headings
import RBinding.Proofs.Header.Names
import RBinding.Proofs.World.SingleEntry
import RBinding.Proofs.World.Receiver
import RBinding.Proofs.AccessPath.Accessor
import RBinding.Proofs.Coverage
