import Montage.Asset.Description
import Montage.Main
import Montage.Proofs.Cli.Delivery
import Montage.Proofs.Cli.Gaps
import Montage.Proofs.Composition.Building
import Montage.Proofs.Engine.Arguments
import Montage.Proofs.Engine.Launches
import Montage.Proofs.Engine.Outcome
import Montage.Proofs.Engine.Staged
import Montage.Proofs.Graph.Cuts
import Montage.Proofs.Graph.Links
import Montage.Proofs.Manifest.Resolving
import Montage.Proofs.Manifest.RoundTrip
import Montage.Proofs.Program.Agreement
import Montage.Proofs.Program.Completeness
import Montage.Proofs.Program.Declaring
import Montage.Proofs.Program.Dependence
import Montage.Proofs.Program.Extension
import Montage.Proofs.Program.Kinds
import Montage.Proofs.Program.Labelling
import Montage.Proofs.Program.Linking
import Montage.Proofs.Program.Meaning
import Montage.Proofs.Program.Printing
import Montage.Proofs.Program.Rejection
import Montage.Proofs.Program.Usage
