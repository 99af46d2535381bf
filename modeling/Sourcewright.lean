import Sourcewright.CommandLine.Command
import Sourcewright.Document.Load
import Sourcewright.Generate
import Sourcewright.Main
import Sourcewright.Proofs.Document.RoundTrip
import Sourcewright.Proofs.Document.Truncation
import Sourcewright.Proofs.Emission.Balance
import Sourcewright.Proofs.Emission.Branches
import Sourcewright.Proofs.Emission.ClassBodies
import Sourcewright.Proofs.Emission.CommentReading
import Sourcewright.Proofs.Emission.Constants
import Sourcewright.Proofs.Emission.Indentation
import Sourcewright.Proofs.Emission.Integers
import Sourcewright.Proofs.Emission.Structure
import Sourcewright.Proofs.Emission.Support
import Sourcewright.Proofs.Outline.Widening
import Sourcewright.Proofs.Reference.History
import Sourcewright.Proofs.Reference.SimpleNames
import Sourcewright.Proofs.Report.Labels
import Sourcewright.Proofs.Tree.Preorder
import Sourcewright.Proofs.Tree.Visiting
import Sourcewright.Proofs.Workbench.Isolation
import Sourcewright.Proofs.Workbench.OutputDirectory
import Sourcewright.Report.Render
import Sourcewright.Tree.Traversal
import Sourcewright.Workbench.Run
