import Outliner.Main
import Outliner.Session
import Outliner.Proofs.Batch.Acceptance
import Outliner.Proofs.Batch.OneLine
import Outliner.Proofs.Execution
import Outliner.Proofs.CommandLine
import Outliner.Proofs.Ownership
import Outliner.Proofs.Context.Soundness
import Outliner.Proofs.Session
import Outliner.Proofs.Subtree
import Outliner.Proofs.ListItem.Layout
import Outliner.Proofs.ListItem.Run
import Outliner.Proofs.ListItem.Numbers
import Outliner.Proofs.ListItem.Shift
import Outliner.Proofs.Insertion
import Outliner.Proofs.Demotion
import Outliner.Proofs.Outline
import Outliner.Proofs.Section
import Outliner.Proofs.Property
import Outliner.Proofs.Drawer
import Outliner.Proofs.Property.Update
import Outliner.Proofs.Text.Uppercase
import Outliner.Proofs.Property.Frame
import Outliner.Proofs.Property.Identity
import Outliner.Proofs.Property.RoundTrip
import Outliner.Proofs.LineEnd
import Outliner.Proofs.ListItem.Renumber
import Outliner.Proofs.Outline.Nesting
import Outliner.Proofs.Table.Cells
import Outliner.Proofs.Table.Navigation
import Outliner.Proofs.Heading.Cycle
import Outliner.Proofs.Rebuild
import Outliner.Proofs.Text.Cut
import Outliner.Proofs.Keyword.RoundTrip
import Outliner.Proofs.Json
import Outliner.Proofs.Config
import Outliner.Proofs.Link
import Outliner.Proofs.Link.RoundTrip
import Outliner.Proofs.Enclosure
import Outliner.Proofs.LineKind
import Outliner.Proofs.ListItem.Extent
import Outliner.Proofs.Batch.Order
import Outliner.Proofs.Batch.WholeLines
import Outliner.Proofs.Drawer.Bound
import Outliner.Proofs.Sibling
import Outliner.Proofs.ListItem.Toggle
import Outliner.Proofs.Table.BlankRow
import Outliner.Proofs.Table.RoundTrip
