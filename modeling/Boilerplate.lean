import Boilerplate.Proofs.CType.Normal
import Boilerplate.Proofs.CType.Qualifier
import Boilerplate.Proofs.Comments
import Boilerplate.Proofs.Config.Fault
import Boilerplate.Proofs.Config.Renderings
import Boilerplate.Proofs.Config.Standard
import Boilerplate.Proofs.Record.Canonical
import Boilerplate.Proofs.Record.Growing
import Boilerplate.Proofs.Record.Names
import Boilerplate.Proofs.Record.Prototypes
import Boilerplate.Proofs.Schema.Cells
import Boilerplate.Proofs.Schema.Fault
import Boilerplate.Proofs.Schema.Names
import Boilerplate.Proofs.Session
import Boilerplate.Record.Document
import Boilerplate.Proofs.Config.Functions
import Boilerplate.Proofs.Schema.Files
import Boilerplate.Proofs.Record.Includes
import Boilerplate.Proofs.Comments.Splice
import Boilerplate.Proofs.Comments.Escape
import Boilerplate.Proofs.Pass
import Boilerplate.Proofs.Record.Document
import Boilerplate.Proofs.Probe.Document
import Boilerplate.Proofs.Style
import Boilerplate.Proofs.CType.Layout
import Boilerplate.Proofs.CType.Position
