import TileLevel.Panel
import TileLevel.Proofs.Coherence
import TileLevel.Proofs.Drawing
import TileLevel.Proofs.Grammar
import TileLevel.Proofs.LastWriter
import TileLevel.Proofs.Modes
import TileLevel.Proofs.RoundTrip
import TileLevel.Proofs.Stacking
import TileLevel.Proofs.Loads
import TileLevel.Proofs.PlainText
import TileLevel.Proofs.Window
import TileLevel.Proofs.Nearest
import TileLevel.Proofs.JsonText
import TileLevel.Proofs.Numerals
import TileLevel.Proofs.Exported
import TileLevel.Proofs.Legend
import TileLevel.Proofs.Interference
import TileLevel.Proofs.WholeFiles
import TileLevel.Proofs.Scrolling
import TileLevel.Proofs.Delivery
import TileLevel.Proofs.CellTests
import TileLevel.Proofs.Typing
import TileLevel.Proofs.Coverage
import TileLevel.Proofs.RuleHistory
import TileLevel.Proofs.Tally
import TileLevel.Proofs.Announcements
import TileLevel.Proofs.Agreement
import TileLevel.Proofs.Reordering
import TileLevel.Proofs.InRange
import TileLevel.Proofs.Saving
import TileLevel.Proofs.CellPositions
import TileLevel.Screen
import TileLevel.Proofs.Rendering
