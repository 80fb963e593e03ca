import CutterCompensation.Core.Types
import CutterCompensation.Geometry.Kernel
import CutterCompensation.Geometry.Corners
import CutterCompensation.Engine.Preprocessor
import CutterCompensation.Engine.Extraction
import CutterCompensation.Engine.Snprintf
import CutterCompensation.Buffer.Queue
import CutterCompensation.Buffer.Drain
import CutterCompensation.Properties.Lines
import CutterCompensation.Properties.Mirror
import CutterCompensation.Properties.Arcs
import CutterCompensation.Properties.Reconstruction
import CutterCompensation.Properties.ZeroRadius
import CutterCompensation.Properties.MirrorRuns
import CutterCompensation.Properties.SideSwap
import CutterCompensation.Properties.Lookahead
import CutterCompensation.Properties.ProgrammedPath
import CutterCompensation.Properties.TextBuffer
import CutterCompensation.Stream.Ledger
import CutterCompensation.Stream.Refinement
import CutterCompensation.Stream.Driver
import CutterCompensation.Stream.Printed
