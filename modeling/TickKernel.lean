import TickKernel.Chain.Lemmas
import TickKernel.Critical
import TickKernel.Kernel.Call
import TickKernel.Roster
import TickKernel.Proofs.Blocking
import TickKernel.Proofs.Lists
import TickKernel.Proofs.Safety
import TickKernel.Proofs.Shapes
import TickKernel.Proofs.Waits
import TickKernel.Proofs.Ownership
import TickKernel.Proofs.Custody
import TickKernel.Proofs.Replies
import TickKernel.Proofs.Answers
import TickKernel.Proofs.Sleeping
import TickKernel.Proofs.Deadlines
import TickKernel.Proofs.Places
import TickKernel.Proofs.Rounds
import TickKernel.Proofs.Patience
import TickKernel.Proofs.Contexts
import TickKernel.Proofs.Requests
import TickKernel.Proofs.Shifting
import TickKernel.Proofs.Wraparound
import TickKernel.Proofs.Limits
import TickKernel.Proofs.Phases
import TickKernel.Proofs.Opacity
import TickKernel.Proofs.Scanning
import TickKernel.Proofs.Cycling
import TickKernel.Proofs.Decisions
import TickKernel.Proofs.Handovers
import TickKernel.Proofs.Suspensions
import TickKernel.Proofs.Sequences
import TickKernel.Proofs.Registering
import TickKernel.Proofs.Isolation
import TickKernel.Proofs.Backdrops
import TickKernel.Proofs.Gates
import TickKernel.Proofs.Guards
import TickKernel.Proofs.FrameReplies
import TickKernel.Proofs.Layout
import TickKernel.Proofs.Headroom
import TickKernel.Proofs.Interface
import TickKernel.Proofs.Watermarks
import TickKernel.Proofs.Sections
import TickKernel.Proofs.Spans
import TickKernel.Proofs.Windows
import TickKernel.Proofs.Conveyance
