import CMpsc.Channel
import CMpsc.System
import CMpsc.Sections
import CMpsc.Step
import CMpsc.Lifecycle
import CMpsc.Queue
import CMpsc.Wakeup
import CMpsc.Delivery
import CMpsc.Handoff
import CMpsc.Sizes
import CMpsc.Create
import CMpsc.Fifo
import CMpsc.Buffer
import CMpsc.Refinement
import CMpsc.Shutdown
import CMpsc.Progress
import CMpsc.Signalled
import CMpsc.Liveness
