import Nanos6.Scheduling.Queue
import Nanos6.Scheduling.LeafScheduler
import Nanos6.Scheduling.Conservation
import Nanos6.Scheduling.Wakeup
import Nanos6.Scheduling.Overflow
import Nanos6.Scheduling.WaitFree
import Nanos6.Scheduling.IdleReports
import Nanos6.Scheduling.Contention
import Nanos6.Executors.CPURegistry
import Nanos6.Executors.ShutdownProgress
import Nanos6.Workflow.Start
import Nanos6.Workflow.Engine
import Nanos6.Workflow.Ordering
import Nanos6.Workflow.Interleaving
import Nanos6.Workflow.Finalisation
import Nanos6.Workflow.Factories
