import Nanos6.Scheduling.LeafScheduler

namespace Nanos6.Scheduling

/-- The state `CPUManager` was told of the leaf's CPU after one more event: `cpuBecomesIdle`
marks it idle and `unidleCPU` busy, and a report that repeats the state it was last told is
`none`. The other events say nothing about the CPU. -/
def LeafEvent.reportIdle (idle : Bool) : LeafEvent → Option Bool
  | .cpuBecomesIdle => if idle then none else some true
  | .unidleCPU => if idle then some false else none
  | _ => some idle

def LogEntry.reportIdle (idle : Bool) : LogEntry → Option Bool
  | .event done => done.reportIdle idle
  | .call _ _ => some idle

/-- The reports in a log, replayed from a CPU that is not idle; `none` if one repeats the
state before it. -/
def reportedIdle (log : List LogEntry) : Option Bool :=
  log.foldlM LogEntry.reportIdle false

@[simp] theorem LogEntry.reportIdle_event (idle : Bool) (done : LeafEvent) :
    LogEntry.reportIdle idle (.event done) = done.reportIdle idle := rfl

theorem reportedIdle_append_events (log : List LogEntry) (events : List LeafEvent) :
    reportedIdle (log ++ events.map .event) =
      (reportedIdle log).bind (events.foldlM LeafEvent.reportIdle) := by
  simp [reportedIdle, List.foldlM_append, List.foldlM_map]

theorem reportedIdle_append_call (log : List LogEntry) (thread : Nat) (operation : Operation) :
    reportedIdle (log ++ [.call thread operation]) = reportedIdle log := by
  simp [reportedIdle, List.foldlM_append, LogEntry.reportIdle]

/-- `getTask` and `disable` are called only by `owner`, the thread running on the leaf's CPU;
every other operation by any thread, in any interleaving. -/
def ownerAction (owner : Nat) (_ : LeafSystem) : LeafAction → Bool
  | .invoke thread (.getTask _) | .invoke thread .disable => thread == owner
  | _ => true

/-- What `getTask` and `disable` know of `_idle` between reading it and writing it: set, at
the statement that clears it; clear, from the check until `getTask` sets it. -/
def Pc.expectsIdle : Pc → Option Bool
  | .getTaskUnidle _ | .disableUnidle => some true
  | .getTaskUnidleCPU _ | .disableUnidleChild | .disableUnidleCPU => some false
  | .getTaskPollSlot _ | .getTaskPopQueue _ | .getTaskClearRebalance _ | .getTaskAskParent _
  | .getTaskPoll _ _ | .getTaskPollOnce | .getTaskRecheck => some false
  | _ => none

/-- The statements after `_idle = false` and before `CPUManager::unidleCPU`. -/
def Pc.unidlePending : Pc → Bool
  | .getTaskUnidleCPU _ | .disableUnidleChild | .disableUnidleCPU => true
  | _ => false

/-- The statements of `getTask` and `disable` from their first read of `_idle` to their last
write of it. -/
def Pc.touchesIdle : Pc → Bool
  | .getTaskCheckIdle _ | .disableCheckIdle => true
  | pc => pc.expectsIdle.isSome

theorem Operation.expectsIdle_entry (operation : Operation) :
    operation.entry.expectsIdle = none := by
  cases operation with
  | addTask _ hasComputePlace => cases hasComputePlace <;> rfl
  | _ => rfl

theorem Operation.touchesIdle_entry {owner thread : Nat} {system : LeafSystem}
    {operation : Operation} (allowed : ownerAction owner system (.invoke thread operation))
    (distinct : thread ≠ owner) : operation.entry.touchesIdle = false := by
  cases operation with
  | addTask _ hasComputePlace => cases hasComputePlace <;> rfl
  | getTask | disable => simp_all [ownerAction]
  | _ => rfl

theorem foldlM_reportIdle_handToParent (taskBatch : List Task) (idle : Bool) :
    (handToParent taskBatch).foldlM LeafEvent.reportIdle idle = some idle := by
  unfold handToParent
  split <;> rfl

theorem Pc.expectsIdle_of_touchesIdle {pc : Pc} (untouched : pc.touchesIdle = false) :
    pc.expectsIdle = none := by
  cases pc <;> first | rfl | cases untouched

theorem Pc.unidlePending_of_expectsIdle {pc : Pc} (unknown : pc.expectsIdle = none) :
    pc.unidlePending = false := by
  cases pc <;> first | rfl | cases unknown

theorem stepThread_idle_frame {leaf after : LeafScheduler} {thread : Nat} {pc next : Pc}
    {events : List LeafEvent} (untouched : pc.touchesIdle = false)
    (stepped : stepThread leaf thread pc = some (after, next, events)) :
    after.idle = leaf.idle ∧ next.touchesIdle = false ∧
      ∀ idle, events.foldlM LeafEvent.reportIdle idle = some idle := by
  cases pc
  case overflowHandBatch taskBatch caller =>
    cases stepped
    refine ⟨rfl, by cases caller <;> rfl, fun idle => ?_⟩
    rw [List.foldlM_append, foldlM_reportIdle_handToParent]
    cases caller <;> rfl
  all_goals cases untouched
  all_goals simp only [stepThread] at stepped; (repeat' split at stepped) <;> cases stepped <;>
    first | exact ⟨rfl, rfl, fun _ => rfl⟩ | exact ⟨rfl, rfl, foldlM_reportIdle_handToParent _⟩

theorem stepThread_reportIdle {leaf after : LeafScheduler} {thread : Nat} {pc next : Pc}
    {events : List LeafEvent} (expected : ∀ idle, pc.expectsIdle = some idle → leaf.idle = idle)
    (stepped : stepThread leaf thread pc = some (after, next, events)) :
    events.foldlM LeafEvent.reportIdle (leaf.idle || pc.unidlePending) =
        some (after.idle || next.unidlePending) ∧
      ∀ idle, next.expectsIdle = some idle → after.idle = idle := by
  cases touching : pc.touchesIdle
  case false =>
    obtain ⟨same, untouched, quiet⟩ := stepThread_idle_frame touching stepped
    have unknown := Pc.expectsIdle_of_touchesIdle untouched
    rw [same, Pc.unidlePending_of_expectsIdle (Pc.expectsIdle_of_touchesIdle touching),
      Pc.unidlePending_of_expectsIdle unknown, unknown]
    exact ⟨quiet _, nofun⟩
  case true =>
    cases pc <;> cases touching <;>
      simp only [Pc.expectsIdle, Option.some.injEq, forall_eq'] at expected <;>
      simp only [stepThread] at stepped <;> (repeat' split at stepped) <;> cases stepped <;>
      simp_all [Pc.expectsIdle, Pc.unidlePending, returnTask, LeafEvent.reportIdle]

/-- What a run in which only `owner` calls `getTask` and `disable` keeps: the reports agree
with `_idle` and the owner's pending `unidleCPU`, the owner's knowledge of `_idle` holds, and no
other thread is in `getTask` or `disable`. -/
structure IdleReports (owner : Nat) (system : LeafSystem) : Prop where
  reported : reportedIdle system.log =
    some (system.leaf.idle || (pcAt system.threads owner).unidlePending)
  expected : ∀ idle, (pcAt system.threads owner).expectsIdle = some idle →
    system.leaf.idle = idle
  others : ∀ thread, thread ≠ owner → (pcAt system.threads thread).touchesIdle = false

namespace IdleReports

variable {owner : Nat} {system next : LeafSystem} {action : LeafAction}

theorem init (pollingIterations : UInt64) (policy : SchedulingPolicy) (threadCount : Nat) :
    IdleReports owner (LeafSystem.init pollingIterations policy threadCount) where
  reported := by rw [LeafSystem.init, pcAt_replicate_idle]; rfl
  expected idle := by simp only [LeafSystem.init, pcAt_replicate_idle]; nofun
  others thread _ := by simp only [LeafSystem.init, pcAt_replicate_idle]; rfl

theorem step (reports : IdleReports owner system) (allowed : ownerAction owner system action)
    (stepped : system.step action = some next) : IdleReports owner next := by
  cases action with
  | invoke thread operation =>
      obtain ⟨idleThread, -, rfl⟩ := LeafSystem.step_invoke stepped
      by_cases same : thread = owner
      · subst same
        refine ⟨?_, fun idle => ?_, fun other distinct => ?_⟩
        · rw [reportedIdle_append_call, reports.reported, pcAt_set_self idleThread,
            pcAt_of_getElem? idleThread,
            Pc.unidlePending_of_expectsIdle (Operation.expectsIdle_entry operation)]
          rfl
        · rw [pcAt_set_self idleThread, Operation.expectsIdle_entry]
          exact nofun
        · rw [pcAt_set_ne (Ne.symm distinct)]
          exact reports.others other distinct
      · refine ⟨by rw [reportedIdle_append_call, pcAt_set_ne same]; exact reports.reported,
          by rw [pcAt_set_ne same]; exact reports.expected, fun other distinct => ?_⟩
        by_cases mover : thread = other
        · subst mover
          rw [pcAt_set_self idleThread]
          exact Operation.touchesIdle_entry allowed distinct
        · rw [pcAt_set_ne mover]
          exact reports.others other distinct
  | run thread =>
      obtain ⟨pc, leaf, after, events, found, stepping, rfl⟩ := LeafSystem.step_run stepped
      by_cases same : thread = owner
      · subst same
        have expected := reports.expected
        rw [pcAt_of_getElem? found] at expected
        obtain ⟨quiet, knows⟩ := stepThread_reportIdle expected stepping
        refine ⟨?_, ?_, fun other distinct => ?_⟩
        · rw [reportedIdle_append_events, reports.reported, pcAt_set_self found,
            pcAt_of_getElem? found]
          exact quiet
        · rwa [pcAt_set_self found]
        · rw [pcAt_set_ne (Ne.symm distinct)]
          exact reports.others other distinct
      · have untouched := reports.others thread same
        rw [pcAt_of_getElem? found] at untouched
        obtain ⟨kept, stays, quiet⟩ := stepThread_idle_frame untouched stepping
        refine ⟨?_, ?_, fun other distinct => ?_⟩
        · rw [reportedIdle_append_events, reports.reported, kept, pcAt_set_ne same]
          exact quiet _
        · rw [pcAt_set_ne same, kept]
          exact reports.expected
        · by_cases mover : thread = other
          · subst mover
            rwa [pcAt_set_self found]
          · rw [pcAt_set_ne mover]
            exact reports.others other distinct

end IdleReports

/-- In every interleaving in which only the thread on the leaf's CPU calls `getTask` and
`disable`, the leaf never tells `CPUManager` a CPU state it was already told: each
`cpuBecomesIdle` follows a busy report (or none) and each `unidleCPU` an idle one. The last
report is `_idle`, or idle while the owner has stored `_idle = false` and not yet called
`unidleCPU`. -/
theorem idle_reports_alternate {pollingIterations : UInt64} {policy : SchedulingPolicy}
    {threadCount owner : Nat} {system : LeafSystem}
    (reachable : Reachable (ownerAction owner)
      (LeafSystem.init pollingIterations policy threadCount) system) :
    reportedIdle system.log =
      some (system.leaf.idle || (pcAt system.threads owner).unidlePending) := by
  suffices IdleReports owner system from this.reported
  induction reachable with
  | start => exact IdleReports.init _ _ _
  | step _ allowed stepped reports => exact reports.step allowed stepped

/-- The owner finds nothing and goes idle, thread 1 hands it task 7 through the polling slot
and resumes it, and the owner's next `getTask` clears `_idle` and stops before `unidleCPU`. -/
def unidlingSchedule : List LeafAction :=
  [.invoke 0 (.getTask false), .run 0, .run 0, .run 0, .run 0, .run 0, .run 0, .run 0,
    .invoke 1 (.addTask 7 false), .run 1, .run 1, .run 1,
    .invoke 0 (.getTask false), .run 0, .run 0]

def unidlingState : LeafSystem :=
  ⟨⟨100000, 0, false, ⟨some 7⟩, ⟨.fifo, []⟩, false⟩, [.getTaskUnidleCPU false, .idle],
    [.call 0 (.getTask false), .event .parentGetTask, .event .cpuBecomesIdle,
      .event (.returned 0 none), .call 1 (.addTask 7 false), .event .resumeIdle,
      .call 0 (.getTask false)]⟩

theorem unidlingSchedule_runs :
    (LeafSystem.init 100000 .fifo 2).runActions (ownerAction 0) unidlingSchedule =
      some unidlingState := by
  decide

theorem unidling_leaf_still_reported_idle :
    Reachable (ownerAction 0) (LeafSystem.init 100000 .fifo 2) unidlingState ∧
      unidlingState.leaf.idle = false ∧ reportedIdle unidlingState.log = some true :=
  have reachable := Reachable.start.runActions _ unidlingSchedule_runs
  ⟨reachable, rfl, idle_reports_alternate reachable⟩

/-- The owner goes idle; its next `getTask` and a `disable` on thread 1 both read `_idle` set
before either clears it. -/
def doubleUnidleSchedule : List LeafAction :=
  [.invoke 0 (.getTask false), .run 0, .run 0, .run 0, .run 0, .run 0, .run 0, .run 0,
    .invoke 0 (.getTask false), .run 0, .invoke 1 .disable, .run 1, .run 0, .run 1, .run 0,
    .run 1, .run 1]

def doubleUnidleState : LeafSystem :=
  ⟨⟨100000, 0, false, ⟨none⟩, ⟨.fifo, []⟩, false⟩,
    [.getTaskPollSlot false, .disableTakeQueue],
    [.call 0 (.getTask false), .event .parentGetTask, .event .cpuBecomesIdle,
      .event (.returned 0 none), .call 0 (.getTask false), .call 1 .disable, .event .unidleCPU,
      .event .unidleChild, .event .unidleCPU]⟩

theorem doubleUnidleSchedule_runs :
    (LeafSystem.init 100000 .fifo 2).runActions anyAction doubleUnidleSchedule =
      some doubleUnidleState := by
  decide

/-- Without the owner's exclusive use of `getTask` and `disable`, the leaf tells `CPUManager`
twice that its CPU is no longer idle. -/
theorem concurrent_disable_unidles_twice :
    Reachable anyAction (LeafSystem.init 100000 .fifo 2) doubleUnidleState ∧
      reportedIdle doubleUnidleState.log = none :=
  ⟨Reachable.start.runActions _ doubleUnidleSchedule_runs, by decide⟩

end Nanos6.Scheduling
