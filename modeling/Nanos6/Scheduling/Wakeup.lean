import Nanos6.Scheduling.LeafScheduler

namespace Nanos6.Scheduling

/-- The owner's last `getTask` returned nothing after setting `_idle`; since then it made no
call, no `resumeIdle` was issued, and yet a task waits in the polling slot or the queue. -/
def LostWakeup (owner : Nat) (system : LeafSystem) : Prop :=
  ∃ earlier later, system.log =
      earlier ++ [.event .cpuBecomesIdle, .event (.returned owner none)] ++ later ∧
    LogEntry.event .resumeIdle ∉ later ∧ (∀ operation, LogEntry.call owner operation ∉ later) ∧
    (system.leaf.pollingSlot.task ≠ none ∨ system.leaf.queue.tasks ≠ [])

/-- Thread 0 owns the leaf; threads 1 and 2 add tasks from other CPUs. The threshold is
raised first so that the second task is not handed to the parent. -/
def lostWakeupSchedule : List LeafAction :=
  [.invoke 0 (.updateQueueThreshold 2), .run 0, .run 0,
   -- task 10 goes to the polling slot
   .invoke 1 (.addTask 10 false), .run 1, .run 1,
   -- task 11 finds the slot full, and its thread stops before `_queue->addTask`
   .invoke 2 (.addTask 11 false), .run 2,
   -- the owner takes task 10, then finds nothing and marks the leaf idle
   .invoke 0 (.getTask false), .run 0, .run 0, .run 0,
   .invoke 0 (.getTask false), .run 0, .run 0, .run 0, .run 0, .run 0, .run 0, .run 0,
   -- task 11 reaches the queue
   .run 2, .run 2, .run 2]

def lostWakeupState : LeafSystem :=
  ⟨⟨100000, 2, false, ⟨none⟩, ⟨.fifo, [11]⟩, true⟩, [.idle, .idle, .idle],
    [.call 0 (.updateQueueThreshold 2), .call 1 (.addTask 10 false), .call 2 (.addTask 11 false),
     .call 0 (.getTask false), .event (.returned 0 (some 10)), .call 0 (.getTask false),
     .event .parentGetTask, .event .cpuBecomesIdle, .event (.returned 0 none)]⟩

theorem lostWakeupSchedule_runs :
    (LeafSystem.init 100000 .fifo 3).runActions anyAction lostWakeupSchedule = some lostWakeupState := by
  decide

/-- A remote `addTask` that finds the polling slot full enqueues its task after the owner
has marked the leaf idle: the owner is never resumed although the queue holds a task. -/
theorem remote_enqueue_loses_wakeup :
    Reachable anyAction (LeafSystem.init 100000 .fifo 3) lostWakeupState ∧
      LostWakeup 0 lostWakeupState :=
  ⟨Reachable.start.runActions _ lostWakeupSchedule_runs,
    [.call 0 (.updateQueueThreshold 2), .call 1 (.addTask 10 false),
      .call 2 (.addTask 11 false), .call 0 (.getTask false), .event (.returned 0 (some 10)),
      .call 0 (.getTask false), .event .parentGetTask], [], rfl, by simp, by simp,
    .inr (by decide)⟩

/-- The statements whose next step calls `ThreadManager::resumeIdle`: a remote `addTask` or an
`addTaskBatch` that filled the polling slot of an idle leaf. -/
def Pc.resumesIdle : Pc → Bool
  | .addTaskResume | .batchResume _ => true
  | _ => false

/-- `resumeIdle` was called after the leaf last went idle: a suffix of the log holds a
`resumeIdle` and no `cpuBecomesIdle`. -/
def ResumedSinceIdle (log : List LogEntry) : Prop :=
  ∃ earlier later, log = earlier ++ later ∧ LogEntry.event .cpuBecomesIdle ∉ later ∧
    LogEntry.event .resumeIdle ∈ later

/-- A task in the polling slot of an idle leaf has its wake-up: a thread is about to call
`resumeIdle`, or one called it after the leaf went idle. -/
def SlotWakeup (system : LeafSystem) : Prop :=
  system.leaf.idle → system.leaf.pollingSlot.task.isSome →
    (∃ thread, (pcAt system.threads thread).resumesIdle) ∨ ResumedSinceIdle system.log

theorem ResumedSinceIdle.append {log more : List LogEntry} (resumed : ResumedSinceIdle log)
    (quiet : LogEntry.event .cpuBecomesIdle ∉ more) : ResumedSinceIdle (log ++ more) := by
  obtain ⟨earlier, later, rfl, notIdle, woken⟩ := resumed
  exact ⟨earlier, later ++ more, by rw [List.append_assoc], by simp [notIdle, quiet],
    List.mem_append_left _ woken⟩

theorem PollingSlot.setTask_fst_eq_false {slot : PollingSlot} {task : Task} :
    (slot.setTask task).1 = false ↔ slot.task.isSome := by
  cases found : slot.task <;> simp [PollingSlot.setTask, found]

theorem stepThread_slotWakeup {leaf after : LeafScheduler} {thread : Nat} {pc next : Pc}
    {events : List LeafEvent} (stepped : stepThread leaf thread pc = some (after, next, events))
    (idle : after.idle) (full : after.pollingSlot.task.isSome) :
    next.resumesIdle ∨ (leaf.idle ∧ leaf.pollingSlot.task.isSome ∧
      LeafEvent.cpuBecomesIdle ∉ events ∧ (pc.resumesIdle → LeafEvent.resumeIdle ∈ events)) := by
  cases pc
  case overflowHandBatch taskBatch caller =>
    cases caller <;> cases stepped <;>
      simp_all [Pc.resumesIdle, handToParent, OverflowCaller.resume, returnTask]
  all_goals simp only [stepThread] at stepped; (repeat' split at stepped) <;> cases stepped <;>
    simp_all [Pc.resumesIdle, PollingSlot.getTask, returnTask, handToParent,
      PollingSlot.setTask_fst_eq_false]

namespace SlotWakeup

variable {system next : LeafSystem} {action : LeafAction}

theorem step (wakeup : SlotWakeup system) (stepped : system.step action = some next) :
    SlotWakeup next := by
  cases action with
  | invoke thread operation =>
      obtain ⟨idleThread, -, rfl⟩ := LeafSystem.step_invoke stepped
      intro idle full
      rcases wakeup idle full with ⟨pending, resumes⟩ | resumed
      · have other : thread ≠ pending := by
          rintro rfl
          rw [pcAt_of_getElem? idleThread] at resumes
          cases resumes
        exact .inl ⟨pending, by rwa [pcAt_set_ne other]⟩
      · exact .inr (resumed.append (by simp))
  | run thread =>
      obtain ⟨pc, leaf, after, events, found, stepping, rfl⟩ := LeafSystem.step_run stepped
      intro idle full
      rcases stepThread_slotWakeup stepping idle full with resumes | ⟨wasIdle, wasFull, quiet, calls⟩
      · exact .inl ⟨thread, by rwa [pcAt_set_self found]⟩
      have quiet : LogEntry.event .cpuBecomesIdle ∉ events.map .event := by simpa using quiet
      rcases wakeup wasIdle wasFull with ⟨pending, resumes⟩ | resumed
      · by_cases same : thread = pending
        · subst same
          rw [pcAt_of_getElem? found] at resumes
          exact .inr ⟨system.log, events.map .event, rfl, quiet,
            List.mem_map_of_mem _ (calls resumes)⟩
        · exact .inl ⟨pending, by rwa [pcAt_set_ne same]⟩
      · exact .inr (resumed.append quiet)

end SlotWakeup

/-- However remote `addTask` and `addTaskBatch` calls interleave with the owner's `getTask`
and with every other operation, a task in the polling slot of an idle leaf never waits without
its wake-up: the thread that filled the slot is about to call `resumeIdle`, or `resumeIdle` was
called after the leaf last went idle. -/
theorem slot_handoff_never_loses_wakeup {allowed : LeafSystem → LeafAction → Bool}
    {pollingIterations : UInt64} {policy : SchedulingPolicy} {threadCount : Nat}
    {system : LeafSystem}
    (reachable : Reachable allowed (LeafSystem.init pollingIterations policy threadCount) system) :
    SlotWakeup system := by
  induction reachable with
  | start => intro idle; cases idle
  | step _ _ stepped wakeup => exact wakeup.step stepped

/-- The owner finds nothing and goes idle; thread 1 then fills the slot and stops before
`resumeIdle`. -/
def slotFilledSchedule : List LeafAction :=
  [.invoke 0 (.getTask false), .run 0, .run 0, .run 0, .run 0, .run 0, .run 0, .run 0,
    .invoke 1 (.addTask 7 false), .run 1]

def slotFilledState : LeafSystem :=
  ⟨⟨100000, 0, false, ⟨some 7⟩, ⟨.fifo, []⟩, true⟩, [.idle, .addTaskResume],
    [.call 0 (.getTask false), .event .parentGetTask, .event .cpuBecomesIdle,
      .event (.returned 0 none), .call 1 (.addTask 7 false)]⟩

theorem slotFilledSchedule_runs :
    (LeafSystem.init 100000 .fifo 2).runActions anyAction slotFilledSchedule =
      some slotFilledState := by
  decide

/-- The slot of an idle leaf holds a task, and the wake-up is on its way. -/
theorem slot_filled_while_idle_has_wakeup :
    slotFilledState.leaf.idle ∧ slotFilledState.leaf.pollingSlot.task.isSome ∧
      SlotWakeup slotFilledState :=
  ⟨rfl, rfl, slot_handoff_never_loses_wakeup
    (Reachable.start.runActions _ slotFilledSchedule_runs)⟩

end Nanos6.Scheduling
