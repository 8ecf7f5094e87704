import Mathlib.Data.Multiset.Basic

namespace Nanos6.Scheduling

/-- A task is identified by its address; the scheduler never looks inside one. -/
abbrev Task := Nat

/-- `SchedulerInterface::SchedulingPolicy`, read from `NANOS6_SCHEDULING_POLICY`. -/
inductive SchedulingPolicy where
  | fifo
  | lifo
deriving DecidableEq, Repr

/-- The policy `SchedulerInterface`'s constructor gives the host scheduler for the value of
`NANOS6_SCHEDULING_POLICY`, whose default is "fifo". -/
def SchedulingPolicy.ofValue (value : String) : SchedulingPolicy :=
  if value = "LIFO" ∨ value = "lifo" then .lifo else .fifo

theorem SchedulingPolicy.ofValue_eq_lifo (value : String) :
    ofValue value = .lifo ↔ value = "LIFO" ∨ value = "lifo" := by
  unfold ofValue
  split_ifs with lifo <;> simp [lifo]

example : SchedulingPolicy.ofValue "fifo" = .fifo := by decide

/-- Modelled from the spec: `TreeSchedulerQueueInterface`, whose implementations are not
under `src/` ("FIFO or LIFO"; "overflow halves the queue by count, taking from the tail
opposite to dequeue end"). The list is kept with the dequeue end at the front: FIFO pushes
at the back, LIFO at the front, and batches always leave from the back. -/
structure TaskQueue where
  policy : SchedulingPolicy
  tasks : List Task
deriving DecidableEq, Repr

namespace TaskQueue

def getSize (queue : TaskQueue) : Nat :=
  queue.tasks.length

/-- Push one task and return the number of queued tasks, as `_queue->addTask` does. -/
def addTask (queue : TaskQueue) (task : Task) : TaskQueue × Nat :=
  let tasks := match queue.policy with
    | .fifo => queue.tasks ++ [task]
    | .lifo => task :: queue.tasks
  ({ queue with tasks }, tasks.length)

def addTaskBatch (queue : TaskQueue) (taskBatch : List Task) : TaskQueue :=
  match queue.policy with
  | .fifo => { queue with tasks := queue.tasks ++ taskBatch }
  | .lifo => { queue with tasks := taskBatch.reverse ++ queue.tasks }

def getTask (queue : TaskQueue) : Option Task × TaskQueue :=
  match queue.tasks with
  | [] => (none, queue)
  | task :: rest => (some task, { queue with tasks := rest })

/-- Take up to `count` tasks from the end opposite to `getTask`. -/
def getTaskBatch (queue : TaskQueue) (count : Nat) : List Task × TaskQueue :=
  let kept := queue.tasks.length - count
  (queue.tasks.drop kept, { queue with tasks := queue.tasks.take kept })

variable {queue : TaskQueue} {task : Task}

@[simp] theorem addTask_policy : (queue.addTask task).1.policy = queue.policy := rfl

@[simp] theorem addTaskBatch_policy (taskBatch : List Task) :
    (queue.addTaskBatch taskBatch).policy = queue.policy := by
  unfold addTaskBatch; split <;> rfl

theorem addTask_elements : (queue.addTask task).2 = queue.getSize + 1 := by
  unfold addTask getSize; split <;> simp

theorem addTask_getSize : (queue.addTask task).1.getSize = queue.getSize + 1 := by
  unfold addTask getSize; split <;> simp

theorem addTask_tasks :
    ((queue.addTask task).1.tasks : Multiset Task) = queue.tasks + {task} := by
  rw [add_comm, Multiset.singleton_add, Multiset.cons_coe]
  unfold addTask; split
  · exact Multiset.coe_eq_coe.2 (List.perm_append_singleton _ _)
  · rfl

theorem addTaskBatch_tasks (taskBatch : List Task) :
    ((queue.addTaskBatch taskBatch).tasks : Multiset Task) = queue.tasks + taskBatch := by
  unfold addTaskBatch; split <;> simp only [Multiset.coe_add, Multiset.coe_eq_coe]
  exact (List.reverse_perm _).append_right _ |>.trans List.perm_append_comm

theorem getTask_tasks (queue : TaskQueue) :
    (queue.getTask.2.tasks : Multiset Task) + queue.getTask.1.toList = queue.tasks := by
  unfold getTask; split
  · simp
  · simp only [Option.toList_some, Multiset.coe_singleton, *]
    rw [add_comm, Multiset.singleton_add, Multiset.cons_coe]

@[simp] theorem getTask_policy : queue.getTask.2.policy = queue.policy := by
  unfold getTask; split <;> rfl

theorem getTask_eq_none_iff : queue.getTask.1 = none ↔ queue.tasks = [] := by
  unfold getTask; split <;> simp_all

theorem getTask_getSize : queue.getTask.2.getSize = queue.getSize - 1 := by
  unfold getTask getSize; split <;> simp_all

theorem getTaskBatch_tasks (queue : TaskQueue) (count : Nat) :
    ((queue.getTaskBatch count).2.tasks : Multiset Task) + (queue.getTaskBatch count).1 =
      queue.tasks := by
  simp only [getTaskBatch, Multiset.coe_add, List.take_append_drop]

@[simp] theorem getTaskBatch_policy (count : Nat) :
    (queue.getTaskBatch count).2.policy = queue.policy := rfl

theorem getTaskBatch_length (count : Nat) :
    (queue.getTaskBatch count).1.length = min count queue.getSize := by
  simp only [getTaskBatch, getSize, List.length_drop]; omega

theorem getTaskBatch_getSize (count : Nat) :
    (queue.getTaskBatch count).2.getSize = queue.getSize - count := by
  simp only [getTaskBatch, getSize, List.length_take]; omega

end TaskQueue

/-- Modelled from the spec: `SchedulerInterface::polling_slot_t`, the one-task
single-producer single-consumer handoff cell of a leaf. -/
structure PollingSlot where
  task : Option Task
deriving DecidableEq, Repr

namespace PollingSlot

/-- Fill the slot if it is empty, and report whether it was. -/
def setTask (slot : PollingSlot) (task : Task) : Bool × PollingSlot :=
  match slot.task with
  | none => (true, ⟨some task⟩)
  | some _ => (false, slot)

def getTask (slot : PollingSlot) : Option Task × PollingSlot :=
  (slot.task, ⟨none⟩)

variable {slot : PollingSlot} {task : Task}

@[simp] theorem setTask_empty : (PollingSlot.mk none).setTask task = (true, ⟨some task⟩) := rfl

@[simp] theorem setTask_full {held : Task} :
    (PollingSlot.mk (some held)).setTask task = (false, ⟨some held⟩) := rfl

@[simp] theorem getTask_fst : slot.getTask.1 = slot.task := rfl

@[simp] theorem getTask_snd : slot.getTask.2 = ⟨none⟩ := rfl

end PollingSlot

end Nanos6.Scheduling
