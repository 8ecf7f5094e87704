import Mathlib.Logic.Function.Basic
import Mathlib.Data.List.Basic

namespace Nanos6.Executors

/-! # The collective shutdown of the worker pool

`ThreadManager::shutdown` and every worker's `threadShutdownSequence`, one step per access to
shared state. `cpus` are the entries of `_cpus` the initiator visits (the wait for
`isBeingInitialized` is not modelled). `popped`, `decremented` and `joined` are ghost logs that
no step reads.
-/

/-- Who pops and joins workers: the thread in `shutdown()`, or a worker. -/
inductive Agent where
  | initiator
  | worker (id : Nat)
deriving DecidableEq, Repr

/-- Where a worker is. `claimed` is a popped worker not yet resumed. -/
inductive WorkerPc where
  | running
  | parked
  | claimed
  | resumed (cpu : Nat)
  | pop (cpu : Nat) (isMainController : Bool)
  | resumeNext (cpu : Nat) (isMainController : Bool) (next : Nat)
  | joinNext (cpu : Nat) (isMainController : Bool) (next : Nat)
  | checkLast (cpu : Nat)
  | decrement
  | exiting
  | exited
deriving DecidableEq, Repr

/-- Where the thread running `ThreadManager::shutdown` is. `failed` is a null
`_shutdownControlerThread` met by the join loop. -/
inductive InitiatorPc where
  | start (cpus : List Nat)
  | visit (cpus : List Nat)
  | tryPop (cpu : Nat) (rest : List Nat)
  | checkRemaining (cpu : Nat) (rest : List Nat)
  | designate (cpu idleThread : Nat) (rest : List Nat)
  | join (cpus : List Nat)
  | returned
  | failed
deriving DecidableEq, Repr

/-- The shared state of the shutdown, the program counters, and the ghost logs. -/
structure ShutdownState where
  totalThreads : Nat
  shutdownThreads : Int
  idleThreads : List Nat
  workers : Nat → WorkerPc
  shutdownControlerThread : Nat → Option Nat
  mainShutdownControllerThread : Option Nat
  participatingCPUs : List Nat
  initiator : InitiatorPc
  popped : List (Nat × Agent)
  decremented : List Nat
  joined : List (Nat × Agent)

/-- Right after `preinitialize`: `_shutdownThreads` and the controllers are cleared, and no
worker is in the deque yet. -/
def ShutdownState.init (totalThreads : Nat) (cpus : List Nat) : ShutdownState where
  totalThreads := totalThreads
  shutdownThreads := 0
  idleThreads := []
  workers := fun _ => .running
  shutdownControlerThread := fun _ => none
  mainShutdownControllerThread := none
  participatingCPUs := []
  initiator := .start cpus
  popped := []
  decremented := []
  joined := []

/-- An initiator step, or a step of worker `id`; `choice` is the worker a pop takes. -/
inductive ShutdownAction where
  | initiator (choice : Option Nat)
  | worker (id : Nat) (choice : Option Nat)
deriving DecidableEq, Repr

/-- `getIdleThread(cpu, true)`: it takes one of the idle workers, `choice`, or returns `nullptr`
when there is none. `none` when `choice` is not what the call can return. -/
def popIdle (idleThreads : List Nat) : Option Nat → Option (Option Nat)
  | some worker => if worker ∈ idleThreads then some (some worker) else none
  | none => if idleThreads = [] then some none else none

namespace ShutdownState

def claim (s : ShutdownState) (worker : Nat) (agent : Agent) : ShutdownState :=
  { s with idleThreads := s.idleThreads.erase worker,
           workers := Function.update s.workers worker .claimed,
           popped := s.popped ++ [(worker, agent)] }

def setWorker (s : ShutdownState) (id : Nat) (pc : WorkerPc) : ShutdownState :=
  { s with workers := Function.update s.workers id pc }

section Updates

variable (s : ShutdownState) (worker : Nat) (agent : Agent) (pc : WorkerPc)

@[simp] theorem claim_workers :
    (s.claim worker agent).workers = Function.update s.workers worker .claimed := rfl
@[simp] theorem claim_idleThreads :
    (s.claim worker agent).idleThreads = s.idleThreads.erase worker := rfl
@[simp] theorem claim_popped : (s.claim worker agent).popped = s.popped ++ [(worker, agent)] := rfl
@[simp] theorem claim_totalThreads : (s.claim worker agent).totalThreads = s.totalThreads := rfl
@[simp] theorem claim_decremented : (s.claim worker agent).decremented = s.decremented := rfl
@[simp] theorem setWorker_workers :
    (s.setWorker worker pc).workers = Function.update s.workers worker pc := rfl
@[simp] theorem setWorker_idleThreads : (s.setWorker worker pc).idleThreads = s.idleThreads := rfl
@[simp] theorem setWorker_popped : (s.setWorker worker pc).popped = s.popped := rfl
@[simp] theorem setWorker_totalThreads :
    (s.setWorker worker pc).totalThreads = s.totalThreads := rfl
@[simp] theorem setWorker_decremented : (s.setWorker worker pc).decremented = s.decremented := rfl

end Updates

/-- One step of `ThreadManager::shutdown`. -/
def initiatorStep (s : ShutdownState) (choice : Option Nat) : Option ShutdownState :=
  match s.initiator with
  | .start cpus => some { s with shutdownThreads := s.totalThreads, initiator := .visit cpus }
  | .visit [] => some { s with initiator := .join s.participatingCPUs }
  | .visit (cpu :: rest) => some { s with initiator := .tryPop cpu rest }
  | .tryPop cpu rest =>
      (popIdle s.idleThreads choice).map fun
        | some idleThread =>
            { s.claim idleThread .initiator with initiator := .designate cpu idleThread rest }
        | none => { s with initiator := .checkRemaining cpu rest }
  | .checkRemaining cpu rest =>
      some { s with initiator := if s.shutdownThreads > 0 then .tryPop cpu rest else .visit rest }
  | .designate cpu idleThread rest =>
      some { s with
        shutdownControlerThread := Function.update s.shutdownControlerThread cpu (some idleThread)
        mainShutdownControllerThread :=
          if s.mainShutdownControllerThread = none then some idleThread
          else s.mainShutdownControllerThread
        workers := Function.update s.workers idleThread (.resumed cpu)
        participatingCPUs := cpu :: s.participatingCPUs
        initiator := .visit rest }
  | .join [] => some { s with initiator := .returned }
  | .join (cpu :: rest) =>
      match s.shutdownControlerThread cpu with
      | none => some { s with initiator := .failed }
      | some controller =>
          if s.workers controller = .exited then
            some { s with joined := s.joined ++ [(controller, .initiator)],
                          initiator := .join rest }
          else none
  | .returned | .failed => none

/-- One step of worker `id` in `threadShutdownSequence`, or its parking in the idle deque. -/
def workerStep (s : ShutdownState) (id : Nat) (choice : Option Nat) : Option ShutdownState :=
  if id < s.totalThreads then
    match s.workers id with
    | .running =>
        some { s with workers := Function.update s.workers id .parked,
                      idleThreads := s.idleThreads ++ [id] }
    | .resumed cpu =>
        some (s.setWorker id (if s.shutdownControlerThread cpu = some id then
          .pop cpu (decide (s.mainShutdownControllerThread = some id)) else .decrement))
    | .pop cpu isMainController =>
        (popIdle s.idleThreads choice).map fun
          | some next =>
              (s.claim next (.worker id)).setWorker id (.resumeNext cpu isMainController next)
          | none => s.setWorker id (if isMainController then .checkLast cpu else .decrement)
    | .resumeNext cpu isMainController next =>
        some ((s.setWorker next (.resumed cpu)).setWorker id
          (.joinNext cpu isMainController next))
    | .joinNext cpu isMainController next =>
        if s.workers next = .exited then
          some { s.setWorker id (.pop cpu isMainController) with
            joined := s.joined ++ [(next, .worker id)] }
        else none
    | .checkLast cpu =>
        some (s.setWorker id (if s.shutdownThreads = 1 then .decrement else .pop cpu true))
    | .decrement =>
        some { s.setWorker id .exiting with
          shutdownThreads := s.shutdownThreads - 1, decremented := s.decremented ++ [id] }
    | .exiting => some (s.setWorker id .exited)
    | .parked | .claimed | .exited => none
  else none

def step (s : ShutdownState) : ShutdownAction → Option ShutdownState
  | .initiator choice => s.initiatorStep choice
  | .worker id choice => s.workerStep id choice

def run (s : ShutdownState) : List ShutdownAction → Option ShutdownState
  | [] => some s
  | action :: rest => (s.step action).bind (run · rest)

end ShutdownState

/-- The states the shutdown reaches from `start`, in any interleaving. -/
inductive ShutdownReachable (start : ShutdownState) : ShutdownState → Prop
  | start : ShutdownReachable start start
  | step {s next : ShutdownState} {action : ShutdownAction} :
      ShutdownReachable start s → s.step action = some next → ShutdownReachable start next

theorem ShutdownReachable.run {start s : ShutdownState} (reachable : ShutdownReachable start s) :
    ∀ (actions : List ShutdownAction) {next : ShutdownState},
      s.run actions = some next → ShutdownReachable start next
  | [], _, ran => by cases ran; exact reachable
  | action :: rest, next, ran => by
      cases stepped : s.step action with
      | none => simp [ShutdownState.run, stepped] at ran
      | some middle =>
          simp only [ShutdownState.run, stepped, Option.some_bind] at ran
          exact (reachable.step stepped).run rest ran

/-- Every step of the shutdown, with the state it leads to. -/
inductive Transition (s : ShutdownState) : ShutdownState → Prop
  | setup (cpus : List Nat) : s.initiator = .start cpus →
      Transition s { s with shutdownThreads := s.totalThreads, initiator := .visit cpus }
  | visitDone : s.initiator = .visit [] →
      Transition s { s with initiator := .join s.participatingCPUs }
  | visitNext (cpu : Nat) (rest : List Nat) : s.initiator = .visit (cpu :: rest) →
      Transition s { s with initiator := .tryPop cpu rest }
  | initiatorPop (cpu : Nat) (rest : List Nat) (idleThread : Nat) :
      s.initiator = .tryPop cpu rest → idleThread ∈ s.idleThreads →
      Transition s
        { s.claim idleThread .initiator with initiator := .designate cpu idleThread rest }
  | initiatorEmpty (cpu : Nat) (rest : List Nat) : s.initiator = .tryPop cpu rest →
      s.idleThreads = [] → Transition s { s with initiator := .checkRemaining cpu rest }
  | retry (cpu : Nat) (rest : List Nat) : s.initiator = .checkRemaining cpu rest →
      0 < s.shutdownThreads → Transition s { s with initiator := .tryPop cpu rest }
  | skip (cpu : Nat) (rest : List Nat) : s.initiator = .checkRemaining cpu rest →
      s.shutdownThreads ≤ 0 → Transition s { s with initiator := .visit rest }
  | designate (cpu idleThread : Nat) (rest : List Nat) :
      s.initiator = .designate cpu idleThread rest →
      Transition s { s with
        shutdownControlerThread := Function.update s.shutdownControlerThread cpu (some idleThread)
        mainShutdownControllerThread :=
          if s.mainShutdownControllerThread = none then some idleThread
          else s.mainShutdownControllerThread
        workers := Function.update s.workers idleThread (.resumed cpu)
        participatingCPUs := cpu :: s.participatingCPUs
        initiator := .visit rest }
  | joinController (cpu : Nat) (rest : List Nat) (controller : Nat) :
      s.initiator = .join (cpu :: rest) → s.shutdownControlerThread cpu = some controller →
      s.workers controller = .exited →
      Transition s
        { s with joined := s.joined ++ [(controller, .initiator)], initiator := .join rest }
  | joinMissing (cpu : Nat) (rest : List Nat) : s.initiator = .join (cpu :: rest) →
      s.shutdownControlerThread cpu = none → Transition s { s with initiator := .failed }
  | finish : s.initiator = .join [] → Transition s { s with initiator := .returned }
  | park (id : Nat) : id < s.totalThreads → s.workers id = .running →
      Transition s { s with workers := Function.update s.workers id .parked,
                            idleThreads := s.idleThreads ++ [id] }
  | enter (id cpu : Nat) : id < s.totalThreads → s.workers id = .resumed cpu →
      s.shutdownControlerThread cpu = some id →
      Transition s (s.setWorker id (.pop cpu (decide (s.mainShutdownControllerThread = some id))))
  | leave (id cpu : Nat) : id < s.totalThreads → s.workers id = .resumed cpu →
      s.shutdownControlerThread cpu ≠ some id → Transition s (s.setWorker id .decrement)
  | controllerPop (id cpu : Nat) (isMainController : Bool) (next : Nat) : id < s.totalThreads →
      s.workers id = .pop cpu isMainController → next ∈ s.idleThreads →
      Transition s
        ((s.claim next (.worker id)).setWorker id (.resumeNext cpu isMainController next))
  | mainFindsNone (id cpu : Nat) : id < s.totalThreads → s.workers id = .pop cpu true →
      s.idleThreads = [] → Transition s (s.setWorker id (.checkLast cpu))
  | controllerDone (id cpu : Nat) : id < s.totalThreads → s.workers id = .pop cpu false →
      s.idleThreads = [] → Transition s (s.setWorker id .decrement)
  | resumeNext (id cpu : Nat) (isMainController : Bool) (next : Nat) : id < s.totalThreads →
      s.workers id = .resumeNext cpu isMainController next →
      Transition s ((s.setWorker next (.resumed cpu)).setWorker id
        (.joinNext cpu isMainController next))
  | joinNext (id cpu : Nat) (isMainController : Bool) (next : Nat) : id < s.totalThreads →
      s.workers id = .joinNext cpu isMainController next → s.workers next = .exited →
      Transition s { s.setWorker id (.pop cpu isMainController) with
        joined := s.joined ++ [(next, .worker id)] }
  | lastOut (id cpu : Nat) : id < s.totalThreads → s.workers id = .checkLast cpu →
      s.shutdownThreads = 1 → Transition s (s.setWorker id .decrement)
  | keepPolling (id cpu : Nat) : id < s.totalThreads → s.workers id = .checkLast cpu →
      s.shutdownThreads ≠ 1 → Transition s (s.setWorker id (.pop cpu true))
  | decrement (id : Nat) : id < s.totalThreads → s.workers id = .decrement →
      Transition s { s.setWorker id .exiting with
        shutdownThreads := s.shutdownThreads - 1, decremented := s.decremented ++ [id] }
  | exit (id : Nat) : id < s.totalThreads → s.workers id = .exiting →
      Transition s (s.setWorker id .exited)

theorem transition_of_initiatorStep {s next : ShutdownState} {choice : Option Nat}
    (stepped : s.initiatorStep choice = some next) : Transition s next := by
  unfold ShutdownState.initiatorStep at stepped
  split at stepped <;> rename_i current
  · cases stepped; exact .setup _ current
  · cases stepped; exact .visitDone current
  · cases stepped; exact .visitNext _ _ current
  · cases choice with
    | some idleThread =>
        by_cases idle : idleThread ∈ s.idleThreads
        · simp only [popIdle, idle, if_true, Option.map_some', Option.some.injEq] at stepped
          cases stepped; exact .initiatorPop _ _ _ current idle
        · simp [popIdle, idle] at stepped
    | none =>
        by_cases empty : s.idleThreads = []
        · simp only [popIdle, if_pos empty, Option.map_some', Option.some.injEq] at stepped
          cases stepped; exact .initiatorEmpty _ _ current empty
        · simp [popIdle, empty] at stepped
  · by_cases positive : 0 < s.shutdownThreads
    · simp only [gt_iff_lt, positive, if_true, Option.some.injEq] at stepped
      cases stepped; exact .retry _ _ current positive
    · simp only [gt_iff_lt, positive, if_false, Option.some.injEq] at stepped
      cases stepped; exact .skip _ _ current (Int.not_lt.mp positive)
  · cases stepped; exact .designate _ _ _ current
  · cases stepped; exact .finish current
  · rename_i cpu rest
    cases found : s.shutdownControlerThread cpu with
    | none =>
        simp only [found, Option.some.injEq] at stepped
        cases stepped; exact .joinMissing _ _ current found
    | some controller =>
        by_cases done : s.workers controller = .exited
        · simp only [found, done, if_true, Option.some.injEq] at stepped
          cases stepped; exact .joinController _ _ _ current found done
        · simp [found, done] at stepped
  all_goals cases stepped

theorem transition_of_workerStep {s next : ShutdownState} {id : Nat} {choice : Option Nat}
    (stepped : s.workerStep id choice = some next) : Transition s next := by
  unfold ShutdownState.workerStep at stepped
  split at stepped
  · rename_i worker
    split at stepped <;> rename_i current
    · cases stepped; exact .park _ worker current
    · rename_i cpu
      by_cases controls : s.shutdownControlerThread cpu = some id
      · simp only [controls, if_true, Option.some.injEq] at stepped
        cases stepped; exact .enter _ _ worker current controls
      · simp only [controls, if_false, Option.some.injEq] at stepped
        cases stepped; exact .leave _ _ worker current controls
    · rename_i cpu isMainController
      cases choice with
      | some idleThread =>
          by_cases idle : idleThread ∈ s.idleThreads
          · simp only [popIdle, if_pos idle, Option.map_some', Option.some.injEq] at stepped
            cases stepped; exact .controllerPop _ _ _ _ worker current idle
          · simp [popIdle, idle] at stepped
      | none =>
          by_cases empty : s.idleThreads = []
          · simp only [popIdle, if_pos empty, Option.map_some', Option.some.injEq] at stepped
            cases isMainController
            · cases stepped; exact .controllerDone _ _ worker current empty
            · cases stepped; exact .mainFindsNone _ _ worker current empty
          · simp [popIdle, empty] at stepped
    · cases stepped; exact .resumeNext _ _ _ _ worker current
    · rename_i cpu isMainController nextWorker
      by_cases done : s.workers nextWorker = .exited
      · simp only [done, if_true, Option.some.injEq] at stepped
        cases stepped; exact .joinNext _ _ _ _ worker current done
      · simp [done] at stepped
    · by_cases last : s.shutdownThreads = 1
      · simp only [last, if_true, Option.some.injEq] at stepped
        cases stepped; exact .lastOut _ _ worker current last
      · simp only [last, if_false, Option.some.injEq] at stepped
        cases stepped; exact .keepPolling _ _ worker current last
    · cases stepped; exact .decrement _ worker current
    · cases stepped; exact .exit _ worker current
    all_goals cases stepped
  · cases stepped

theorem transition_of_step {s next : ShutdownState} {action : ShutdownAction}
    (stepped : s.step action = some next) : Transition s next := by
  cases action with
  | initiator choice => exact transition_of_initiatorStep stepped
  | worker id choice => exact transition_of_workerStep stepped

end Nanos6.Executors
