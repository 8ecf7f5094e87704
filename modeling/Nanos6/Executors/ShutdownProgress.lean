import Nanos6.Executors.ShutdownSafety
import Mathlib.Algebra.Order.BigOperators.Group.Finset

namespace Nanos6.Executors

/-! # The collective shutdown always can complete

The measure `ShutdownState.remaining` is lowered by one step or a pair of steps from every
reachable state but the final one. A controller's round from `pop` to `joinNext` is paid for by
the worker it pops, which never goes back.
-/

/-- A worker resumed by its controller and outside any controller loop: it can go on alone. -/
def WorkerPc.isFollowing : WorkerPc → Bool
  | .resumed _ | .decrement | .exiting | .exited => true
  | .running | .parked | .claimed | .pop _ _ | .resumeNext _ _ _ | .joinNext _ _ _
  | .checkLast _ => false

/-- A controller joins only a worker it has already resumed: the `pthread_join` after
`resume` never waits on a worker that is itself waiting to be resumed or joined. -/
def Following (s : ShutdownState) : Prop :=
  ∀ x cpu isMain w, s.workers x = .joinNext cpu isMain w → (s.workers w).isFollowing

namespace Following

variable {s next : ShutdownState}

theorem init (totalThreads : Nat) (cpus : List Nat) :
    Following (ShutdownState.init totalThreads cpus) :=
  fun _ _ _ _ joining => nomatch joining

theorem unjoined (following : Following s) {w : Nat} (notFollowing : (s.workers w).isFollowing = false)
    {x cpu : Nat} {isMain : Bool} (joining : s.workers x = .joinNext cpu isMain w) : False := by
  simp [following x cpu isMain w joining] at notFollowing

theorem update (following : Following s) {id : Nat} {pc : WorkerPc}
    (workers : next.workers = Function.update s.workers id pc)
    (leads : ∀ cpu isMain w, pc = .joinNext cpu isMain w →
      (Function.update s.workers id pc w).isFollowing)
    (followed : ∀ x cpu isMain, s.workers x = .joinNext cpu isMain id → pc.isFollowing) :
    Following next := by
  intro x cpu isMain w joining
  rw [workers] at joining ⊢
  by_cases same : x = id
  · subst same
    rw [Function.update_same] at joining
    exact leads cpu isMain w joining
  · rw [Function.update_noteq same] at joining
    by_cases target : w = id
    · subst target
      rw [Function.update_same]
      exact followed x cpu isMain joining
    · rw [Function.update_noteq target]
      exact following x cpu isMain w joining

theorem update_unjoined (following : Following s) {id : Nat} {pc : WorkerPc}
    (workers : next.workers = Function.update s.workers id pc)
    (notFollowing : (s.workers id).isFollowing = false)
    (leads : ∀ cpu isMain w, pc ≠ .joinNext cpu isMain w) : Following next :=
  following.update workers (fun cpu isMain w same => absurd same (leads cpu isMain w))
    fun _ _ _ joining => (following.unjoined notFollowing joining).elim

theorem transition (inv : ShutdownInvariant s) (following : Following s)
    (transition : Transition s next) : Following next := by
  cases transition with
  | setup | visitDone | visitNext | initiatorEmpty | retry | skip | joinController | joinMissing
  | finish => exact following
  | initiatorPop cpu rest w current idle =>
      -- the popped worker was parked
      exact following.update_unjoined rfl (by simp [(inv.idle_iff w).mp idle, WorkerPc.isFollowing])
        nofun
  | designate cpu w rest current =>
      exact following.update rfl nofun fun _ _ _ _ => rfl
  | park id within current =>
      exact following.update_unjoined rfl (by simp [current, WorkerPc.isFollowing]) nofun
  | enter id cpu within current controls =>
      -- a worker about to become a controller was popped by the initiator, never by a controller
      refine following.update rfl nofun fun x _ _ joining => ?_
      have poppedByWorker := (inv.joining x _ _ id joining).1
      have poppedByInitiator := inv.controller_popped cpu id controls
      cases popper_unique inv.popped_nodup poppedByWorker poppedByInitiator
  | leave id cpu within current controls =>
      exact following.update rfl nofun fun _ _ _ _ => rfl
  | controllerPop id cpu isMain w within current idle =>
      have parked := (inv.idle_iff w).mp idle
      have distinct : id ≠ w := by rintro rfl; rw [current] at parked; cases parked
      have claimed : Following (s.claim w (.worker id)) :=
        following.update_unjoined rfl (by simp [parked, WorkerPc.isFollowing]) nofun
      exact claimed.update_unjoined rfl
        (by simp [Function.update_noteq distinct, current, WorkerPc.isFollowing]) nofun
  | mainFindsNone id cpu within current empty | controllerDone id cpu within current empty
  | lastOut id cpu within current last | keepPolling id cpu within current last =>
      exact following.update_unjoined rfl (by simp [current, WorkerPc.isFollowing]) nofun
  | resumeNext id cpu isMain w within current =>
      have claimed := (inv.resuming id cpu isMain w current).1
      have distinct : w ≠ id := by rintro rfl; rw [current] at claimed; cases claimed
      have resumed : Following (s.setWorker w (.resumed cpu)) :=
        following.update rfl nofun fun _ _ _ _ => rfl
      refine resumed.update rfl (fun _ _ target same => ?_) fun x _ _ joining =>
        (resumed.unjoined (by simp [Function.update_noteq distinct.symm, current,
          WorkerPc.isFollowing]) joining).elim
      cases same
      simp [Function.update_noteq distinct, WorkerPc.isFollowing]
  | joinNext id cpu isMain w within current exited =>
      exact following.update_unjoined rfl (by simp [current, WorkerPc.isFollowing]) nofun
  | decrement id within current | exit id within current =>
      exact following.update rfl nofun fun _ _ _ _ => rfl

end Following

theorem following_of_reachable {totalThreads : Nat} {cpus : List Nat}
    (workers : 0 < totalThreads) (visited : cpus ≠ []) (distinct : cpus.Nodup) {s : ShutdownState}
    (reachable : ShutdownReachable (ShutdownState.init totalThreads cpus) s) : Following s := by
  induction reachable with
  | start => exact Following.init totalThreads cpus
  | step reached stepped following =>
      exact following.transition (shutdownInvariant_of_reachable workers visited distinct reached)
        (transition_of_step stepped)

/-- Every transition is a step of the model: `Transition` says exactly what `step` can do. -/
theorem step_of_transition {s next : ShutdownState} (transition : Transition s next) :
    ∃ action, s.step action = some next := by
  cases transition with
  | initiatorPop cpu rest w current idle =>
      exact ⟨.initiator (some w), by
        simp [ShutdownState.step, ShutdownState.initiatorStep, current, popIdle, idle]⟩
  | controllerPop id cpu isMain w within current idle =>
      exact ⟨.worker id (some w), by
        simp [ShutdownState.step, ShutdownState.workerStep, within, current, popIdle, idle]⟩
  | skip cpu rest current nonpositive =>
      exact ⟨.initiator none, by simp [ShutdownState.step, ShutdownState.initiatorStep, current,
        Int.not_lt.mpr nonpositive]⟩
  | setup | visitDone | visitNext | initiatorEmpty | retry | designate | joinController
  | joinMissing | finish =>
      exact ⟨.initiator none, by simp_all [ShutdownState.step, ShutdownState.initiatorStep, popIdle]⟩
  | park id | enter id | leave id | mainFindsNone id | controllerDone id | resumeNext id
  | joinNext id | lastOut id | keepPolling id | decrement id | exit id =>
      exact ⟨.worker id none, by simp_all [ShutdownState.step, ShutdownState.workerStep, popIdle]⟩

/-- The steps a worker has still to take, an exited worker's join counted as one more. A
controller's round from `pop` through `resumeNext` and `joinNext` back to `pop` raises its own
count by one; the worker it pops and joins pays for it. -/
def WorkerPc.remaining (joined : Bool) : WorkerPc → Nat
  | .running => 12
  | .parked => 11
  | .claimed => 10
  | .resumed _ => 9
  | .pop _ _ => 8
  | .resumeNext _ _ _ | .checkLast _ => 7
  | .joinNext _ _ _ => 6
  | .decrement => 5
  | .exiting => 4
  | .exited => if joined then 0 else 3

theorem WorkerPc.remaining_le_unjoined (pc : WorkerPc) (joined : Bool) :
    pc.remaining joined ≤ pc.remaining false := by
  cases pc <;> cases joined <;> simp [WorkerPc.remaining]

/-- The steps the initiator has still to take, with `participating` CPUs designated so far:
four for each CPU still to visit, one for each controller to join. The retry of an empty
`getIdleThread` raises it by one, and the pop that ends the retries pays for it. -/
def InitiatorPc.remaining (participating : Nat) : InitiatorPc → Nat
  | .start cpus => 4 * cpus.length + participating + 3
  | .visit cpus => 4 * cpus.length + participating + 2
  | .tryPop _ rest => 4 * rest.length + participating + 5
  | .checkRemaining _ rest | .designate _ _ rest => 4 * rest.length + participating + 4
  | .join cpus => cpus.length + 1
  | .returned | .failed => 0

namespace ShutdownState

def isJoined (s : ShutdownState) (w : Nat) : Bool := decide (w ∈ s.joined.map Prod.fst)

def workerRemaining (s : ShutdownState) (w : Nat) : Nat := (s.workers w).remaining (s.isJoined w)

def workersRemaining (s : ShutdownState) : Nat := (Finset.range s.totalThreads).sum s.workerRemaining

def remaining (s : ShutdownState) : Nat :=
  s.initiator.remaining s.participatingCPUs.length + s.workersRemaining

theorem sum_range_update_add {n i : Nat} (within : i < n) (g : Nat → Nat) (v : Nat) :
    (Finset.range n).sum (Function.update g i v) + g i = (Finset.range n).sum g + v := by
  have member := Finset.mem_range.mpr within
  rw [Finset.sum_update_of_mem member, Finset.sum_eq_add_sum_diff_singleton member g]
  omega

variable {s : ShutdownState}

theorem workersRemaining_setWorker {id : Nat} (within : id < s.totalThreads) (pc : WorkerPc) :
    (s.setWorker id pc).workersRemaining + s.workerRemaining id =
      s.workersRemaining + pc.remaining (s.isJoined id) := by
  have updated : (s.setWorker id pc).workerRemaining =
      Function.update s.workerRemaining id (pc.remaining (s.isJoined id)) :=
    funext (Function.apply_update (fun w pc => WorkerPc.remaining (s.isJoined w) pc) s.workers id pc)
  rw [workersRemaining, updated]
  exact sum_range_update_add within _ _

theorem workersRemaining_join {next : ShutdownState} {w : Nat} {agent : Agent}
    (total : next.totalThreads = s.totalThreads) (workers : next.workers = s.workers)
    (joined : next.joined = s.joined ++ [(w, agent)]) (within : w < s.totalThreads)
    (exited : s.workers w = .exited) (fresh : w ∉ s.joined.map Prod.fst) :
    next.workersRemaining + 3 = s.workersRemaining := by
  have updated : next.workerRemaining = Function.update s.workerRemaining w 0 := by
    funext v
    rw [workerRemaining, isJoined, workers, joined]
    by_cases same : v = w
    · subst same
      have joinedNow : v ∈ (s.joined ++ [(v, agent)]).map Prod.fst :=
        List.mem_map.mpr ⟨(v, agent), List.mem_append_right _ (List.mem_singleton_self _), rfl⟩
      simp only [joinedNow, decide_True, exited, WorkerPc.remaining, if_true, Function.update_same]
    · have unchanged : decide (v ∈ (s.joined ++ [(w, agent)]).map Prod.fst) =
          decide (v ∈ s.joined.map Prod.fst) := decide_eq_decide.mpr (by simp [same])
      rw [unchanged, Function.update_noteq same, workerRemaining, isJoined]
  have current : s.workerRemaining w = 3 := by
    simp [workerRemaining, isJoined, exited, fresh, WorkerPc.remaining]
  have := sum_range_update_add within s.workerRemaining 0
  rw [← updated, current] at this
  rw [workersRemaining, workersRemaining, total]
  omega

theorem workerRemaining_of {w : Nat} {pc : WorkerPc} (current : s.workers w = pc) :
    s.workerRemaining w = pc.remaining (s.isJoined w) := by
  rw [workerRemaining, current]

@[simp] theorem isJoined_setWorker (id : Nat) (pc : WorkerPc) :
    (s.setWorker id pc).isJoined = s.isJoined := rfl

@[simp] theorem workerRemaining_setWorker_ne {id w : Nat} {pc : WorkerPc} (distinct : w ≠ id) :
    (s.setWorker id pc).workerRemaining w = s.workerRemaining w := by
  rw [workerRemaining, workerRemaining, isJoined_setWorker, setWorker_workers,
    Function.update_noteq distinct]

theorem remaining_setWorker {id : Nat} (within : id < s.totalThreads) (pc : WorkerPc) :
    (s.setWorker id pc).remaining + s.workerRemaining id =
      s.remaining + pc.remaining (s.isJoined id) := by
  have := s.workersRemaining_setWorker within pc
  show s.initiator.remaining s.participatingCPUs.length + (s.setWorker id pc).workersRemaining +
    s.workerRemaining id = s.initiator.remaining s.participatingCPUs.length + s.workersRemaining + _
  omega

theorem remaining_setWorker_lt {id : Nat} {pc : WorkerPc} (within : id < s.totalThreads)
    (lower : pc.remaining (s.isJoined id) < (s.workers id).remaining (s.isJoined id)) :
    (s.setWorker id pc).remaining < s.remaining := by
  have := s.remaining_setWorker within pc
  rw [workerRemaining] at this
  omega

theorem remaining_setWorker_setWorker_lt {first second : Nat} {firstPc secondPc : WorkerPc}
    (firstWithin : first < s.totalThreads) (secondWithin : second < s.totalThreads)
    (distinct : second ≠ first)
    (lower : firstPc.remaining (s.isJoined first) + secondPc.remaining (s.isJoined second) <
      (s.workers first).remaining (s.isJoined first) + (s.workers second).remaining (s.isJoined second)) :
    ((s.setWorker first firstPc).setWorker second secondPc).remaining < s.remaining := by
  have moved := s.remaining_setWorker firstWithin firstPc
  have movedToo := (s.setWorker first firstPc).remaining_setWorker secondWithin secondPc
  rw [workerRemaining_setWorker_ne distinct, isJoined_setWorker, workerRemaining] at movedToo
  rw [workerRemaining] at moved
  omega

theorem remaining_initiatorPop_lt {cpu next : Nat} {rest : List Nat}
    (current : s.initiator = .tryPop cpu rest ∨ s.initiator = .checkRemaining cpu rest)
    (within : next < s.totalThreads) (parked : s.workers next = .parked) :
    { s.claim next .initiator with initiator := .designate cpu next rest }.remaining <
      s.remaining := by
  have claiming := s.workersRemaining_setWorker within .claimed
  rw [workerRemaining_of parked] at claiming
  show (InitiatorPc.designate cpu next rest).remaining s.participatingCPUs.length +
    (s.setWorker next .claimed).workersRemaining <
      s.initiator.remaining s.participatingCPUs.length + s.workersRemaining
  rcases current with current | current <;> rw [current] <;>
    simp only [InitiatorPc.remaining, WorkerPc.remaining] at claiming ⊢ <;> omega

theorem remaining_lt_of_initiator {next : ShutdownState} (total : next.totalThreads = s.totalThreads)
    (workers : next.workers = s.workers) (joined : next.joined = s.joined)
    (lower : next.initiator.remaining next.participatingCPUs.length <
      s.initiator.remaining s.participatingCPUs.length) :
    next.remaining < s.remaining := by
  have same : next.workersRemaining = s.workersRemaining := by
    rw [workersRemaining, workersRemaining, total]
    congr 1
    funext w
    rw [workerRemaining, workerRemaining, isJoined, isJoined, workers, joined]
  rw [remaining, remaining, same]
  omega

theorem workersRemaining_join_le {next : ShutdownState} {w : Nat} {agent : Agent}
    (total : next.totalThreads = s.totalThreads) (workers : next.workers = s.workers)
    (joined : next.joined = s.joined ++ [(w, agent)]) :
    next.workersRemaining ≤ s.workersRemaining := by
  rw [workersRemaining, workersRemaining, total]
  refine Finset.sum_le_sum fun v _ => ?_
  rw [workerRemaining, workerRemaining, isJoined, isJoined, workers, joined]
  by_cases before : v ∈ s.joined.map Prod.fst
  · have after : v ∈ (s.joined ++ [(w, agent)]).map Prod.fst := by
      rw [List.map_append]; exact List.mem_append_left _ before
    simp only [after, before, decide_True, le_refl]
  · simp only [before, decide_False]
    exact (s.workers v).remaining_le_unjoined _

theorem remaining_lt_of_workers {next : ShutdownState} (initiator : next.initiator = s.initiator)
    (participating : next.participatingCPUs = s.participatingCPUs)
    (lower : next.workersRemaining < s.workersRemaining) : next.remaining < s.remaining := by
  rw [remaining, remaining, initiator, participating]
  omega

theorem remaining_lt_of_le {next : ShutdownState}
    (initiator : next.initiator.remaining next.participatingCPUs.length <
      s.initiator.remaining s.participatingCPUs.length)
    (workers : next.workersRemaining ≤ s.workersRemaining) : next.remaining < s.remaining := by
  rw [remaining, remaining]
  omega

end ShutdownState

theorem ShutdownState.run_append (s : ShutdownState) (first second : List ShutdownAction) :
    s.run (first ++ second) = (s.run first).bind (·.run second) := by
  induction first generalizing s with
  | nil => rfl
  | cons action rest extend =>
      simp only [List.cons_append, ShutdownState.run]
      cases s.step action with
      | none => rfl
      | some middle => exact extend middle

/-- Some run from `s` lowers what is left to do. -/
def Advance (s : ShutdownState) : Prop :=
  ∃ actions next, s.run actions = some next ∧ next.remaining < s.remaining

namespace Advance

variable {s middle next : ShutdownState}

theorem of_transition (transition : Transition s next) (lower : next.remaining < s.remaining) :
    Advance s := by
  obtain ⟨action, stepped⟩ := step_of_transition transition
  exact ⟨[action], next, by simp [ShutdownState.run, stepped], lower⟩

theorem of_transitions (first : Transition s middle) (second : Transition middle next)
    (lower : next.remaining < s.remaining) : Advance s := by
  obtain ⟨action, stepped⟩ := step_of_transition first
  obtain ⟨action', stepped'⟩ := step_of_transition second
  exact ⟨[action, action'], next, by simp [ShutdownState.run, stepped, stepped'], lower⟩

end Advance

/-- The statements from which a worker always has a step of its own. -/
def WorkerPc.isFree : WorkerPc → Bool
  | .running | .resumed _ | .pop _ _ | .resumeNext _ _ _ | .decrement | .exiting => true
  | .parked | .claimed | .joinNext _ _ _ | .checkLast _ | .exited => false

theorem WorkerPc.isFree_of_isFollowing {pc : WorkerPc} (following : pc.isFollowing)
    (notExited : pc ≠ .exited) : pc.isFree := by
  cases pc <;> simp_all [isFollowing, isFree]

theorem exists_not_mem_of_length_lt {l : List Nat} {n : Nat} (short : l.length < n) :
    ∃ w < n, w ∉ l := by
  by_contra covered
  push_neg at covered
  have := ((List.nodup_range n).subperm fun w member => covered w (List.mem_range.mp member)).length_le
  rw [List.length_range] at this
  omega

namespace ShutdownInvariant

variable {s : ShutdownState} (inv : ShutdownInvariant s)
include inv

theorem within_of_parked {w : Nat} (parked : s.workers w = .parked) : w < s.totalThreads := by
  by_contra outside
  rw [inv.outside w (Nat.le_of_not_lt outside)] at parked
  cases parked

theorem advance_of_free {w : Nat} (within : w < s.totalThreads) (free : (s.workers w).isFree) :
    Advance s := by
  cases current : s.workers w with
  | running =>
      have lower : (s.setWorker w .parked).remaining < s.remaining :=
        ShutdownState.remaining_setWorker_lt within (by simp [current, WorkerPc.remaining])
      exact .of_transition (.park w within current) lower
  | resumed cpu =>
      by_cases controls : s.shutdownControlerThread cpu = some w
      · exact .of_transition (.enter w cpu within current controls)
          (ShutdownState.remaining_setWorker_lt within (by simp [current, WorkerPc.remaining]))
      · exact .of_transition (.leave w cpu within current controls)
          (ShutdownState.remaining_setWorker_lt within (by simp [current, WorkerPc.remaining]))
  | pop cpu isMain =>
      cases idle : s.idleThreads with
      | nil =>
          cases isMain
          · exact .of_transition (.controllerDone w cpu within current idle)
              (ShutdownState.remaining_setWorker_lt within (by simp [current, WorkerPc.remaining]))
          · exact .of_transition (.mainFindsNone w cpu within current idle)
              (ShutdownState.remaining_setWorker_lt within (by simp [current, WorkerPc.remaining]))
      | cons next rest =>
          -- the popped worker pays for the controller's round
          have member : next ∈ s.idleThreads := by simp [idle]
          have parked := (inv.idle_iff next).mp member
          have distinct : w ≠ next := by rintro rfl; rw [current] at parked; cases parked
          have lower : ((s.setWorker next .claimed).setWorker w (.resumeNext cpu isMain next)).remaining <
              s.remaining :=
            ShutdownState.remaining_setWorker_setWorker_lt (inv.within_of_parked parked) within distinct
              (by simp [parked, current, WorkerPc.remaining])
          exact .of_transition (.controllerPop w cpu isMain next within current member) lower
  | resumeNext cpu isMain next =>
      have claimedNext := (inv.resuming w cpu isMain next current).1
      have distinct : w ≠ next := by rintro rfl; rw [current] at claimedNext; cases claimedNext
      have nextWithin : next < s.totalThreads :=
        inv.within_of_popped (by simp [claimedNext, WorkerPc.isPopped] : (s.workers next).isPopped)
      exact .of_transition (.resumeNext w cpu isMain next within current)
        (ShutdownState.remaining_setWorker_setWorker_lt nextWithin within distinct
          (by simp [claimedNext, current, WorkerPc.remaining]))
  | decrement =>
      have lower : (s.setWorker w .exiting).remaining < s.remaining :=
        ShutdownState.remaining_setWorker_lt within (by simp [current, WorkerPc.remaining])
      exact .of_transition (.decrement w within current) lower
  | exiting =>
      refine .of_transition (.exit w within current)
        (ShutdownState.remaining_setWorker_lt within ?_)
      cases s.isJoined w <;> simp [current, WorkerPc.remaining]
  | parked | claimed | joinNext | checkLast | exited => simp [current, WorkerPc.isFree] at free

theorem advance_of_claimed (following : Following s) {w : Nat} (claimed : s.workers w = .claimed) :
    Advance s := by
  have popped : (s.workers w).isPopped := by simp [claimed, WorkerPc.isPopped]
  have within := inv.within_of_popped popped
  obtain ⟨⟨_, agent⟩, poppedBy, rfl⟩ := List.mem_map.mp ((inv.popped_iff w).mpr popped)
  cases agent with
  | initiator =>
      rcases inv.initiator_popped _ poppedBy with ⟨cpu, found⟩ | ⟨cpu, rest, designating⟩
      · have active := inv.controller_active cpu _ found
        rw [claimed] at active
        cases active
      · -- the initiator designates it as the CPU's controller
        have resumed := s.workersRemaining_setWorker within (.resumed cpu)
        rw [ShutdownState.workerRemaining_of claimed] at resumed
        refine .of_transition (.designate cpu _ rest designating) ?_
        show (InitiatorPc.visit rest).remaining (cpu :: s.participatingCPUs).length +
          (s.setWorker _ (.resumed cpu)).workersRemaining <
            s.initiator.remaining s.participatingCPUs.length + s.workersRemaining
        rw [designating]
        simp only [InitiatorPc.remaining, WorkerPc.remaining, List.length_cons] at resumed ⊢
        omega
  | worker x =>
      rcases inv.holders _ x poppedBy with joinedBy | holding
      · have exited := inv.joined_exited _ _ joinedBy
        rw [claimed] at exited
        cases exited
      · cases holder : s.workers x <;> rw [holder] at holding <;>
          simp only [WorkerPc.holds, Option.some.injEq, reduceCtorEq] at holding
        case resumeNext =>
          exact inv.advance_of_free (inv.within_of_popped
            (by simp [holder, WorkerPc.isPopped] : (s.workers x).isPopped))
            (by simp [holder, WorkerPc.isFree] : (s.workers x).isFree)
        case joinNext =>
          -- a controller joins only workers it has resumed
          subst holding
          exact (following.unjoined (by simp [claimed, WorkerPc.isFollowing]) holder).elim

theorem advance_of_joining (following : Following s) {x cpu w : Nat} {isMain : Bool}
    (joining : s.workers x = .joinNext cpu isMain w) : Advance s := by
  have within := inv.within_of_popped (by simp [joining, WorkerPc.isPopped] : (s.workers x).isPopped)
  obtain ⟨poppedBy, fresh⟩ := inv.joining x cpu isMain w joining
  have target := inv.within_of_popped ((inv.popped_iff w).mp (List.mem_map_of_mem Prod.fst poppedBy))
  by_cases exited : s.workers w = .exited
  · have distinct : w ≠ x := by rintro rfl; rw [joining] at exited; cases exited
    have popping := s.workersRemaining_setWorker within (.pop cpu isMain)
    have exitedAfter : (s.setWorker x (.pop cpu isMain)).workers w = .exited := by
      simp [Function.update_noteq distinct, exited]
    rw [ShutdownState.workerRemaining_of joining] at popping
    simp only [WorkerPc.remaining] at popping
    -- the controller goes back to `pop`, and the worker it joins pays for that
    exact .of_transition (.joinNext x cpu isMain w within joining exited)
      (ShutdownState.remaining_lt_of_workers rfl rfl (Nat.lt_of_add_lt_add_right (Eq.trans_lt
        ((s.setWorker x (.pop cpu isMain)).workersRemaining_join rfl rfl rfl target exitedAfter fresh)
        (by omega))))
  · exact inv.advance_of_free target
      (WorkerPc.isFree_of_isFollowing (following x cpu isMain w joining) exited)

theorem advance_of_busy (following : Following s) {w : Nat} (within : w < s.totalThreads)
    (notParked : s.workers w ≠ .parked) (notExited : s.workers w ≠ .exited)
    (notLast : ∀ cpu, s.workers w ≠ .checkLast cpu) : Advance s := by
  cases current : s.workers w with
  | claimed => exact inv.advance_of_claimed following current
  | joinNext => exact inv.advance_of_joining following current
  | parked => exact absurd current notParked
  | exited => exact absurd current notExited
  | checkLast cpu => exact absurd current (notLast cpu)
  | running | resumed | pop | resumeNext | decrement | exiting =>
      exact inv.advance_of_free within (by simp [current, WorkerPc.isFree])

theorem isStart_eq_false {w : Nat} (active : (s.workers w).isActive) : s.initiator.isStart = false := by
  cases start : s.initiator.isStart
  · rfl
  · exact absurd (inv.unstarted start).2 (inv.started w active)

theorem advance_of_checkLast (following : Following s) {m cpu : Nat}
    (current : s.workers m = .checkLast cpu) : Advance s := by
  have within := inv.within_of_popped (by simp [current, WorkerPc.isPopped] : (s.workers m).isPopped)
  by_cases last : s.shutdownThreads = 1
  · exact .of_transition (.lastOut m cpu within current last)
      (ShutdownState.remaining_setWorker_lt within (by simp [current, WorkerPc.remaining]))
  cases idle : s.idleThreads with
  | cons next rest =>
      -- one more round of the loop, which pops `next`
      have member : next ∈ s.idleThreads := by simp [idle]
      have parked := (inv.idle_iff next).mp member
      have distinct : m ≠ next := by rintro rfl; rw [current] at parked; cases parked
      have polling := s.remaining_setWorker within (.pop cpu true)
      have claiming := (s.setWorker m (.pop cpu true)).remaining_setWorker
        (inv.within_of_parked parked) .claimed
      have resuming := ((s.setWorker m (.pop cpu true)).setWorker next .claimed).remaining_setWorker
        within (.resumeNext cpu true next)
      rw [ShutdownState.workerRemaining_setWorker_ne distinct.symm,
        ShutdownState.workerRemaining_of parked] at claiming
      rw [ShutdownState.workerRemaining_setWorker_ne distinct,
        ShutdownState.workerRemaining_of (Function.update_same m (WorkerPc.pop cpu true) s.workers)]
        at resuming
      rw [ShutdownState.workerRemaining_of current] at polling
      refine .of_transitions (.keepPolling m cpu within current last)
        (.controllerPop m cpu true next within (Function.update_same _ _ _) member) ?_
      show (((s.setWorker m (.pop cpu true)).setWorker next .claimed).setWorker m
        (.resumeNext cpu true next)).remaining < s.remaining
      simp only [WorkerPc.remaining, ShutdownState.isJoined_setWorker] at polling claiming resuming
      omega
  | nil =>
      have notDecremented : m ∉ s.decremented := by
        simp [inv.decremented_iff, current, WorkerPc.isDecremented]
      have counted := inv.counter
        (inv.isStart_eq_false (by simp [current, WorkerPc.isActive] : (s.workers m).isActive))
      have bounded := ((List.nodup_cons.mpr ⟨notDecremented, inv.decremented_nodup⟩).subperm
        fun w member => List.mem_range.mpr (by
          rcases List.mem_cons.mp member with rfl | member
          · exact within
          · exact inv.decremented_below w member)).length_le
      have nonneg := inv.shutdownThreads_nonneg
      simp only [List.length_cons, List.length_range] at bounded
      obtain ⟨w, below, other⟩ := exists_not_mem_of_length_lt
        (show (m :: s.decremented).length < s.totalThreads by simp only [List.length_cons]; omega)
      have distinct := List.ne_of_not_mem_cons other
      have fresh := List.not_mem_of_not_mem_cons other
      refine inv.advance_of_busy following below (fun parked => ?_) (fun exited => ?_)
        fun cpu' checking => ?_
      · simpa [idle] using (inv.idle_iff w).mpr parked
      · exact fresh ((inv.decremented_iff w).mpr (by simp [exited, WorkerPc.isDecremented]))
      · -- only the main controller checks whether it is the last
        have mainIsW := of_decide_eq_true
          (inv.controlling w cpu' true (by simp [checking, WorkerPc.controls])).2.symm
        have mainIsM := of_decide_eq_true
          (inv.controlling m cpu true (by simp [current, WorkerPc.controls])).2.symm
        exact distinct (Option.some.inj (mainIsW.symm.trans mainIsM))

theorem advance_of_unfinished (following : Following s) {w : Nat} (within : w < s.totalThreads)
    (notParked : s.workers w ≠ .parked) (notExited : s.workers w ≠ .exited) : Advance s := by
  by_cases checking : ∃ cpu, s.workers w = .checkLast cpu
  · obtain ⟨cpu, current⟩ := checking
    exact inv.advance_of_checkLast following current
  · exact inv.advance_of_busy following within notParked notExited fun cpu current =>
      checking ⟨cpu, current⟩

/-- Until `shutdown()` returns, some run lowers what is left to do. -/
theorem advance (following : Following s) (running : s.initiator ≠ .returned) : Advance s := by
  cases current : s.initiator with
  | start cpus =>
      exact .of_transition (.setup cpus current) (ShutdownState.remaining_lt_of_initiator rfl rfl rfl
        (by simp [current, InitiatorPc.remaining]))
  | visit cpus =>
      cases cpus with
      | nil =>
          exact .of_transition (.visitDone current) (ShutdownState.remaining_lt_of_initiator rfl rfl rfl
            (by simp [current, InitiatorPc.remaining]))
      | cons cpu rest =>
          exact .of_transition (.visitNext cpu rest current)
            (ShutdownState.remaining_lt_of_initiator rfl rfl rfl
              (by simp [current, InitiatorPc.remaining]; omega))
  | tryPop cpu rest =>
      cases idle : s.idleThreads with
      | nil =>
          exact .of_transition (.initiatorEmpty cpu rest current idle)
            (ShutdownState.remaining_lt_of_initiator rfl rfl rfl
              (by simp [current, InitiatorPc.remaining]))
      | cons next more =>
          have parked := (inv.idle_iff next).mp (by simp [idle])
          exact .of_transition (.initiatorPop cpu rest next current ((inv.idle_iff next).mpr parked))
            (ShutdownState.remaining_initiatorPop_lt (.inl current) (inv.within_of_parked parked)
              parked)
  | checkRemaining cpu rest =>
      by_cases positive : 0 < s.shutdownThreads
      · cases idle : s.idleThreads with
        | cons next more =>
            -- one more round of the loop, which pops `next`
            have parked := (inv.idle_iff next).mp (by simp [idle])
            exact .of_transitions (.retry cpu rest current positive)
              (.initiatorPop cpu rest next rfl ((inv.idle_iff next).mpr parked))
              (ShutdownState.remaining_initiatorPop_lt (.inr current) (inv.within_of_parked parked)
                parked)
        | nil =>
            -- some worker has not decremented yet, and it is neither parked nor exited
            have counted := inv.counter (by rw [current]; rfl)
            obtain ⟨w, below, fresh⟩ := exists_not_mem_of_length_lt
              (show s.decremented.length < s.totalThreads by omega)
            refine inv.advance_of_unfinished following below (fun parked => ?_) fun exited => ?_
            · simpa [idle] using (inv.idle_iff w).mpr parked
            · exact fresh ((inv.decremented_iff w).mpr (by simp [exited, WorkerPc.isDecremented]))
      · exact .of_transition (.skip cpu rest current (Int.not_lt.mp positive))
          (ShutdownState.remaining_lt_of_initiator rfl rfl rfl
            (by simp [current, InitiatorPc.remaining]))
  | designate cpu w rest =>
      exact inv.advance_of_claimed following (inv.designating cpu w rest current).1
  | join cpus =>
      cases cpus with
      | nil =>
          exact .of_transition (.finish current) (ShutdownState.remaining_lt_of_initiator rfl rfl rfl
            (by simp [current, InitiatorPc.remaining]))
      | cons cpu rest =>
          obtain ⟨done, participating, -⟩ := inv.joins_during (cpu :: rest) (by rw [current]; rfl)
          obtain ⟨c, found⟩ := inv.participating_controller cpu (by simp [participating])
          have active := inv.controller_active cpu c found
          by_cases exited : s.workers c = .exited
          · exact .of_transition (.joinController cpu rest c current found exited)
              (ShutdownState.remaining_lt_of_le (by simp [current, InitiatorPc.remaining])
                (s.workersRemaining_join_le rfl rfl rfl))
          · exact inv.advance_of_unfinished following
              (inv.within_of_popped (WorkerPc.isPopped_of_isActive active))
              (fun parked => by rw [parked] at active; cases active) exited
  | returned => exact absurd current running
  | failed => exact absurd current inv.not_failed

end ShutdownInvariant

/-- However the initiator and the workers have interleaved so far, some schedule of the remaining
steps completes the shutdown: `ThreadManager::shutdown` returns, and every worker has exited. -/
theorem shutdown_can_complete {totalThreads : Nat} {cpus : List Nat} (workers : 0 < totalThreads)
    (visited : cpus ≠ []) (distinct : cpus.Nodup) {s : ShutdownState}
    (reachable : ShutdownReachable (ShutdownState.init totalThreads cpus) s) :
    ∃ actions final, s.run actions = some final ∧ final.initiator = .returned ∧
      ∀ w < totalThreads, final.workers w = .exited := by
  suffices complete : ∀ n s, s.remaining = n →
      ShutdownReachable (ShutdownState.init totalThreads cpus) s →
      ∃ actions final, s.run actions = some final ∧ final.initiator = .returned ∧
        ∀ w < totalThreads, final.workers w = .exited from
    complete _ s rfl reachable
  intro n
  induction n using Nat.strong_induction_on with
  | _ n complete =>
      intro s remaining reachable
      have inv := shutdownInvariant_of_reachable workers visited distinct reachable
      by_cases returned : s.initiator = .returned
      · refine ⟨[], s, rfl, returned, fun w below => ?_⟩
        obtain ⟨⟨_, agent⟩, joinedBy, rfl⟩ := List.mem_map.mp
          (inv.joined_of_returned returned w (by rw [reachable.totalThreads]; exact below))
        exact inv.joined_exited _ agent joinedBy
      · obtain ⟨actions, next, ran, lower⟩ :=
          inv.advance (following_of_reachable workers visited distinct reachable) returned
        obtain ⟨rest, final, finished, done⟩ :=
          complete next.remaining (remaining ▸ lower) next rfl (reachable.run actions ran)
        exact ⟨actions ++ rest, final, by rw [ShutdownState.run_append, ran]; exact finished, done⟩

/-- Both workers have parked and the initiator has popped worker 0 for the first CPU. -/
def twoCPUSchedulePrefix : List ShutdownAction :=
  [.initiator none, .worker 0 none, .worker 1 none, .initiator none, .initiator (some 0)]

def twoCPUPartway : ShutdownState :=
  ((ShutdownState.init 2 [0, 1]).run twoCPUSchedulePrefix).getD (ShutdownState.init 2 [0, 1])

theorem two_cpu_partway_can_complete :
    ∃ actions final, twoCPUPartway.run actions = some final ∧ final.initiator = .returned ∧
      ∀ w < 2, final.workers w = .exited :=
  shutdown_can_complete (by decide) (by decide) (by decide)
    ((@ShutdownReachable.start (ShutdownState.init 2 [0, 1])).run twoCPUSchedulePrefix rfl)

end Nanos6.Executors
