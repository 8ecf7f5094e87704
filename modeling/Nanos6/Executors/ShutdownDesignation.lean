import Nanos6.Executors.ShutdownLedger
import Mathlib.Data.List.Perm.Basic

namespace Nanos6.Executors

/-- A worker resumed for the shutdown: in `threadShutdownSequence` or past it. -/
def WorkerPc.isActive : WorkerPc → Bool
  | .running | .parked | .claimed => false
  | .resumed _ | .pop _ _ | .resumeNext _ _ _ | .joinNext _ _ _ | .checkLast _ | .decrement
  | .exiting | .exited => true

/-- A worker at its `_shutdownThreads--` or past it. -/
def WorkerPc.isLeaving : WorkerPc → Bool
  | .decrement | .exiting | .exited => true
  | .running | .parked | .claimed | .resumed _ | .pop _ _ | .resumeNext _ _ _ | .joinNext _ _ _
  | .checkLast _ => false

/-- The CPU a shutdown controller works for, with its `isMainController`. -/
def WorkerPc.controls : WorkerPc → Option (Nat × Bool)
  | .pop cpu isMainController | .resumeNext cpu isMainController _
  | .joinNext cpu isMainController _ => some (cpu, isMainController)
  | .checkLast cpu => some (cpu, true)
  | .running | .parked | .claimed | .resumed _ | .decrement | .exiting | .exited => none

theorem WorkerPc.isActive_of_isDecremented {pc : WorkerPc} (decremented : pc.isDecremented) :
    pc.isActive := by
  cases pc <;> simp_all [isDecremented, isActive]

theorem WorkerPc.isPopped_of_isActive {pc : WorkerPc} (active : pc.isActive) : pc.isPopped := by
  cases pc <;> simp_all [isPopped, isActive]

def InitiatorPc.pending : InitiatorPc → List Nat
  | .start cpus | .visit cpus => cpus
  | .tryPop cpu rest | .checkRemaining cpu rest | .designate cpu _ rest => cpu :: rest
  | .join _ | .returned | .failed => []

def InitiatorPc.joining : InitiatorPc → Option (List Nat)
  | .join cpus => some cpus
  | .returned => some []
  | _ => none

def InitiatorPc.isStart : InitiatorPc → Bool
  | .start _ => true
  | _ => false

def joinsBy (joined : List (Nat × Agent)) (agent : Agent) : List Nat :=
  (joined.filter fun entry => entry.2 = agent).map Prod.fst

@[simp] theorem joinsBy_nil (agent : Agent) : joinsBy [] agent = [] := rfl

@[simp] theorem joinsBy_append (joined : List (Nat × Agent)) (agent joiner : Agent) (w : Nat) :
    joinsBy (joined ++ [(w, joiner)]) agent =
      joinsBy joined agent ++ if joiner = agent then [w] else [] := by
  by_cases same : joiner = agent <;> simp [joinsBy, same]

/-- Visiting the CPUs, between the first and the last `getIdleThread` of the loop. -/
def InitiatorPc.visiting : InitiatorPc → Bool
  | .visit _ | .tryPop _ _ | .checkRemaining _ _ => true
  | _ => false

theorem InitiatorPc.visiting_spec {pc : InitiatorPc} (visiting : pc.visiting) :
    pc.isStart = false ∧ pc.joining = none ∧ (∀ cpu w rest, pc ≠ .designate cpu w rest) ∧
      pc ≠ .failed := by
  cases pc <;> simp_all [InitiatorPc.visiting, isStart, joining]

/-- What the initiator has set up: the CPUs it visited, their controllers, the main controller,
and the controllers it has joined. -/
structure Designation (s : ShutdownState) : Prop where
  positive : 0 < s.totalThreads
  unstarted : s.initiator.isStart → s.shutdownThreads = 0 ∧ s.participatingCPUs = []
  counter : s.initiator.isStart = false →
    s.shutdownThreads + s.decremented.length = s.totalThreads
  pending_nodup : (s.initiator.pending ++ s.participatingCPUs).Nodup
  /-- The first CPU is not skipped. -/
  first : s.participatingCPUs = [] → s.initiator.pending ≠ []
  quiet : s.participatingCPUs = [] → ∀ w, (s.workers w).isActive = false
  controller_participating : ∀ cpu c, s.shutdownControlerThread cpu = some c →
    cpu ∈ s.participatingCPUs
  participating_controller : ∀ cpu ∈ s.participatingCPUs,
    ∃ c, s.shutdownControlerThread cpu = some c
  controller_popped : ∀ cpu c, s.shutdownControlerThread cpu = some c →
    (c, .initiator) ∈ s.popped
  controller_active : ∀ cpu c, s.shutdownControlerThread cpu = some c → (s.workers c).isActive
  controller_injective : ∀ cpu cpu' c, s.shutdownControlerThread cpu = some c →
    s.shutdownControlerThread cpu' = some c → cpu = cpu'
  initiator_popped : ∀ w, (w, .initiator) ∈ s.popped →
    (∃ cpu, s.shutdownControlerThread cpu = some w) ∨
      ∃ cpu rest, s.initiator = .designate cpu w rest
  /-- `participatingCPUs` is filled with `push_front`, so the first controller is the last. -/
  main : s.mainShutdownControllerThread =
    (s.participatingCPUs.filterMap s.shutdownControlerThread).getLast?
  joins_before : s.initiator.joining = none → joinsBy s.joined .initiator = []
  joins_during : ∀ rest, s.initiator.joining = some rest → ∃ done,
    s.participatingCPUs = done ++ rest ∧
      joinsBy s.joined .initiator = done.filterMap s.shutdownControlerThread
  not_failed : s.initiator ≠ .failed

theorem designation_init {totalThreads : Nat} {cpus : List Nat} (workers : 0 < totalThreads)
    (visited : cpus ≠ []) (distinct : cpus.Nodup) :
    Designation (ShutdownState.init totalThreads cpus) := by
  constructor <;> simp [ShutdownState.init, InitiatorPc.isStart, InitiatorPc.pending,
    InitiatorPc.joining, WorkerPc.isActive, *]

namespace Designation

variable {s : ShutdownState} (d : Designation s)
include d

theorem started (w : Nat) (active : (s.workers w).isActive) : s.participatingCPUs ≠ [] :=
  fun empty => by simp [d.quiet empty w] at active

theorem unset_of_pending (cpu : Nat) (pending : cpu ∈ s.initiator.pending) :
    s.shutdownControlerThread cpu = none := by
  cases found : s.shutdownControlerThread cpu with
  | none => rfl
  | some c =>
      exact absurd (d.controller_participating cpu c found)
        (List.disjoint_of_nodup_append d.pending_nodup pending)

theorem decremented_nil (empty : s.participatingCPUs = []) (book : Bookkeeping s) :
    s.decremented = [] :=
  List.eq_nil_iff_forall_not_mem.mpr fun w decremented => by
    have := WorkerPc.isActive_of_isDecremented ((book.decremented_iff w).mp decremented)
    simp [d.quiet empty w] at this

theorem workerFrame {next : ShutdownState} (initiator : next.initiator = s.initiator)
    (participating : next.participatingCPUs = s.participatingCPUs)
    (controllers : next.shutdownControlerThread = s.shutdownControlerThread)
    (main : next.mainShutdownControllerThread = s.mainShutdownControllerThread)
    (total : next.totalThreads = s.totalThreads)
    (poppedInitiator : ∀ w, (w, Agent.initiator) ∈ next.popped ↔ (w, .initiator) ∈ s.popped)
    (joinedInitiator : joinsBy next.joined .initiator = joinsBy s.joined .initiator)
    (counted : next.shutdownThreads + next.decremented.length =
      s.shutdownThreads + s.decremented.length)
    (unstarted : s.initiator.isStart → next.shutdownThreads = s.shutdownThreads)
    (stillActive : ∀ w, (s.workers w).isActive → (next.workers w).isActive)
    (quiet : s.participatingCPUs = [] → ∀ w, (next.workers w).isActive = false) :
    Designation next where
  positive := total ▸ d.positive
  unstarted start := by
    rw [initiator] at start
    exact ⟨(unstarted start).trans (d.unstarted start).1, participating ▸ (d.unstarted start).2⟩
  counter := by rw [initiator, total, counted]; exact d.counter
  pending_nodup := by rw [initiator, participating]; exact d.pending_nodup
  first := by rw [initiator, participating]; exact d.first
  quiet := by rw [participating]; exact quiet
  controller_participating := by rw [controllers, participating]; exact d.controller_participating
  participating_controller := by rw [controllers, participating]; exact d.participating_controller
  controller_popped cpu c found :=
    (poppedInitiator c).mpr (d.controller_popped cpu c (controllers ▸ found))
  controller_active cpu c found := stillActive c (d.controller_active cpu c (controllers ▸ found))
  controller_injective := by rw [controllers]; exact d.controller_injective
  initiator_popped w popped := by
    rw [controllers, initiator]; exact d.initiator_popped w ((poppedInitiator w).mp popped)
  main := by rw [main, participating, controllers]; exact d.main
  joins_before := by rw [initiator, joinedInitiator]; exact d.joins_before
  joins_during := by
    rw [initiator, joinedInitiator, participating, controllers]; exact d.joins_during
  not_failed := initiator ▸ d.not_failed

theorem main_controller {m : Nat} (main : s.mainShutdownControllerThread = some m) :
    ∃ cpu, s.shutdownControlerThread cpu = some m := by
  rw [d.main] at main
  obtain ⟨cpu, -, found⟩ := List.mem_filterMap.mp (List.mem_of_getLast?_eq_some main)
  exact ⟨cpu, found⟩

theorem main_isSome {cpu c : Nat} (found : s.shutdownControlerThread cpu = some c) :
    s.mainShutdownControllerThread.isSome := by
  rw [d.main, List.getLast?_isSome, ← List.length_pos]
  exact List.length_pos_of_mem
    (List.mem_filterMap.mpr ⟨cpu, d.controller_participating cpu c found, found⟩)

theorem setWorker {id : Nat} {pc : WorkerPc} (started : s.participatingCPUs ≠ [])
    (kept : (s.workers id).isActive → pc.isActive) : Designation (s.setWorker id pc) := by
  refine d.workerFrame rfl rfl rfl rfl rfl (fun _ => Iff.rfl) rfl rfl (fun _ => rfl) ?_
    (fun empty => absurd empty started)
  intro w active
  by_cases same : w = id
  · subst same; simpa using kept active
  · simpa [Function.update_noteq same] using active

theorem claimByWorker {w x : Nat} (parked : s.workers w = .parked) :
    Designation (s.claim w (.worker x)) := by
  refine d.workerFrame rfl rfl rfl rfl rfl (by simp) rfl rfl (fun _ => rfl) ?_ ?_
  · intro v active
    have distinct : v ≠ w := by rintro rfl; simp [parked, WorkerPc.isActive] at active
    simpa [Function.update_noteq distinct] using active
  · intro empty v
    by_cases same : v = w
    · subst same; simp [WorkerPc.isActive]
    · simpa [Function.update_noteq same] using d.quiet empty v

theorem joinByWorker {w x : Nat} :
    Designation { s with joined := s.joined ++ [(w, .worker x)] } :=
  d.workerFrame rfl rfl rfl rfl rfl (fun _ => Iff.rfl) (by simp) rfl (fun _ => rfl)
    (fun _ active => active) d.quiet

theorem visitStep {pc : InitiatorPc} (was : s.initiator.visiting) (now : pc.visiting)
    (pending : (pc.pending ++ s.participatingCPUs).Nodup)
    (first : s.participatingCPUs = [] → pc.pending ≠ []) :
    Designation { s with initiator := pc } := by
  obtain ⟨wasStart, wasJoining, wasDesignating, -⟩ := InitiatorPc.visiting_spec was
  obtain ⟨nowStart, nowJoining, -, nowFailed⟩ := InitiatorPc.visiting_spec now
  exact { d with
    unstarted := fun start => by simp [nowStart] at start
    counter := fun _ => d.counter wasStart
    pending_nodup := pending
    first := first
    initiator_popped := fun w popped => (d.initiator_popped w popped).imp_right
      fun ⟨cpu, rest, designating⟩ => absurd designating (wasDesignating cpu w rest)
    joins_before := fun _ => d.joins_before wasJoining
    joins_during := fun rest joining => by simp [nowJoining] at joining
    not_failed := nowFailed }

theorem designate (book : Bookkeeping s) {cpu w : Nat} {rest : List Nat}
    (current : s.initiator = .designate cpu w rest) :
    Designation { s with
      shutdownControlerThread := Function.update s.shutdownControlerThread cpu (some w)
      mainShutdownControllerThread :=
        if s.mainShutdownControllerThread = none then some w else s.mainShutdownControllerThread
      workers := Function.update s.workers w (.resumed cpu)
      participatingCPUs := cpu :: s.participatingCPUs
      initiator := .visit rest } := by
  have held := book.designating cpu w rest current
  have nodup := d.pending_nodup
  rw [current, InitiatorPc.pending, List.cons_append, List.nodup_cons, List.mem_append,
    not_or] at nodup
  have fresh := nodup.1.2
  have unset := d.unset_of_pending cpu (by simp [current, InitiatorPc.pending])
  have notController : ∀ cpu', s.shutdownControlerThread cpu' ≠ some w := fun cpu' found => by
    simpa [held.1, WorkerPc.isActive] using d.controller_active cpu' w found
  have kept : s.participatingCPUs.filterMap
      (Function.update s.shutdownControlerThread cpu (some w)) =
      s.participatingCPUs.filterMap s.shutdownControlerThread :=
    List.filterMap_congr fun cpu' member =>
      Function.update_noteq (by rintro rfl; exact fresh member) _ _
  exact { d with
    unstarted := fun start => by simp [InitiatorPc.isStart] at start
    counter := fun _ => d.counter (by rw [current]; rfl)
    pending_nodup := by simpa [InitiatorPc.pending, List.nodup_middle] using nodup
    first := by simp
    quiet := by simp
    controller_participating := fun cpu' c found => by
      by_cases same : cpu' = cpu
      · rw [same]; exact List.mem_cons_self _ _
      · simp only [Function.update_noteq same] at found
        exact List.mem_cons_of_mem _ (d.controller_participating cpu' c found)
    participating_controller := fun cpu' member => by
      by_cases same : cpu' = cpu
      · exact ⟨w, by rw [same]; simp⟩
      · simpa [Function.update_noteq same] using
          d.participating_controller cpu' ((List.mem_cons.mp member).resolve_left same)
    controller_popped := fun cpu' c found => by
      by_cases same : cpu' = cpu
      · rw [same] at found
        simp only [Function.update_same, Option.some.injEq] at found
        subst found
        exact held.2
      · simp only [Function.update_noteq same] at found
        exact d.controller_popped cpu' c found
    controller_active := fun cpu' c found => by
      by_cases resumed : c = w
      · subst resumed; simp [WorkerPc.isActive]
      · simp only [Function.update_noteq resumed]
        by_cases same : cpu' = cpu
        · rw [same] at found
          simp only [Function.update_same, Option.some.injEq] at found
          exact absurd found.symm resumed
        · exact d.controller_active cpu' c (by simpa [Function.update_noteq same] using found)
    controller_injective := fun cpu₁ cpu₂ c found₁ found₂ => by
      by_cases same₁ : cpu₁ = cpu <;> by_cases same₂ : cpu₂ = cpu
      · rw [same₁, same₂]
      · rw [same₁] at found₁
        simp only [Function.update_same, Option.some.injEq, Function.update_noteq same₂]
          at found₁ found₂
        subst found₁
        exact absurd found₂ (notController cpu₂)
      · rw [same₂] at found₂
        simp only [Function.update_same, Option.some.injEq, Function.update_noteq same₁]
          at found₁ found₂
        subst found₂
        exact absurd found₁ (notController cpu₁)
      · simp only [Function.update_noteq same₁, Function.update_noteq same₂] at found₁ found₂
        exact d.controller_injective cpu₁ cpu₂ c found₁ found₂
    initiator_popped := fun v popped => by
      refine .inl ?_
      rcases d.initiator_popped v popped with ⟨cpu', found⟩ | ⟨cpu', rest', designating⟩
      · have distinct : cpu' ≠ cpu := by rintro rfl; simp [unset] at found
        exact ⟨cpu', by simpa [Function.update_noteq distinct] using found⟩
      · rw [current] at designating
        cases designating
        exact ⟨cpu, by simp⟩
    main := by
      simp only [List.filterMap_cons, Function.update_same, kept, d.main, List.getLast?_cons]
      cases (s.participatingCPUs.filterMap s.shutdownControlerThread).getLast? <;> simp
    joins_before := fun _ => d.joins_before (by rw [current]; rfl)
    joins_during := fun rest joining => by simp [InitiatorPc.joining] at joining
    not_failed := by simp }

theorem transition (book : Bookkeeping s) {next : ShutdownState}
    (transition : Transition s next) : Designation next := by
  cases transition with
  | setup cpus current =>
      have empty := (d.unstarted (by rw [current]; rfl)).2
      exact { d with
        unstarted := fun start => by simp [InitiatorPc.isStart] at start
        counter := fun _ => by simp [d.decremented_nil empty book]
        pending_nodup := by simpa [current, InitiatorPc.pending] using d.pending_nodup
        first := by simpa [current, InitiatorPc.pending] using d.first
        initiator_popped := fun w popped => (d.initiator_popped w popped).imp_right
          fun ⟨_, _, designating⟩ => by simp [current] at designating
        joins_before := fun _ => d.joins_before (by rw [current]; rfl)
        joins_during := fun rest joining => by simp [InitiatorPc.joining] at joining
        not_failed := by simp }
  | visitDone current =>
      have started : s.participatingCPUs ≠ [] := fun empty => d.first empty (by rw [current]; rfl)
      exact { d with
        unstarted := fun start => by simp [InitiatorPc.isStart] at start
        counter := fun _ => d.counter (by rw [current]; rfl)
        pending_nodup := by simpa [current, InitiatorPc.pending] using d.pending_nodup
        first := fun empty => absurd empty started
        initiator_popped := fun w popped => (d.initiator_popped w popped).imp_right
          fun ⟨_, _, designating⟩ => by simp [current] at designating
        joins_before := fun joining => by simp [InitiatorPc.joining] at joining
        joins_during := fun rest joining => by
          simp only [InitiatorPc.joining, Option.some.injEq] at joining
          subst joining
          exact ⟨[], rfl, d.joins_before (by rw [current]; rfl)⟩
        not_failed := by simp }
  | visitNext cpu rest current =>
      exact d.visitStep (by simp [current, InitiatorPc.visiting]) (by rfl)
        (by simpa [current, InitiatorPc.pending] using d.pending_nodup)
        (by simp [InitiatorPc.pending])
  | initiatorEmpty cpu rest current empty =>
      exact d.visitStep (by simp [current, InitiatorPc.visiting]) (by rfl)
        (by simpa [current, InitiatorPc.pending] using d.pending_nodup)
        (by simp [InitiatorPc.pending])
  | retry cpu rest current positive =>
      exact d.visitStep (by simp [current, InitiatorPc.visiting]) (by rfl)
        (by simpa [current, InitiatorPc.pending] using d.pending_nodup)
        (by simp [InitiatorPc.pending])
  | skip cpu rest current exhausted =>
      have nodup := d.pending_nodup
      rw [current, InitiatorPc.pending, List.cons_append] at nodup
      refine d.visitStep (by simp [current, InitiatorPc.visiting]) (by rfl) nodup.of_cons
        fun empty => ?_
      have counted := d.counter (by rw [current]; rfl)
      rw [d.decremented_nil empty book] at counted
      have := d.positive
      simp only [List.length_nil] at counted
      omega
  | initiatorPop cpu rest w current idle =>
      have parked := (book.idle_iff w).mp idle
      exact { d with
        unstarted := fun start => by simp [InitiatorPc.isStart] at start
        counter := fun _ => d.counter (by rw [current]; rfl)
        pending_nodup := by simpa [current, InitiatorPc.pending] using d.pending_nodup
        first := by simp [InitiatorPc.pending]
        quiet := fun empty v => by
          by_cases same : v = w
          · subst same; simp [WorkerPc.isActive]
          · simpa [Function.update_noteq same] using d.quiet empty v
        controller_popped := fun cpu c found => by simp [d.controller_popped cpu c found]
        controller_active := fun cpu c found => by
          have active := d.controller_active cpu c found
          have distinct : c ≠ w := by rintro rfl; simp [parked, WorkerPc.isActive] at active
          simpa [Function.update_noteq distinct] using active
        initiator_popped := fun v popped => by
          simp only [ShutdownState.claim_popped, List.mem_append, List.mem_singleton,
            Prod.mk.injEq, and_true] at popped
          rcases popped with popped | rfl
          · exact .inl ((d.initiator_popped v popped).resolve_right
              fun ⟨_, _, designating⟩ => by simp [current] at designating)
          · exact .inr ⟨cpu, rest, rfl⟩
        joins_before := fun _ => d.joins_before (by rw [current]; rfl)
        joins_during := fun rest joining => by simp [InitiatorPc.joining] at joining
        not_failed := by simp }
  | designate cpu w rest current => exact d.designate book current
  | joinController cpu rest c current found exited =>
      obtain ⟨done, participating, joins⟩ := d.joins_during (cpu :: rest) (by rw [current]; rfl)
      exact { d with
        unstarted := fun start => by simp [InitiatorPc.isStart] at start
        counter := fun _ => d.counter (by rw [current]; rfl)
        pending_nodup := by simpa [current, InitiatorPc.pending] using d.pending_nodup
        first := by simpa [current, InitiatorPc.pending] using d.first
        initiator_popped := fun w popped => (d.initiator_popped w popped).imp_right
          fun ⟨_, _, designating⟩ => by simp [current] at designating
        joins_before := fun joining => by simp [InitiatorPc.joining] at joining
        joins_during := fun rest' joining => by
          simp only [InitiatorPc.joining, Option.some.injEq] at joining
          subst joining
          exact ⟨done ++ [cpu], by simp [participating], by simp [joins, found]⟩
        not_failed := by simp }
  | joinMissing cpu rest current missing =>
      obtain ⟨done, participating, -⟩ := d.joins_during (cpu :: rest) (by rw [current]; rfl)
      obtain ⟨c, found⟩ := d.participating_controller cpu (by simp [participating])
      simp [missing] at found
  | finish current =>
      exact { d with
        unstarted := fun start => by simp [InitiatorPc.isStart] at start
        counter := fun _ => d.counter (by rw [current]; rfl)
        pending_nodup := by simpa [current, InitiatorPc.pending] using d.pending_nodup
        first := by simpa [current, InitiatorPc.pending] using d.first
        initiator_popped := fun w popped => (d.initiator_popped w popped).imp_right
          fun ⟨_, _, designating⟩ => by simp [current] at designating
        joins_before := fun joining => by simp [InitiatorPc.joining] at joining
        joins_during := fun rest joining => d.joins_during rest (by rw [current]; exact joining)
        not_failed := by simp }
  | park id within current =>
      refine d.workerFrame rfl rfl rfl rfl rfl (fun _ => Iff.rfl) rfl rfl (fun _ => rfl) ?_ ?_
      · intro w active
        have distinct : w ≠ id := by rintro rfl; simp [current, WorkerPc.isActive] at active
        simpa [Function.update_noteq distinct] using active
      · intro empty w
        by_cases same : w = id
        · subst same; simp [WorkerPc.isActive]
        · simpa [Function.update_noteq same] using d.quiet empty w
  | enter id cpu within current =>
      exact d.setWorker (d.started id (by simp [current, WorkerPc.isActive])) fun _ => by rfl
  | leave id cpu within current =>
      exact d.setWorker (d.started id (by simp [current, WorkerPc.isActive])) fun _ => by rfl
  | controllerPop id cpu isMain next within current idle =>
      exact (d.claimByWorker ((book.idle_iff next).mp idle)).setWorker
        (d.started id (by simp [current, WorkerPc.isActive])) fun _ => by rfl
  | mainFindsNone id cpu within current =>
      exact d.setWorker (d.started id (by simp [current, WorkerPc.isActive])) fun _ => by rfl
  | controllerDone id cpu within current =>
      exact d.setWorker (d.started id (by simp [current, WorkerPc.isActive])) fun _ => by rfl
  | resumeNext id cpu isMain next within current =>
      have started := d.started id (by simp [current, WorkerPc.isActive])
      exact ((d.setWorker started fun _ => by rfl).setWorker started fun _ => by rfl)
  | joinNext id cpu isMain next within current exited =>
      exact (d.setWorker (d.started id (by simp [current, WorkerPc.isActive]))
        fun _ => by rfl).joinByWorker
  | lastOut id cpu within current last =>
      exact d.setWorker (d.started id (by simp [current, WorkerPc.isActive])) fun _ => by rfl
  | keepPolling id cpu within current notLast =>
      exact d.setWorker (d.started id (by simp [current, WorkerPc.isActive])) fun _ => by rfl
  | decrement id within current =>
      have started := d.started id (by simp [current, WorkerPc.isActive])
      refine d.workerFrame rfl rfl rfl rfl rfl (fun _ => Iff.rfl) rfl (by simp only [List.length_append, List.length_singleton]; omega)
        (fun start => absurd (d.unstarted start).2 started) ?_ (fun empty => absurd empty started)
      intro w active
      by_cases same : w = id
      · subst same; simp [WorkerPc.isActive]
      · simpa [Function.update_noteq same] using active
  | exit id within current =>
      exact d.setWorker (d.started id (by simp [current, WorkerPc.isActive])) fun _ => by rfl

end Designation

end Nanos6.Executors
