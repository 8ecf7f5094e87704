import Nanos6.Executors.ShutdownDesignation
import Mathlib.Data.List.Perm.Subperm

namespace Nanos6.Executors

/-- The worker a controller has popped and not yet joined. -/
def WorkerPc.holds : WorkerPc → Option Nat
  | .resumeNext _ _ next | .joinNext _ _ next => some next
  | .running | .parked | .claimed | .resumed _ | .pop _ _ | .checkLast _ | .decrement
  | .exiting | .exited => none

theorem mem_joinsBy {joined : List (Nat × Agent)} {agent : Agent} {w : Nat} :
    w ∈ joinsBy joined agent ↔ (w, agent) ∈ joined := by
  simp [joinsBy]

theorem mem_of_length_eq {l : List Nat} {n m : Nat} (nodup : l.Nodup) (below : ∀ w ∈ l, w < n)
    (missing : m ∉ l) (within : m < n) (length : l.length + 1 = n) :
    ∀ w < n, w ≠ m → w ∈ l := by
  have sub : l.Subperm ((List.range n).erase m) := nodup.subperm fun w member =>
    (List.nodup_range n).mem_erase_iff.mpr
      ⟨fun same => missing (same ▸ member), List.mem_range.mpr (below w member)⟩
  have perm := sub.perm_of_length_le (by
    rw [List.length_erase_of_mem (List.mem_range.mpr within), List.length_range]; omega)
  intro w lt distinct
  exact perm.mem_iff.mpr ((List.nodup_range n).mem_erase_iff.mpr ⟨distinct, List.mem_range.mpr lt⟩)

/-- What the controllers do: each works for the CPU it was designated for, joins only the
workers it popped and only once they exited, and the main controller leaves last. -/
structure Control (s : ShutdownState) : Prop where
  controlling : ∀ x cpu isMain, (s.workers x).controls = some (cpu, isMain) →
    s.shutdownControlerThread cpu = some x ∧
      isMain = decide (s.mainShutdownControllerThread = some x)
  resumed_designated : ∀ x cpu, s.workers x = .resumed cpu → (x, .initiator) ∈ s.popped →
    s.shutdownControlerThread cpu = some x
  popper_controls : ∀ w x, (w, .worker x) ∈ s.popped →
    ∃ cpu, s.shutdownControlerThread cpu = some x
  joining : ∀ x cpu isMain w, s.workers x = .joinNext cpu isMain w →
    (w, .worker x) ∈ s.popped ∧ w ∉ s.joined.map Prod.fst
  holders : ∀ w x, (w, .worker x) ∈ s.popped →
    (w, .worker x) ∈ s.joined ∨ (s.workers x).holds = some w
  joined_exited : ∀ w agent, (w, agent) ∈ s.joined → s.workers w = .exited
  joined_nodup : (s.joined.map Prod.fst).Nodup
  joined_by_worker : ∀ w x, (w, .worker x) ∈ s.joined → (w, .worker x) ∈ s.popped
  /-- The main controller leaves only once `_shutdownThreads == 1`. -/
  main_last : ∀ m, s.mainShutdownControllerThread = some m → (s.workers m).isLeaving →
    ∀ w < s.totalThreads, w ≠ m → w ∈ s.decremented

theorem control_init (totalThreads : Nat) (cpus : List Nat) :
    Control (ShutdownState.init totalThreads cpus) := by
  constructor <;> simp [ShutdownState.init, WorkerPc.controls, WorkerPc.isLeaving]

namespace Control

variable {s : ShutdownState} (c : Control s)
include c

theorem update {next : ShutdownState} {id : Nat} {pc : WorkerPc}
    (workers : next.workers = Function.update s.workers id pc)
    (controllers : next.shutdownControlerThread = s.shutdownControlerThread)
    (main : next.mainShutdownControllerThread = s.mainShutdownControllerThread)
    (popped : next.popped = s.popped) (joined : next.joined = s.joined)
    (total : next.totalThreads = s.totalThreads)
    (decremented : ∀ w ∈ s.decremented, w ∈ next.decremented)
    (controls : ∀ cpu isMain, pc.controls = some (cpu, isMain) →
      s.shutdownControlerThread cpu = some id ∧
        isMain = decide (s.mainShutdownControllerThread = some id))
    (settled : (s.workers id).holds = none ∧ pc.holds = none)
    (fresh : ∀ cpu, pc ≠ .resumed cpu) (unjoined : s.workers id ≠ .exited)
    (leaving : s.mainShutdownControllerThread = some id → pc.isLeaving →
      ∀ w < s.totalThreads, w ≠ id → w ∈ next.decremented) :
    Control next where
  controlling x cpu isMain found := by
    rw [controllers, main]
    rw [workers] at found
    by_cases same : x = id
    · subst same; simp only [Function.update_same] at found; exact controls cpu isMain found
    · simp only [Function.update_noteq same] at found; exact c.controlling x cpu isMain found
  resumed_designated x cpu resumed poppedBy := by
    rw [workers] at resumed
    rw [popped] at poppedBy
    rw [controllers]
    by_cases same : x = id
    · subst same; simp only [Function.update_same] at resumed; exact absurd resumed (fresh cpu)
    · simp only [Function.update_noteq same] at resumed
      exact c.resumed_designated x cpu resumed poppedBy
  popper_controls w x poppedBy := by
    rw [controllers]; exact c.popper_controls w x (popped ▸ poppedBy)
  joining x cpu isMain w joiningNow := by
    rw [popped, joined]
    rw [workers] at joiningNow
    by_cases same : x = id
    · subst same; simp only [Function.update_same] at joiningNow
      simp [joiningNow, WorkerPc.holds] at settled
    · simp only [Function.update_noteq same] at joiningNow
      exact c.joining x cpu isMain w joiningNow
  holders w x poppedBy := by
    rw [joined, workers]
    rcases c.holders w x (popped ▸ poppedBy) with done | holding
    · exact .inl done
    · by_cases same : x = id
      · subst same; simp [holding] at settled
      · simp only [Function.update_noteq same]; exact .inr holding
  joined_exited w agent joinedBy := by
    have exited := c.joined_exited w agent (joined ▸ joinedBy)
    rw [workers]
    by_cases same : w = id
    · subst same; exact absurd exited unjoined
    · simp only [Function.update_noteq same]; exact exited
  joined_nodup := joined ▸ c.joined_nodup
  joined_by_worker w x joinedBy := popped ▸ c.joined_by_worker w x (joined ▸ joinedBy)
  main_last m isMain isLeaving := by
    rw [main] at isMain
    rw [workers] at isLeaving
    rw [total]
    by_cases same : m = id
    · subst same; simp only [Function.update_same] at isLeaving; exact leaving isMain isLeaving
    · simp only [Function.update_noteq same] at isLeaving
      exact fun w lt distinct => decremented w (c.main_last m isMain isLeaving w lt distinct)

theorem controllerPop (book : Bookkeeping s) {id cpu next : Nat} {isMain : Bool}
    (current : s.workers id = .pop cpu isMain) (idle : next ∈ s.idleThreads) :
    Control ((s.claim next (.worker id)).setWorker id (.resumeNext cpu isMain next)) := by
  have parked := (book.idle_iff next).mp idle
  have distinct : next ≠ id := by rintro rfl; rw [current] at parked; cases parked
  have controller := c.controlling id cpu isMain (by rw [current]; rfl)
  constructor
  · intro x cpu' isMain' found
    simp only [ShutdownState.setWorker_workers, ShutdownState.claim_workers,
      Function.update_apply] at found
    split_ifs at found with same isNext
    · subst same
      simp only [WorkerPc.controls, Option.some.injEq, Prod.mk.injEq] at found
      obtain ⟨rfl, rfl⟩ := found
      exact controller
    · simp [WorkerPc.controls] at found
    · exact c.controlling x cpu' isMain' found
  · intro x cpu' resumed poppedBy
    simp only [ShutdownState.setWorker_workers, ShutdownState.claim_workers,
      Function.update_apply] at resumed
    split_ifs at resumed with same isNext
    simp only [ShutdownState.setWorker_popped, ShutdownState.claim_popped, List.mem_append,
      List.mem_singleton, Prod.mk.injEq, reduceCtorEq, and_false, or_false] at poppedBy
    exact c.resumed_designated x cpu' resumed poppedBy
  · intro w x poppedBy
    simp only [ShutdownState.setWorker_popped, ShutdownState.claim_popped, List.mem_append,
      List.mem_singleton, Prod.mk.injEq, Agent.worker.injEq] at poppedBy
    rcases poppedBy with poppedBy | ⟨-, rfl⟩
    · exact c.popper_controls w x poppedBy
    · exact ⟨cpu, controller.1⟩
  · intro x cpu' isMain' w joiningNow
    simp only [ShutdownState.setWorker_workers, ShutdownState.claim_workers,
      Function.update_apply] at joiningNow
    split_ifs at joiningNow with same isNext
    have joins := c.joining x cpu' isMain' w joiningNow
    exact ⟨by simp [joins.1], joins.2⟩
  · intro w x poppedBy
    simp only [ShutdownState.setWorker_popped, ShutdownState.claim_popped, List.mem_append,
      List.mem_singleton, Prod.mk.injEq, Agent.worker.injEq] at poppedBy
    simp only [ShutdownState.setWorker_workers, ShutdownState.claim_workers,
      Function.update_apply]
    rcases poppedBy with poppedBy | ⟨rfl, rfl⟩
    · rcases c.holders w x poppedBy with done | holding
      · exact .inl done
      · split_ifs with same isNext
        · subst same; simp [current, WorkerPc.holds] at holding
        · subst isNext; simp [parked, WorkerPc.holds] at holding
        · exact .inr holding
    · simp [WorkerPc.holds]
  · intro w agent joinedBy
    have exited := c.joined_exited w agent joinedBy
    have notId : w ≠ id := by rintro rfl; rw [current] at exited; cases exited
    have notNext : w ≠ next := by rintro rfl; rw [parked] at exited; cases exited
    simp [Function.update_noteq notId, Function.update_noteq notNext, exited]
  · exact c.joined_nodup
  · intro w x joinedBy
    simp [c.joined_by_worker w x joinedBy]
  · intro m isMain isLeaving w lt distinct'
    simp only [ShutdownState.setWorker_workers, ShutdownState.claim_workers,
      Function.update_apply] at isLeaving
    split_ifs at isLeaving with same isNext
    · simp [WorkerPc.isLeaving] at isLeaving
    · simp [WorkerPc.isLeaving] at isLeaving
    · exact c.main_last m isMain isLeaving w lt distinct'

theorem resumeNext (book : Bookkeeping s) {id cpu next : Nat} {isMain : Bool}
    (current : s.workers id = .resumeNext cpu isMain next) :
    Control ((s.setWorker next (.resumed cpu)).setWorker id (.joinNext cpu isMain next)) := by
  have held := book.resuming id cpu isMain next current
  have distinct : next ≠ id := by rintro rfl; rw [current] at held; cases held.1
  have unjoined : ∀ agent, (next, agent) ∉ s.joined := fun agent joinedBy => by
    rw [c.joined_exited next agent joinedBy] at held; cases held.1
  constructor
  · intro x cpu' isMain' found
    simp only [ShutdownState.setWorker_workers, Function.update_apply] at found
    split_ifs at found with same isNext
    · subst same
      exact c.controlling x cpu' isMain' (by rw [current]; exact found)
    · simp [WorkerPc.controls] at found
    · exact c.controlling x cpu' isMain' found
  · intro x cpu' resumed poppedBy
    simp only [ShutdownState.setWorker_workers, Function.update_apply] at resumed
    split_ifs at resumed with same isNext
    · subst isNext
      cases popper_unique book.popped_nodup poppedBy held.2
    · exact c.resumed_designated x cpu' resumed poppedBy
  · exact c.popper_controls
  · intro x cpu' isMain' w joiningNow
    simp only [ShutdownState.setWorker_workers, Function.update_apply] at joiningNow
    split_ifs at joiningNow with same isNext
    · subst same
      simp only [WorkerPc.joinNext.injEq] at joiningNow
      obtain ⟨-, -, rfl⟩ := joiningNow
      exact ⟨held.2, by simpa using unjoined⟩
    · exact c.joining x cpu' isMain' w joiningNow
  · intro w x poppedBy
    simp only [ShutdownState.setWorker_workers, Function.update_apply]
    rcases c.holders w x poppedBy with done | holding
    · exact .inl done
    · split_ifs with same isNext
      · subst same; exact .inr (by simpa [current, WorkerPc.holds] using holding)
      · subst isNext; simp [held.1, WorkerPc.holds] at holding
      · exact .inr holding
  · intro w agent joinedBy
    have exited := c.joined_exited w agent joinedBy
    have notId : w ≠ id := by rintro rfl; rw [current] at exited; cases exited
    have notNext : w ≠ next := by rintro rfl; exact unjoined agent joinedBy
    simp [Function.update_noteq notId, Function.update_noteq notNext, exited]
  · exact c.joined_nodup
  · exact c.joined_by_worker
  · intro m isMain isLeaving w lt distinct'
    simp only [ShutdownState.setWorker_workers, Function.update_apply] at isLeaving
    split_ifs at isLeaving with same isNext
    · simp [WorkerPc.isLeaving] at isLeaving
    · simp [WorkerPc.isLeaving] at isLeaving
    · exact c.main_last m isMain isLeaving w lt distinct'

theorem joinNext (book : Bookkeeping s) {id cpu w : Nat} {isMain : Bool}
    (current : s.workers id = .joinNext cpu isMain w) (exited : s.workers w = .exited) :
    Control { s.setWorker id (.pop cpu isMain) with joined := s.joined ++ [(w, .worker id)] } := by
  obtain ⟨poppedW, fresh⟩ := c.joining id cpu isMain w current
  have distinct : w ≠ id := by rintro rfl; rw [current] at exited; cases exited
  constructor
  · intro x cpu' isMain' found
    simp only [ShutdownState.setWorker_workers, Function.update_apply] at found
    split_ifs at found with same
    · subst same
      exact c.controlling x cpu' isMain' (by rw [current]; exact found)
    · exact c.controlling x cpu' isMain' found
  · intro x cpu' resumed poppedBy
    simp only [ShutdownState.setWorker_workers, Function.update_apply] at resumed
    split_ifs at resumed with same
    exact c.resumed_designated x cpu' resumed poppedBy
  · exact c.popper_controls
  · intro x cpu' isMain' w' joiningNow
    simp only [ShutdownState.setWorker_workers, Function.update_apply] at joiningNow
    split_ifs at joiningNow with same
    obtain ⟨poppedBy, unjoined⟩ := c.joining x cpu' isMain' w' joiningNow
    refine ⟨poppedBy, ?_⟩
    have other : w' ≠ w := by
      rintro rfl
      exact same (Agent.worker.inj (popper_unique book.popped_nodup poppedBy poppedW))
    simp [unjoined, other]
  · intro w' x poppedBy
    simp only [ShutdownState.setWorker_workers, Function.update_apply, List.mem_append,
      List.mem_singleton]
    rcases c.holders w' x poppedBy with done | holding
    · exact .inl (.inl done)
    · split_ifs with same
      · subst same
        simp only [current, WorkerPc.holds, Option.some.injEq] at holding
        subst holding
        exact .inl (.inr rfl)
      · exact .inr holding
  · intro v agent joinedBy
    simp only [List.mem_append, List.mem_singleton, Prod.mk.injEq] at joinedBy
    rcases joinedBy with joinedBy | ⟨rfl, -⟩
    · have exited' := c.joined_exited v agent joinedBy
      have notId : v ≠ id := by rintro rfl; rw [current] at exited'; cases exited'
      simp [Function.update_noteq notId, exited']
    · simp [Function.update_noteq distinct, exited]
  · simpa using nodup_snoc c.joined_nodup fresh
  · intro w' x joinedBy
    simp only [List.mem_append, List.mem_singleton, Prod.mk.injEq, Agent.worker.injEq]
      at joinedBy
    rcases joinedBy with joinedBy | ⟨rfl, rfl⟩
    · exact c.joined_by_worker w' x joinedBy
    · exact poppedW
  · intro m isMain isLeaving w' lt distinct'
    simp only [ShutdownState.setWorker_workers, Function.update_apply] at isLeaving
    split_ifs at isLeaving with same
    · simp [WorkerPc.isLeaving] at isLeaving
    · exact c.main_last m isMain isLeaving w' lt distinct'

theorem initiatorPop (book : Bookkeeping s) {cpu w : Nat} {rest : List Nat}
    (idle : w ∈ s.idleThreads) :
    Control { s.claim w .initiator with initiator := .designate cpu w rest } := by
  have parked := (book.idle_iff w).mp idle
  constructor
  · intro x cpu' isMain found
    simp only [ShutdownState.claim_workers, Function.update_apply] at found
    split_ifs at found with same
    · simp [WorkerPc.controls] at found
    · exact c.controlling x cpu' isMain found
  · intro x cpu' resumed poppedBy
    simp only [ShutdownState.claim_workers, Function.update_apply] at resumed
    split_ifs at resumed with same
    simp only [ShutdownState.claim_popped, List.mem_append, List.mem_singleton, Prod.mk.injEq,
      same, false_and, or_false] at poppedBy
    exact c.resumed_designated x cpu' resumed poppedBy
  · intro v x poppedBy
    simp only [ShutdownState.claim_popped, List.mem_append, List.mem_singleton, Prod.mk.injEq,
      reduceCtorEq, and_false, or_false] at poppedBy
    exact c.popper_controls v x poppedBy
  · intro x cpu' isMain v joiningNow
    simp only [ShutdownState.claim_workers, Function.update_apply] at joiningNow
    split_ifs at joiningNow with same
    have joins := c.joining x cpu' isMain v joiningNow
    exact ⟨by simp [joins.1], joins.2⟩
  · intro v x poppedBy
    simp only [ShutdownState.claim_popped, List.mem_append, List.mem_singleton, Prod.mk.injEq,
      reduceCtorEq, and_false, or_false] at poppedBy
    simp only [ShutdownState.claim_workers, Function.update_apply]
    rcases c.holders v x poppedBy with done | holding
    · exact .inl done
    · split_ifs with same
      · subst same; simp [parked, WorkerPc.holds] at holding
      · exact .inr holding
  · intro v agent joinedBy
    have exited := c.joined_exited v agent joinedBy
    have distinct : v ≠ w := by rintro rfl; rw [parked] at exited; cases exited
    simp [Function.update_noteq distinct, exited]
  · exact c.joined_nodup
  · intro v x joinedBy
    simp [c.joined_by_worker v x joinedBy]
  · intro m isMain isLeaving v lt distinct
    simp only [ShutdownState.claim_workers, Function.update_apply] at isLeaving
    split_ifs at isLeaving with same
    · simp [WorkerPc.isLeaving] at isLeaving
    · exact c.main_last m isMain isLeaving v lt distinct

theorem designate (book : Bookkeeping s) (d : Designation s) {cpu w : Nat} {rest : List Nat}
    (current : s.initiator = .designate cpu w rest) :
    Control { s with
      shutdownControlerThread := Function.update s.shutdownControlerThread cpu (some w)
      mainShutdownControllerThread :=
        if s.mainShutdownControllerThread = none then some w else s.mainShutdownControllerThread
      workers := Function.update s.workers w (.resumed cpu)
      participatingCPUs := cpu :: s.participatingCPUs
      initiator := .visit rest } := by
  have held := book.designating cpu w rest current
  have unset := d.unset_of_pending cpu (by simp [current, InitiatorPc.pending])
  have moved : ∀ cpu' x, s.shutdownControlerThread cpu' = some x →
      Function.update s.shutdownControlerThread cpu (some w) cpu' = some x := fun cpu' x found => by
    have distinct : cpu' ≠ cpu := by rintro rfl; simp [unset] at found
    rwa [Function.update_noteq distinct]
  constructor
  · intro x cpu' isMain found
    simp only [Function.update_apply] at found
    split_ifs at found with same
    · simp [WorkerPc.controls] at found
    · obtain ⟨controller, flag⟩ := c.controlling x cpu' isMain found
      have named := d.main_isSome controller
      refine ⟨moved _ _ controller, ?_⟩
      rw [flag, if_neg (Option.isSome_iff_ne_none.mp named)]
  · intro x cpu' resumed poppedBy
    simp only [Function.update_apply] at resumed
    split_ifs at resumed with same
    · simp only [WorkerPc.resumed.injEq] at resumed
      subst same resumed
      simp
    · exact moved _ _ (c.resumed_designated x cpu' resumed poppedBy)
  · intro v x poppedBy
    obtain ⟨cpu', found⟩ := c.popper_controls v x poppedBy
    exact ⟨cpu', moved _ _ found⟩
  · intro x cpu' isMain v joiningNow
    simp only [Function.update_apply] at joiningNow
    split_ifs at joiningNow with same
    exact c.joining x cpu' isMain v joiningNow
  · intro v x poppedBy
    simp only [Function.update_apply]
    rcases c.holders v x poppedBy with done | holding
    · exact .inl done
    · split_ifs with same
      · subst same; simp [held.1, WorkerPc.holds] at holding
      · exact .inr holding
  · intro v agent joinedBy
    have exited := c.joined_exited v agent joinedBy
    have distinct : v ≠ w := by rintro rfl; rw [held.1] at exited; cases exited
    simp [Function.update_noteq distinct, exited]
  · exact c.joined_nodup
  · exact c.joined_by_worker
  · intro m isMain isLeaving v lt distinct
    dsimp only at isMain isLeaving
    simp only [Function.update_apply] at isLeaving
    split_ifs at isLeaving with same
    · simp [WorkerPc.isLeaving] at isLeaving
    · split_ifs at isMain with none
      · exact absurd (Option.some.inj isMain).symm same
      · exact c.main_last m isMain isLeaving v lt distinct

theorem joinController (book : Bookkeeping s) (d : Designation s) {cpu controller : Nat}
    {rest : List Nat} (current : s.initiator = .join (cpu :: rest))
    (found : s.shutdownControlerThread cpu = some controller)
    (exited : s.workers controller = .exited) :
    Control
      { s with joined := s.joined ++ [(controller, .initiator)], initiator := .join rest } := by
  have poppedC := d.controller_popped cpu controller found
  have fresh : controller ∉ s.joined.map Prod.fst := by
    simp only [List.mem_map, Prod.exists, exists_and_right, exists_eq_right, not_exists]
    intro agent joinedBy
    cases agent with
    | worker x =>
        cases popper_unique book.popped_nodup (c.joined_by_worker controller x joinedBy) poppedC
    | initiator =>
        obtain ⟨done, participating, joins⟩ := d.joins_during (cpu :: rest) (by rw [current]; rfl)
        have member := mem_joinsBy.mpr joinedBy
        rw [joins] at member
        obtain ⟨cpu', inDone, found'⟩ := List.mem_filterMap.mp member
        obtain rfl := d.controller_injective cpu' cpu controller found' found
        have nodup := d.pending_nodup
        rw [current, InitiatorPc.pending, List.nil_append, participating] at nodup
        exact List.disjoint_of_nodup_append nodup inDone (List.mem_cons_self _ _)
  exact { c with
    joining := fun x cpu' isMain w joiningNow => by
      obtain ⟨poppedBy, unjoined⟩ := c.joining x cpu' isMain w joiningNow
      have other : w ≠ controller := by
        rintro rfl
        cases popper_unique book.popped_nodup poppedBy poppedC
      exact ⟨poppedBy, by simp [unjoined, other]⟩
    holders := fun w x poppedBy => (c.holders w x poppedBy).imp_left (List.mem_append_left _)
    joined_exited := fun w agent joinedBy => by
      simp only [List.mem_append, List.mem_singleton, Prod.mk.injEq] at joinedBy
      rcases joinedBy with joinedBy | ⟨rfl, -⟩
      · exact c.joined_exited w agent joinedBy
      · exact exited
    joined_nodup := by simpa using nodup_snoc c.joined_nodup fresh
    joined_by_worker := fun w x joinedBy => by
      simp only [List.mem_append, List.mem_singleton, Prod.mk.injEq, reduceCtorEq, and_false,
        or_false] at joinedBy
      exact c.joined_by_worker w x joinedBy }

theorem transition (book : Bookkeeping s) (d : Designation s) {next : ShutdownState}
    (transition : Transition s next) : Control next := by
  cases transition with
  | setup => exact { c with }
  | visitDone => exact { c with }
  | visitNext => exact { c with }
  | initiatorPop cpu rest w current idle => exact c.initiatorPop book idle
  | initiatorEmpty => exact { c with }
  | retry => exact { c with }
  | skip => exact { c with }
  | designate cpu w rest current => exact c.designate book d current
  | joinController cpu rest controller current found exited =>
      exact c.joinController book d current found exited
  | joinMissing cpu rest current missing =>
      exact absurd rfl (d.transition book (.joinMissing cpu rest current missing)).not_failed
  | finish => exact { c with }
  | park id within current =>
      exact c.update rfl rfl rfl rfl rfl rfl (fun _ member => member)
        (by simp [WorkerPc.controls]) (by simp [current, WorkerPc.holds]) (by simp)
        (by simp [current]) (by simp [WorkerPc.isLeaving])
  | enter id cpu within current controls =>
      refine c.update rfl rfl rfl rfl rfl rfl (fun _ member => member) ?_
        (by simp [current, WorkerPc.holds]) (by simp) (by simp [current])
        (by simp [WorkerPc.isLeaving])
      intro cpu' isMain found
      simp only [WorkerPc.controls, Option.some.injEq, Prod.mk.injEq] at found
      obtain ⟨rfl, rfl⟩ := found
      exact ⟨controls, rfl⟩
  | leave id cpu within current notController =>
      refine c.update rfl rfl rfl rfl rfl rfl (fun _ member => member)
        (by simp [WorkerPc.controls]) (by simp [current, WorkerPc.holds]) (by simp)
        (by simp [current]) fun isMain _ => ?_
      obtain ⟨cpu', found⟩ := d.main_controller isMain
      exact absurd (c.resumed_designated id cpu current (d.controller_popped cpu' id found))
        notController
  | controllerPop id cpu isMain next within current idle => exact c.controllerPop book current idle
  | mainFindsNone id cpu within current empty =>
      exact c.update rfl rfl rfl rfl rfl rfl (fun _ member => member)
        (fun cpu' isMain found => c.controlling id cpu' isMain (by rw [current]; exact found))
        (by simp [current, WorkerPc.holds]) (by simp) (by simp [current])
        (by simp [WorkerPc.isLeaving])
  | controllerDone id cpu within current empty =>
      refine c.update rfl rfl rfl rfl rfl rfl (fun _ member => member)
        (by simp [WorkerPc.controls]) (by simp [current, WorkerPc.holds]) (by simp)
        (by simp [current]) fun isMain _ => ?_
      have flag := (c.controlling id cpu false (by rw [current]; rfl)).2
      simp [isMain] at flag
  | resumeNext id cpu isMain next within current => exact c.resumeNext book current
  | joinNext id cpu isMain next within current exited => exact c.joinNext book current exited
  | lastOut id cpu within current last =>
      refine c.update rfl rfl rfl rfl rfl rfl (fun _ member => member)
        (by simp [WorkerPc.controls]) (by simp [current, WorkerPc.holds]) (by simp)
        (by simp [current]) fun _ _ => ?_
      show ∀ w < s.totalThreads, w ≠ id → w ∈ s.decremented
      have started := d.started id (by simp [current, WorkerPc.isActive])
      have notStart : s.initiator.isStart = false := by
        cases start : s.initiator.isStart
        · rfl
        · exact absurd (d.unstarted start).2 started
      have counted := d.counter notStart
      rw [last] at counted
      refine mem_of_length_eq book.decremented_nodup (fun w member => ?_)
        (by simp [book.decremented_iff, current, WorkerPc.isDecremented]) within (by omega)
      exact book.within_of_popped (WorkerPc.isPopped_of_isActive
        (WorkerPc.isActive_of_isDecremented ((book.decremented_iff w).mp member)))
  | keepPolling id cpu within current notLast =>
      exact c.update rfl rfl rfl rfl rfl rfl (fun _ member => member)
        (fun cpu' isMain found => c.controlling id cpu' isMain (by rw [current]; exact found))
        (by simp [current, WorkerPc.holds]) (by simp) (by simp [current])
        (by simp [WorkerPc.isLeaving])
  | decrement id within current =>
      exact c.update rfl rfl rfl rfl rfl rfl (fun _ member => List.mem_append_left _ member)
        (by simp [WorkerPc.controls]) (by simp [current, WorkerPc.holds]) (by simp)
        (by simp [current]) fun isMain _ w lt distinct => List.mem_append_left _
          (c.main_last id isMain (by simp [current, WorkerPc.isLeaving]) w lt distinct)
  | exit id within current =>
      exact c.update rfl rfl rfl rfl rfl rfl (fun _ member => member)
        (by simp [WorkerPc.controls]) (by simp [current, WorkerPc.holds]) (by simp)
        (by simp [current]) fun isMain _ =>
          c.main_last id isMain (by simp [current, WorkerPc.isLeaving])

end Control

/-- The bookkeeping, the initiator's designations and the controllers' work, together. -/
structure ShutdownInvariant (s : ShutdownState) extends Bookkeeping s, Designation s, Control s :
    Prop

theorem shutdownInvariant_init {totalThreads : Nat} {cpus : List Nat} (workers : 0 < totalThreads)
    (visited : cpus ≠ []) (distinct : cpus.Nodup) :
    ShutdownInvariant (ShutdownState.init totalThreads cpus) :=
  { toBookkeeping := bookkeeping_init totalThreads cpus
    toDesignation := designation_init workers visited distinct
    toControl := control_init totalThreads cpus }

theorem ShutdownInvariant.transition {s next : ShutdownState} (inv : ShutdownInvariant s)
    (transition : Transition s next) : ShutdownInvariant next :=
  { toBookkeeping := inv.toBookkeeping.transition transition
    toDesignation := inv.toDesignation.transition inv.toBookkeeping transition
    toControl := inv.toControl.transition inv.toBookkeeping inv.toDesignation transition }

theorem shutdownInvariant_of_reachable {totalThreads : Nat} {cpus : List Nat}
    (workers : 0 < totalThreads) (visited : cpus ≠ []) (distinct : cpus.Nodup) {s : ShutdownState}
    (reachable : ShutdownReachable (ShutdownState.init totalThreads cpus) s) :
    ShutdownInvariant s := by
  induction reachable with
  | start => exact shutdownInvariant_init workers visited distinct
  | step _ stepped invariant => exact invariant.transition (transition_of_step stepped)

theorem Transition.totalThreads {s next : ShutdownState} (transition : Transition s next) :
    next.totalThreads = s.totalThreads := by
  cases transition <;> rfl

theorem ShutdownReachable.totalThreads {totalThreads : Nat} {cpus : List Nat} {s : ShutdownState}
    (reachable : ShutdownReachable (ShutdownState.init totalThreads cpus) s) :
    s.totalThreads = totalThreads := by
  induction reachable with
  | start => rfl
  | step _ stepped same => exact (transition_of_step stepped).totalThreads.trans same

theorem WorkerPc.holds_spec {pc : WorkerPc} {w : Nat} (holding : pc.holds = some w) :
    pc.isActive ∧ pc.isDecremented = false := by
  cases pc <;> simp_all [holds, isActive, isDecremented]

namespace ShutdownInvariant

variable {s : ShutdownState} (inv : ShutdownInvariant s)
include inv

theorem decremented_below : ∀ w ∈ s.decremented, w < s.totalThreads := fun w member =>
  inv.within_of_popped (WorkerPc.isPopped_of_isActive
    (WorkerPc.isActive_of_isDecremented ((inv.decremented_iff w).mp member)))

theorem shutdownThreads_nonneg : 0 ≤ s.shutdownThreads := by
  cases start : s.initiator.isStart
  · have counted := inv.counter start
    have bounded : s.decremented.length ≤ s.totalThreads := by
      simpa using (inv.decremented_nodup.subperm fun w member =>
        List.mem_range.mpr (inv.decremented_below w member)).length_le
    omega
  · exact (inv.unstarted start).1.symm.le

theorem initiator_joined_controller {w : Nat} (joinedBy : (w, Agent.initiator) ∈ s.joined) :
    ∃ cpu, s.shutdownControlerThread cpu = some w := by
  have member := mem_joinsBy.mpr joinedBy
  cases joining : s.initiator.joining with
  | none => simp [inv.joins_before joining] at member
  | some rest =>
      obtain ⟨done, -, joins⟩ := inv.joins_during rest joining
      rw [joins] at member
      obtain ⟨cpu, -, found⟩ := List.mem_filterMap.mp member
      exact ⟨cpu, found⟩

theorem controller_joined_by_initiator {cpu w : Nat} {agent : Agent}
    (controls : s.shutdownControlerThread cpu = some w) (joinedBy : (w, agent) ∈ s.joined) :
    agent = .initiator := by
  cases agent with
  | initiator => rfl
  | worker x =>
      cases popper_unique inv.popped_nodup (inv.joined_by_worker w x joinedBy)
        (inv.controller_popped cpu w controls)

section Returned

variable (returned : s.initiator = .returned)
include returned

theorem joinsBy_of_returned :
    joinsBy s.joined .initiator = s.participatingCPUs.filterMap s.shutdownControlerThread := by
  obtain ⟨done, participating, joins⟩ := inv.joins_during [] (by rw [returned]; rfl)
  rw [joins, participating, List.append_nil]

theorem main_isSome_of_returned : s.mainShutdownControllerThread.isSome := by
  cases participating : s.participatingCPUs with
  | nil => exact absurd (by rw [returned]; rfl) (inv.first participating)
  | cons cpu rest =>
      obtain ⟨c, found⟩ := inv.participating_controller cpu (by simp [participating])
      exact inv.main_isSome found

theorem decremented_of_returned : ∀ w < s.totalThreads, w ∈ s.decremented := by
  obtain ⟨m, main⟩ := Option.isSome_iff_exists.mp (inv.main_isSome_of_returned returned)
  have lastJoined : (joinsBy s.joined .initiator).getLast? = some m := by
    rw [inv.joinsBy_of_returned returned, ← inv.main, main]
  have joined := mem_joinsBy.mp (List.mem_of_getLast?_eq_some lastJoined)
  have exited := inv.joined_exited m .initiator joined
  intro w lt
  by_cases same : w = m
  · subst same; simp [inv.decremented_iff, exited, WorkerPc.isDecremented]
  · exact inv.main_last m main (by simp [exited, WorkerPc.isLeaving]) w lt same

theorem joined_of_returned : ∀ w < s.totalThreads, w ∈ s.joined.map Prod.fst := by
  intro w lt
  have decremented := (inv.decremented_iff w).mp (inv.decremented_of_returned returned w lt)
  obtain ⟨⟨w', agent⟩, poppedBy, rfl⟩ := List.mem_map.mp ((inv.popped_iff w).mpr
    (WorkerPc.isPopped_of_isActive (WorkerPc.isActive_of_isDecremented decremented)))
  refine List.mem_map.mpr ⟨(w', agent), ?_, rfl⟩
  cases agent with
  | initiator =>
      obtain ⟨cpu, found⟩ | ⟨_, _, designating⟩ := inv.initiator_popped w' poppedBy
      · rw [← mem_joinsBy, inv.joinsBy_of_returned returned]
        exact List.mem_filterMap.mpr ⟨cpu, inv.controller_participating cpu w' found, found⟩
      · simp [returned] at designating
  | worker x =>
      refine (inv.holders w' x poppedBy).resolve_right fun holding => ?_
      obtain ⟨active, notDecremented⟩ := WorkerPc.holds_spec holding
      have below := inv.within_of_popped (WorkerPc.isPopped_of_isActive active)
      have := (inv.decremented_iff x).mp (inv.decremented_of_returned returned x below)
      simp [notDecremented] at this

end Returned

end ShutdownInvariant

/-- What the collective shutdown guarantees at every point of every interleaving, and once
`shutdown()` has returned. -/
structure ShutdownSafe (totalThreads : Nat) (s : ShutdownState) : Prop where
  /-- No worker is popped for the shutdown twice. -/
  popped_once : (s.popped.map Prod.fst).Nodup
  decremented_once : s.decremented.Nodup
  joined_once : (s.joined.map Prod.fst).Nodup
  /-- A worker joined by a worker was popped by it, and that worker controls a CPU. -/
  joined_by_popper : ∀ w x, (w, Agent.worker x) ∈ s.joined →
    (w, Agent.worker x) ∈ s.popped ∧ ∃ cpu, s.shutdownControlerThread cpu = some x
  /-- The initiator joins only CPU shutdown controllers, and a CPU's controller is joined by the
  initiator. -/
  joined_by_initiator : ∀ w, (w, Agent.initiator) ∈ s.joined →
    ∃ cpu, s.shutdownControlerThread cpu = some w
  controller_joined_by_initiator : ∀ cpu w agent, s.shutdownControlerThread cpu = some w →
    (w, agent) ∈ s.joined → agent = .initiator
  counter_nonneg : 0 ≤ s.shutdownThreads
  /-- The join loop never meets a CPU without a controller. -/
  controller_found : s.initiator ≠ .failed
  /-- When `shutdown()` returns: every worker decremented and was joined exactly once,
  `_shutdownThreads == 0`, `_totalThreads` is unchanged, and the main controller is the last
  thread the initiator joined. -/
  returned : s.initiator = .returned →
    s.shutdownThreads = 0 ∧ s.totalThreads = totalThreads ∧
      s.decremented.Perm (List.range totalThreads) ∧
      (s.joined.map Prod.fst).Perm (List.range totalThreads) ∧
      s.mainShutdownControllerThread.isSome ∧
      (joinsBy s.joined .initiator).getLast? = s.mainShutdownControllerThread

theorem shutdown_safe {totalThreads : Nat} {cpus : List Nat} (workers : 0 < totalThreads)
    (visited : cpus ≠ []) (distinct : cpus.Nodup) {s : ShutdownState}
    (reachable : ShutdownReachable (ShutdownState.init totalThreads cpus) s) :
    ShutdownSafe totalThreads s := by
  have inv := shutdownInvariant_of_reachable workers visited distinct reachable
  have total := reachable.totalThreads
  refine ⟨inv.popped_nodup, inv.decremented_nodup, inv.joined_nodup, fun w x joinedBy =>
    ⟨inv.joined_by_worker w x joinedBy,
      inv.popper_controls w x (inv.joined_by_worker w x joinedBy)⟩,
    fun w joinedBy => inv.initiator_joined_controller joinedBy,
    fun _ _ _ controls joinedBy => inv.controller_joined_by_initiator controls joinedBy,
    inv.shutdownThreads_nonneg, inv.not_failed, fun returned => ?_⟩
  have decremented := inv.decremented_of_returned returned
  have perm : s.decremented.Perm (List.range totalThreads) :=
    (List.perm_ext_iff_of_nodup inv.decremented_nodup (List.nodup_range _)).mpr fun w =>
      ⟨fun member => List.mem_range.mpr (total ▸ inv.decremented_below w member),
        fun member => decremented w (total ▸ List.mem_range.mp member)⟩
  have counted := inv.counter (by rw [returned]; rfl)
  rw [perm.length_eq, List.length_range, total] at counted
  refine ⟨by omega, total, perm, ?_, inv.main_isSome_of_returned returned, ?_⟩
  · refine (List.perm_ext_iff_of_nodup inv.joined_nodup (List.nodup_range _)).mpr fun w =>
      ⟨fun member => ?_, fun member => inv.joined_of_returned returned w
        (total ▸ List.mem_range.mp member)⟩
    obtain ⟨⟨w, agent⟩, joinedBy, rfl⟩ := List.mem_map.mp member
    exact List.mem_range.mpr (total ▸ inv.within_of_popped (by
      simp [inv.joined_exited w agent joinedBy, WorkerPc.isPopped]))
  · rw [inv.joinsBy_of_returned returned, inv.main]

/-- Two workers and two CPUs: both workers park, the initiator designates each as the controller
of one CPU, worker 1 finds nobody to pop and leaves, the initiator joins it, and worker 0, the
main controller, leaves once `_shutdownThreads == 1`. -/
def twoCPUSchedule : List ShutdownAction :=
  [.initiator none, .worker 0 none, .worker 1 none, .initiator none, .initiator (some 0),
    .initiator none, .initiator none, .initiator (some 1), .initiator none, .initiator none] ++
    List.replicate 4 (.worker 1 none) ++ [.initiator none] ++ List.replicate 5 (.worker 0 none) ++
    [.initiator none, .initiator none]

def twoCPUShutdown : ShutdownState :=
  ((ShutdownState.init 2 [0, 1]).run twoCPUSchedule).getD (ShutdownState.init 2 [0, 1])

theorem twoCPUShutdown_run :
    (ShutdownState.init 2 [0, 1]).run twoCPUSchedule = some twoCPUShutdown := rfl

theorem two_cpu_shutdown_safe :
    ShutdownReachable (ShutdownState.init 2 [0, 1]) twoCPUShutdown ∧
      twoCPUShutdown.initiator = .returned ∧ ShutdownSafe 2 twoCPUShutdown :=
  have reachable := ShutdownReachable.start.run twoCPUSchedule twoCPUShutdown_run
  ⟨reachable, rfl, shutdown_safe (by decide) (by decide) (by decide) reachable⟩

end Nanos6.Executors
