import Mathlib.Data.List.Perm.Basic

namespace Nanos6.Executors

/-- The field of `CPU` that registration reads. -/
structure CPU where
  systemCPUId : Nat
deriving DecidableEq, Repr

/-- `CPU_SETSIZE` of glibc: a `cpu_set_t` holds the system ids below it. -/
def cpuSetSize : Nat := 1024

abbrev CpuSet := Nat → Bool

/-- `CPU_ISSET(cpu, set)`, false past `CPU_SETSIZE`. -/
def cpuIsSet (cpu : Nat) (set : CpuSet) : Bool :=
  decide (cpu < cpuSetSize) && set cpu

/-- The fields of `CPUManager` that `preinitialize` and `initialize` use. -/
structure CPUManager where
  cpus : List (Option CPU)
  totalCPUs : Nat
deriving DecidableEq, Repr

namespace CPUManager

/-- The loop of `preinitialize`, from position `i` of the discovered CPUs on. -/
def preinitializeFrom (processCPUMask : CpuSet) : Nat → List CPU → CPUManager → CPUManager
  | _, [], manager => manager
  | i, cpu :: rest, manager =>
      preinitializeFrom processCPUMask (i + 1) rest
        (if cpuIsSet cpu.systemCPUId processCPUMask then
          { cpus := manager.cpus.set i (some cpu), totalCPUs := manager.totalCPUs + 1 }
        else manager)

/-- `CPUManager::preinitialize` on the process mask and the discovered CPUs: `_cpus` has one
entry per discovered CPU, `nullptr` unless the CPU is registered. -/
def preinitialize (processCPUMask : CpuSet) (cpus : List CPU) : CPUManager :=
  preinitializeFrom processCPUMask 0 cpus ⟨List.replicate cpus.length none, 0⟩

/-- `CPUManager::initialize` (a keyword in Lean): the CPUs it calls
`ThreadManager::initializeThread` on, in order. -/
def initializeCPUs (manager : CPUManager) : List CPU :=
  manager.cpus.filterMap id

end CPUManager

/-- The fields of `ThreadManager` that `preinitialize` and `initialize` use. -/
structure ThreadManager where
  processCPUMask : CpuSet
  cpus : List (Option CPU)
  totalCPUs : Nat
  totalThreads : Nat
  shutdownThreads : Nat

namespace ThreadManager

/-- The loop of `preinitialize`, from position `i` of the discovered CPUs on. -/
def preinitializeFrom : Nat → List CPU → ThreadManager → ThreadManager
  | _, [], manager => manager
  | i, cpu :: rest, manager =>
      let stored := { manager with cpus := manager.cpus.set i (some cpu) }
      preinitializeFrom (i + 1) rest
        (if cpuIsSet i stored.processCPUMask then
          { stored with totalCPUs := stored.totalCPUs + 1, totalThreads := stored.totalThreads + 1 }
        else stored)

/-- `ThreadManager::preinitialize` on the mask of the calling thread and the discovered CPUs;
`_cpus` has `CPU_SETSIZE` entries, all `nullptr` at first. -/
def preinitialize (processCPUMask : CpuSet) (cpus : List CPU) : ThreadManager :=
  preinitializeFrom 0 cpus ⟨processCPUMask, List.replicate cpuSetSize none, 0, 0, 0⟩

/-- Modelled from the spec: `getCPU(systemCPUId)` reads the entry of `_cpus` at that index,
the table `preinitialize` filled. -/
def getCPU (manager : ThreadManager) (systemCPUId : Nat) : Option CPU :=
  (manager.cpus[systemCPUId]?).join

/-- The loop of `initialize` over `remaining` system ids from `systemCPUId` on: the CPUs a worker
is started on, in order, or `none` once `assert(cpu != nullptr)` fails. -/
def initializeFrom (manager : ThreadManager) (systemCPUId : Nat) : Nat → Option (List CPU)
  | 0 => some []
  | remaining + 1 =>
      if cpuIsSet systemCPUId manager.processCPUMask then
        match manager.getCPU systemCPUId with
        | none => none
        | some cpu => (manager.initializeFrom (systemCPUId + 1) remaining).map (cpu :: ·)
      else manager.initializeFrom (systemCPUId + 1) remaining

/-- `ThreadManager::initialize` (a keyword in Lean): one worker per system id of the mask, bound
to the CPU `getCPU` finds. -/
def initializeWorkers (manager : ThreadManager) : Option (List CPU) :=
  manager.initializeFrom 0 cpuSetSize

end ThreadManager

def registeredCPUs (processCPUMask : CpuSet) (cpus : List CPU) : List CPU :=
  cpus.filter (cpuIsSet ·.systemCPUId processCPUMask)

/-- What `CPUManager::preinitialize` stores for one discovered CPU. -/
def register (processCPUMask : CpuSet) (cpu : CPU) : Option CPU :=
  if cpuIsSet cpu.systemCPUId processCPUMask then some cpu else none

namespace CPUManager

theorem preinitializeFrom_eq (processCPUMask : CpuSet) (rest : List CPU)
    (stored : List (Option CPU)) (total : Nat) :
    preinitializeFrom processCPUMask stored.length rest
        ⟨stored ++ List.replicate rest.length none, total⟩ =
      ⟨stored ++ rest.map (register processCPUMask),
        total + (registeredCPUs processCPUMask rest).length⟩ := by
  induction rest generalizing stored total with
  | nil => simp [preinitializeFrom, registeredCPUs]
  | cons cpu rest ih =>
      have set : (stored ++ List.replicate (rest.length + 1) none).set stored.length (some cpu) =
          (stored ++ [some cpu]) ++ List.replicate rest.length none := by
        simp [List.set_append_right, List.replicate_succ]
      by_cases inMask : cpuIsSet cpu.systemCPUId processCPUMask
      · simp only [preinitializeFrom, inMask, if_true, List.length_cons, set]
        rw [show stored.length + 1 = (stored ++ [some cpu]).length by simp, ih]
        simp [register, inMask, registeredCPUs, List.filter_cons, Nat.add_assoc, Nat.add_comm 1]
      · have unset : stored ++ List.replicate (rest.length + 1) none =
            (stored ++ [none]) ++ List.replicate rest.length none := by
          simp [List.replicate_succ]
        simp only [preinitializeFrom, inMask, Bool.false_eq_true, if_false, List.length_cons, unset]
        rw [show stored.length + 1 = (stored ++ [none]).length by simp, ih]
        simp [register, inMask, registeredCPUs, List.filter_cons]

theorem preinitialize_eq (processCPUMask : CpuSet) (cpus : List CPU) :
    preinitialize processCPUMask cpus =
      ⟨cpus.map (register processCPUMask), (registeredCPUs processCPUMask cpus).length⟩ := by
  simpa using preinitializeFrom_eq processCPUMask cpus [] 0

theorem preinitialize_initializeCPUs (processCPUMask : CpuSet) (cpus : List CPU) :
    ( CPUManager.preinitialize processCPUMask cpus).initializeCPUs =
      registeredCPUs processCPUMask cpus := by
  rw [preinitialize_eq, initializeCPUs, List.filterMap_map]
  induction cpus with
  | nil => rfl
  | cons cpu cpus ih =>
      by_cases inMask : cpuIsSet cpu.systemCPUId processCPUMask <;>
        simp [register, registeredCPUs, inMask, List.filter_cons] at ih ⊢ <;> exact ih

end CPUManager

namespace ThreadManager

theorem preinitializeFrom_eq (processCPUMask : CpuSet) (rest : List CPU)
    (stored suffix : List (Option CPU)) (totalCPUs totalThreads shutdownThreads : Nat)
    (fits : rest.length ≤ suffix.length) :
    preinitializeFrom stored.length rest
        ⟨processCPUMask, stored ++ suffix, totalCPUs, totalThreads, shutdownThreads⟩ =
      let counted := ((List.range' stored.length rest.length).filter (cpuIsSet · processCPUMask)).length
      ⟨processCPUMask, stored ++ rest.map some ++ suffix.drop rest.length, totalCPUs + counted,
        totalThreads + counted, shutdownThreads⟩ := by
  induction rest generalizing stored suffix totalCPUs totalThreads with
  | nil => simp [preinitializeFrom]
  | cons cpu rest ih =>
      obtain _ | ⟨entry, suffix⟩ := suffix
      · simp at fits
      have set : (stored ++ entry :: suffix).set stored.length (some cpu) =
          stored ++ some cpu :: suffix := by
        simp [List.set_append_right]
      have shifted := ih (stored ++ [some cpu]) suffix
      simp only [List.length_append, List.length_singleton, List.length_cons, List.append_assoc,
        List.singleton_append, List.cons_append, List.length_nil, List.nil_append,
          Nat.zero_add] at shifted fits
      by_cases inMask : cpuIsSet stored.length processCPUMask
      · simp only [preinitializeFrom, inMask, if_true, set, shifted (totalCPUs + 1)
          (totalThreads + 1) (Nat.le_of_succ_le_succ fits)]
        simp [List.range'_succ, List.filter_cons, inMask, Nat.add_assoc, Nat.add_comm 1]
      · simp only [preinitializeFrom, inMask, Bool.false_eq_true, if_false, set,
          shifted totalCPUs totalThreads (Nat.le_of_succ_le_succ fits)]
        simp [List.range'_succ, List.filter_cons, inMask]

def positionsInMask (processCPUMask : CpuSet) (count : Nat) : Nat :=
  ((List.range count).filter (cpuIsSet · processCPUMask)).length

theorem preinitialize_eq (processCPUMask : CpuSet) (cpus : List CPU)
    (fits : cpus.length ≤ cpuSetSize) :
    ThreadManager.preinitialize processCPUMask cpus =
      ⟨processCPUMask, cpus.map some ++ List.replicate (cpuSetSize - cpus.length) none,
        positionsInMask processCPUMask cpus.length, positionsInMask processCPUMask cpus.length,
          0⟩ := by
  have filled := preinitializeFrom_eq processCPUMask cpus [] (List.replicate cpuSetSize none) 0 0 0
    (by simpa using fits)
  simp only [List.length_nil, List.nil_append, Nat.zero_add, List.drop_replicate] at filled
  rw [ ThreadManager.preinitialize, filled, positionsInMask, List.range_eq_range']

theorem preinitialize_getCPU (processCPUMask : CpuSet) (cpus : List CPU)
    (fits : cpus.length ≤ cpuSetSize) (systemCPUId : Nat) :
    ( ThreadManager.preinitialize processCPUMask cpus).getCPU systemCPUId = cpus[systemCPUId]? := by
  rw [preinitialize_eq processCPUMask cpus fits, getCPU]
  by_cases discovered : systemCPUId < cpus.length
  · rw [List.getElem?_append_left (by simpa using discovered), List.getElem?_map]
    cases cpus[systemCPUId]? <;> rfl
  · rw [List.getElem?_append_right (by simpa using Nat.le_of_not_lt discovered),
      List.getElem?_eq_none (Nat.le_of_not_lt discovered), List.getElem?_replicate]
    split <;> rfl

theorem initializeFrom_of_getCPU (manager : ThreadManager)
    (found : ∀ systemCPUId, cpuIsSet systemCPUId manager.processCPUMask →
      manager.getCPU systemCPUId = some ⟨systemCPUId⟩) (systemCPUId remaining : Nat) :
    manager.initializeFrom systemCPUId remaining =
      some (((List.range' systemCPUId remaining).filter (cpuIsSet · manager.processCPUMask)).map
        CPU.mk) := by
  induction remaining generalizing systemCPUId with
  | zero => rfl
  | succ remaining ih =>
      by_cases inMask : cpuIsSet systemCPUId manager.processCPUMask
      · simp [initializeFrom, inMask, found systemCPUId inMask, ih, List.range'_succ,
          List.filter_cons]
      · simp [initializeFrom, inMask, ih, List.range'_succ, List.filter_cons]

theorem initializeFrom_of_missing (manager : ThreadManager) (systemCPUId remaining : Nat)
    (missing : ∃ absent, systemCPUId ≤ absent ∧ absent < systemCPUId + remaining ∧
      cpuIsSet absent manager.processCPUMask ∧ manager.getCPU absent = none) :
    manager.initializeFrom systemCPUId remaining = none := by
  induction remaining generalizing systemCPUId with
  | zero => omega
  | succ remaining ih =>
      obtain ⟨absent, above, below, inMask, lookup⟩ := missing
      by_cases here : absent = systemCPUId
      · subst here
        simp [initializeFrom, inMask, lookup]
      · have later := ih (systemCPUId + 1) ⟨absent, by omega, by omega, inMask, lookup⟩
        simp only [initializeFrom, later]
        split
        · split <;> rfl
        · rfl

end ThreadManager

theorem getElem?_of_ordered {cpus : List CPU}
    (ordered : cpus.map CPU.systemCPUId = List.range cpus.length) {systemCPUId : Nat}
    (discovered : systemCPUId < cpus.length) : cpus[systemCPUId]? = some ⟨systemCPUId⟩ := by
  have position := congrArg (·[systemCPUId]?) ordered
  simp only [List.getElem?_map, List.getElem?_range discovered] at position
  obtain ⟨⟨found⟩, lookup, rfl⟩ := Option.map_eq_some'.mp position
  exact lookup

/-- Where every CPU is discovered at the position of its system id and the mask names only
discovered CPUs, the two registrations agree. -/
theorem registrations_agree_in_discovery_order (processCPUMask : CpuSet) (cpus : List CPU)
    (ordered : cpus.map CPU.systemCPUId = List.range cpus.length)
    (fits : cpus.length ≤ cpuSetSize)
    (reported : ∀ systemCPUId, cpuIsSet systemCPUId processCPUMask → systemCPUId < cpus.length) :
    let threads := ThreadManager.preinitialize processCPUMask cpus
    let manager := CPUManager.preinitialize processCPUMask cpus
    let registered := registeredCPUs processCPUMask cpus
    threads.totalCPUs = registered.length ∧ threads.totalThreads = registered.length ∧
      manager.totalCPUs = registered.length ∧ threads.initializeWorkers = some registered ∧
      manager.initializeCPUs = registered := by
  have registered : registeredCPUs processCPUMask cpus =
      ((List.range cpus.length).filter (cpuIsSet · processCPUMask)).map CPU.mk := by
    have shape : cpus = (List.range cpus.length).map CPU.mk := by
      conv_lhs => rw [← List.map_id cpus]
      rw [← ordered, List.map_map]
      rfl
    conv_lhs => rw [shape]
    rw [registeredCPUs, List.filter_map]
    rfl
  have inRange : (List.range cpuSetSize).filter (cpuIsSet · processCPUMask) =
      (List.range cpus.length).filter (cpuIsSet · processCPUMask) := by
    have beyond : ((List.range (cpuSetSize - cpus.length)).map (cpus.length + ·)).filter
        (cpuIsSet · processCPUMask) = [] := by
      rw [List.filter_eq_nil_iff]
      intro systemCPUId member inMask
      obtain ⟨k, _, rfl⟩ := List.mem_map.mp member
      exact absurd (reported _ inMask) (by omega)
    rw [← Nat.add_sub_cancel' fits, List.range_add, List.filter_append, beyond, List.append_nil]
  have found : ∀ systemCPUId, cpuIsSet systemCPUId
      ( ThreadManager.preinitialize processCPUMask cpus).processCPUMask →
        ( ThreadManager.preinitialize processCPUMask cpus).getCPU systemCPUId =
          some ⟨systemCPUId⟩ := by
    intro systemCPUId inMask
    rw [ThreadManager.preinitialize_eq _ _ fits] at inMask
    rw [ThreadManager.preinitialize_getCPU _ _ fits,
      getElem?_of_ordered ordered (reported _ inMask)]
  refine ⟨?_, ?_, ?_, ?_, CPUManager.preinitialize_initializeCPUs processCPUMask cpus⟩
  · rw [ThreadManager.preinitialize_eq _ _ fits, registered, List.length_map]; rfl
  · rw [ThreadManager.preinitialize_eq _ _ fits, registered, List.length_map]; rfl
  · rw [CPUManager.preinitialize_eq]
  · rw [ThreadManager.initializeWorkers, ThreadManager.initializeFrom_of_getCPU _ found,
      registered, ← List.range_eq_range', ThreadManager.preinitialize_eq _ _ fits, inRange]

/-- `ThreadManager::initialize` fails its `assert(cpu != nullptr)` whenever the mask holds a
system id past the positions of the discovered CPUs. -/
theorem initializeWorkers_fails_past_discovered (processCPUMask : CpuSet) (cpus : List CPU)
    (fits : cpus.length ≤ cpuSetSize) (systemCPUId : Nat)
    (inMask : cpuIsSet systemCPUId processCPUMask) (undiscovered : cpus.length ≤ systemCPUId) :
    ( ThreadManager.preinitialize processCPUMask cpus).initializeWorkers = none := by
  have bounded : systemCPUId < cpuSetSize := by
    simp only [cpuIsSet, Bool.and_eq_true, decide_eq_true_eq] at inMask
    exact inMask.1
  apply ThreadManager.initializeFrom_of_missing
  refine ⟨systemCPUId, Nat.zero_le _, by omega, ?_, ?_⟩
  · rwa [ThreadManager.preinitialize_eq _ _ fits]
  · rw [ThreadManager.preinitialize_getCPU _ _ fits, List.getElem?_eq_none undiscovered]

/-- Both registrations count the registered CPUs, and both initialisations start one worker on
each of them. -/
def RegistrationsAgree : Prop :=
  ∀ (processCPUMask : CpuSet) (cpus : List CPU), (cpus.map CPU.systemCPUId).Nodup →
    let threads := ThreadManager.preinitialize processCPUMask cpus
    let manager := CPUManager.preinitialize processCPUMask cpus
    let registered := registeredCPUs processCPUMask cpus
    threads.totalCPUs = registered.length ∧ threads.totalThreads = registered.length ∧
      manager.totalCPUs = registered.length ∧
      (∃ started, threads.initializeWorkers = some started ∧ started.Perm registered) ∧
      manager.initializeCPUs.Perm registered

def gapCPUs : List CPU := [⟨0⟩, ⟨2⟩]

def gapMask : CpuSet := fun systemCPUId => systemCPUId == 0 || systemCPUId == 2

example : ( CPUManager.preinitialize gapMask gapCPUs).totalCPUs = 2 := by decide
example : ( ThreadManager.preinitialize gapMask gapCPUs).totalCPUs = 1 := by decide

theorem registration_tests_position : ¬ RegistrationsAgree := by
  intro agree
  have counted := (agree gapMask gapCPUs (by decide)).1
  exact absurd counted (by decide)

theorem gap_fails_initialization :
    ( ThreadManager.preinitialize gapMask gapCPUs).initializeWorkers = none :=
  initializeWorkers_fails_past_discovered gapMask gapCPUs (by decide) 2 (by decide) (by decide)

def orderedCPUs : List CPU := [⟨0⟩, ⟨1⟩, ⟨2⟩]

def lowMask : CpuSet := fun systemCPUId => systemCPUId == 0 || systemCPUId == 1

theorem ordered_registrations_agree :
    ( ThreadManager.preinitialize lowMask orderedCPUs).initializeWorkers =
        some (registeredCPUs lowMask orderedCPUs) ∧
      ( CPUManager.preinitialize lowMask orderedCPUs).initializeCPUs =
        registeredCPUs lowMask orderedCPUs := by
  have agree := registrations_agree_in_discovery_order lowMask orderedCPUs (by decide) (by decide)
    (fun systemCPUId inMask => by
      simp only [cpuIsSet, lowMask, Bool.and_eq_true, Bool.or_eq_true, beq_iff_eq] at inMask
      simp only [orderedCPUs, List.length_cons, List.length_nil]
      omega)
  exact ⟨agree.2.2.2.1, agree.2.2.2.2⟩

end Nanos6.Executors
