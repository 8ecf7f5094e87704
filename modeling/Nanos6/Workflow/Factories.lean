import Mathlib.Tactic.SplitIfs

namespace Nanos6.ExecutionWorkflow

/-- `nanos6_device_t`, in the order of `_transfersMap`'s rows and columns. -/
inductive Device where
  | host
  | cuda
  | opencl
  | cluster
deriving DecidableEq, Repr

structure MemoryPlace where
  index : Nat
  device : Device
deriving DecidableEq, Repr

/-- What `createDataCopyStep` reads of the cluster: the directory's memory place,
`ClusterManager::getCurrentMemoryNode()` and `ClusterManager::inClusterMode()`. -/
structure ClusterContext where
  directory : MemoryPlace
  currentMemoryNode : MemoryPlace
  inClusterMode : Bool
deriving DecidableEq, Repr

/-- `Directory::isDirectoryMemoryPlace`; a null place is not the directory. -/
def ClusterContext.isDirectoryMemoryPlace (cluster : ClusterContext)
    (place : Option MemoryPlace) : Bool :=
  place == some cluster.directory

/-- The type of a data access; weakness is a separate flag that the factories do not read. -/
inductive AccessType where
  | read
  | write
  | readWrite
  | concurrent
  | commutative
  | reduction
deriving DecidableEq, Repr

/-- The three access types that never get a data copy. -/
def AccessType.specialised (accessType : AccessType) : Bool :=
  accessType == .reduction || accessType == .commutative || accessType == .concurrent

/-- The step `createDataCopyStep` creates: `new Step()`, `nullCopy` or `clusterCopy`. -/
inductive CopyKind where
  | step
  | nullCopy
  | clusterCopy
deriving DecidableEq, Repr

/-- `_transfersMap`, indexed by the source and the target device. -/
def transfersMap : Device → Device → CopyKind
  | .host, .host => .nullCopy
  | .host, .cuda => .nullCopy
  | .host, .opencl => .nullCopy
  | .host, .cluster => .clusterCopy
  | .cuda, _ => .nullCopy
  | .opencl, _ => .nullCopy
  | .cluster, .host => .clusterCopy
  | .cluster, .cuda => .nullCopy
  | .cluster, .opencl => .nullCopy
  | .cluster, .cluster => .clusterCopy

theorem transfersMap_eq_clusterCopy (source target : Device) :
    transfersMap source target = .clusterCopy ↔
      (source = .host ∧ target = .cluster) ∨
        (source = .cluster ∧ (target = .host ∨ target = .cluster)) := by
  cases source <;> cases target <;> decide

theorem transfersMap_ne_step (source target : Device) : transfersMap source target ≠ .step := by
  cases source <;> cases target <;> decide

/-- What `createDataCopyStep` did: the step it created, and the index it passed to
`setValidNamespaceSelf`, if it called it. -/
structure CreatedCopy where
  kind : CopyKind
  validNamespaceSelf : Option Nat
deriving DecidableEq, Repr

/-- `WorkflowBase::createDataCopyStep`; `none` when an assertion on the target fails. -/
def createDataCopyStep (cluster : ClusterContext)
    (sourceMemoryPlace targetMemoryPlace : Option MemoryPlace) (accessType : AccessType) :
    Option CreatedCopy :=
  if accessType.specialised then some ⟨.step, none⟩
  else match targetMemoryPlace with
    | none => none
    | some target =>
        if cluster.isDirectoryMemoryPlace (some target) then none
        else
          let sourceType := (sourceMemoryPlace.map (·.device)).getD .host
          let validNamespaceSelf :=
            if target.device = .host ∨ target = cluster.currentMemoryNode then
              some cluster.currentMemoryNode.index
            else none
          let kind :=
            if cluster.isDirectoryMemoryPlace sourceMemoryPlace ∧ cluster.inClusterMode then
              .clusterCopy
            else transfersMap sourceType target.device
          some ⟨kind, validNamespaceSelf⟩

/-- Modelled from the spec: the creation-time decision table of a copy step. -/
structure FollowsCopyRules (cluster : ClusterContext)
    (sourceMemoryPlace targetMemoryPlace : Option MemoryPlace) (accessType : AccessType)
    (created : Option CreatedCopy) : Prop where
  /-- Reduction, commutative and concurrent accesses get a plain step and no registration. -/
  specialised_step : accessType.specialised → created = some ⟨.step, none⟩
  /-- The target must be neither null nor the directory. -/
  fails_iff : created = none ↔
    accessType.specialised = false ∧
      (targetMemoryPlace = none ∨ targetMemoryPlace = some cluster.directory)
  /-- A cluster copy comes from the directory in cluster mode, or joins host and cluster or
  two cluster places, a null source counting as the host. -/
  cluster_iff : (created.map (·.kind)) = some .clusterCopy ↔
    accessType.specialised = false ∧ ∃ target, targetMemoryPlace = some target ∧
      target ≠ cluster.directory ∧
      ((sourceMemoryPlace = some cluster.directory ∧ cluster.inClusterMode) ∨
        (((sourceMemoryPlace.map (·.device)).getD .host = .host ∧ target.device = .cluster) ∨
          ((sourceMemoryPlace.map (·.device)).getD .host = .cluster ∧
            (target.device = .host ∨ target.device = .cluster))))
  /-- Every other access with a copy step gets a null copy. -/
  null_otherwise : ∀ copy ∈ created, accessType.specialised = false →
    copy.kind ≠ .clusterCopy → copy.kind = .nullCopy
  /-- A local target marks the access valid in this node's namespace, and nothing else is
  marked. -/
  marks_local : ∀ copy ∈ created, ∀ target, targetMemoryPlace = some target →
    copy.validNamespaceSelf =
      if accessType.specialised = false ∧
          (target.device = .host ∨ target = cluster.currentMemoryNode) then
        some cluster.currentMemoryNode.index
      else none

section CopyStep

variable (cluster : ClusterContext) (sourceMemoryPlace : Option MemoryPlace)
  {accessType : AccessType}

theorem createDataCopyStep_of_specialised (targetMemoryPlace : Option MemoryPlace)
    (special : accessType.specialised) :
    createDataCopyStep cluster sourceMemoryPlace targetMemoryPlace accessType =
      some ⟨.step, none⟩ := by
  simp [createDataCopyStep, special]

theorem createDataCopyStep_of_directory (ordinary : accessType.specialised = false) :
    createDataCopyStep cluster sourceMemoryPlace (some cluster.directory) accessType = none := by
  simp [createDataCopyStep, ordinary, ClusterContext.isDirectoryMemoryPlace]

theorem createDataCopyStep_of_valid {target : MemoryPlace}
    (ordinary : accessType.specialised = false)
    (valid : target ≠ cluster.directory) :
    createDataCopyStep cluster sourceMemoryPlace (some target) accessType = some
      ⟨if sourceMemoryPlace = some cluster.directory ∧ cluster.inClusterMode then .clusterCopy
        else transfersMap ((sourceMemoryPlace.map (·.device)).getD .host) target.device,
      if target.device = .host ∨ target = cluster.currentMemoryNode then
        some cluster.currentMemoryNode.index
      else none⟩ := by
  simp [createDataCopyStep, ordinary, ClusterContext.isDirectoryMemoryPlace, valid]

theorem createDataCopyStep_follows_rules (targetMemoryPlace : Option MemoryPlace)
    (accessType : AccessType) :
    FollowsCopyRules cluster sourceMemoryPlace targetMemoryPlace accessType
      (createDataCopyStep cluster sourceMemoryPlace targetMemoryPlace accessType) := by
  by_cases special : accessType.specialised
  · rw [createDataCopyStep_of_specialised _ _ _ special]
    refine ⟨fun _ => rfl, ?_, ?_, ?_, ?_⟩ <;> simp [special]
  simp only [Bool.not_eq_true] at special
  rcases targetMemoryPlace with _ | target
  · constructor <;> simp [createDataCopyStep, special]
  by_cases directory : target = cluster.directory
  · subst directory
    rw [createDataCopyStep_of_directory _ _ special]
    constructor <;> simp [special]
  rw [createDataCopyStep_of_valid _ _ special directory]
  refine ⟨by simp [special], by simp [special, directory], ?_, ?_, ?_⟩
  · by_cases fromDirectory : sourceMemoryPlace = some cluster.directory ∧ cluster.inClusterMode
    · simp [fromDirectory, special, directory]
    · simp [fromDirectory, special, directory, transfersMap_eq_clusterCopy]
  · rintro copy created - other
    obtain rfl := Option.some.inj (Option.mem_def.mp created)
    cases kind : transfersMap ((sourceMemoryPlace.map (·.device)).getD .host) target.device <;>
      simp_all [transfersMap_ne_step]
  · rintro copy created other ⟨⟩
    obtain rfl := Option.some.inj (Option.mem_def.mp created)
    simp [special]

end CopyStep

inductive StepVariant where
  | host
  | cluster
deriving DecidableEq, Repr

/-- The device dispatch shared by `createExecutionStep` and `createNotificationStep`. -/
def dispatchDevice : Device → Except String StepVariant
  | .host => .ok .host
  | .cluster => .ok .cluster
  | _ => .error "Execution workflow does not support this device yet"

/-- `WorkflowBase::createExecutionStep`, by the device of the target compute place. -/
def createExecutionStep (computePlace : Device) : Except String StepVariant :=
  dispatchDevice computePlace

/-- `WorkflowBase::createNotificationStep`: a null compute place counts as the host. -/
def createNotificationStep (computePlace : Option Device) : Except String StepVariant :=
  dispatchDevice (computePlace.getD .host)

/-- `WorkflowBase::createDataReleaseStep`: the cluster variant for a remote task. -/
def createDataReleaseStep (isRemoteTask : Bool) : StepVariant :=
  if isRemoteTask then .cluster else .host

/-- The dispatch fails, with the source's message, exactly on the devices it has no step for. -/
theorem dispatchDevice_eq_error (device : Device) (message : String) :
    dispatchDevice device = .error message ↔
      (device = .cuda ∨ device = .opencl) ∧
        message = "Execution workflow does not support this device yet" := by
  cases device <;> simp [dispatchDevice, eq_comm]

end Nanos6.ExecutionWorkflow
