import Centralisd.Core.Packet

/-!
# Centralisd — the parameters of commands

The parameter records of `src/core/protocol/types.go` with what
`encoding/json` makes of them. A `uint64`, and a `uint` on the 64-bit
platforms the program runs on, is a `UInt64`; an `*int` is an
`Option Int` of the range of `int64`.

Decoding is stated once for every record: `Reads` says that assigning some
members in order takes one record to another, and members that
`omitempty` leaves out assign nothing (`Reads.omit`).
-/

namespace Centralisd

/-! ## Fields -/

namespace Json

/-- Assigning a JSON value to a `uint64`: an integer literal in range. -/
def asUint (old : UInt64) : Json → Option UInt64
  | .num m 0 => if 0 ≤ m ∧ m < 18446744073709551616 then some (UInt64.ofNat m.toNat) else none
  | .null => some old
  | _ => none

def asBool (old : Bool) : Json → Option Bool
  | .bool b => some b
  | .null => some old
  | _ => none

/-- Assigning a JSON value to an `*int`; `null` makes it nil. -/
def asIntPtr : Json → Option (Option Int)
  | .num m 0 =>
    if -9223372036854775808 ≤ m ∧ m < 9223372036854775808 then some (some m) else none
  | .minusZero => some (some 0)
  | .null => some none
  | _ => none

/-- Assigning a JSON value to a `[]string`. -/
def asStrings (old : List String) : Json → Option (List String) := asSlice asString "" old

def ofUint (n : UInt64) : Json := .num n.toNat 0

def ofStrings (xs : List String) : Json := .arr (xs.map .str)

/-- Fields of other types with `omitempty`. -/
def omitZero (key : String) (n : UInt64) : List (String × Json) :=
  if n = 0 then [] else [(key, ofUint n)]

def omitFalse (key : String) (b : Bool) : List (String × Json) :=
  if b = false then [] else [(key, .bool b)]

def omitNil (key : String) (xs : List String) : List (String × Json) :=
  if xs = [] then [] else [(key, ofStrings xs)]

theorem asUint_ofUint (old n : UInt64) : asUint old (ofUint n) = some n := by
  have hrange : (0 : Int) ≤ n.toNat ∧ (n.toNat : Int) < 18446744073709551616 := by
    have := n.toNat_lt
    omega
  rw [ofUint, asUint, if_pos hrange]
  simp

theorem asStrings_ofStrings (old xs : List String) : asStrings old (ofStrings xs) = some xs := by
  show asElems asString "" old (xs.map .str) = some xs
  induction xs generalizing old with
  | nil => rfl
  | cons x xs ih => simp [asElems, asString, ih]

/-- Assigning the members in order takes the record `t` to `t'`. -/
def Reads {T : Type} (set : String → Json → T → Option T) (fields : List (String × Json))
    (t t' : T) : Prop :=
  fields.foldlM (fun t f => set (foldName f.1) f.2 t) t = some t'

section
variable {T : Type} {set : String → Json → T → Option T} {fields fields' : List (String × Json)}
  {t t' t'' : T}

theorem Reads.unmarshal (h : Reads set fields t t') :
    unmarshalStruct set t (.obj fields) = some t' := h

theorem Reads.append (t' : T) (h : Reads set fields t t') (h' : Reads set fields' t' t'') :
    Reads set (fields ++ fields') t t'' := by
  unfold Reads at *
  rw [List.foldlM_append, h]
  exact h'

/-- One member; `folded` is the name it is looked up under. -/
theorem Reads.field {key : String} (folded : String) {v : Json} (hkey : foldName key = folded)
    (h : set folded v t = some t') : Reads set [(key, v)] t t' := by
  unfold Reads
  rw [List.foldlM_cons, hkey, h]
  rfl

/-- A member that is left out when it holds the zero value of its type. -/
theorem Reads.omit {key : String} (folded : String) {v : Json} {p : Prop} [Decidable p]
    (hkey : foldName key = folded) (h : set folded v t = some t') (hzero : p → t' = t) :
    Reads set (if p then [] else [(key, v)]) t t' := by
  split
  · next hp =>
    rw [hzero hp]
    rfl
  · exact .field folded hkey h

end

end Json

open Json

/-! ## Records -/

structure LibvirtVMActionParams where
  name : String := ""
  deriving DecidableEq, Repr

def LibvirtVMActionParams.set (key : String) (v : Json) (p : LibvirtVMActionParams) :
    Option LibvirtVMActionParams :=
  match key with
  | "NAME" => (asString p.name v).map LibvirtVMActionParams.mk
  | _ => some p

def LibvirtVMActionParams.unmarshal : Json → Option LibvirtVMActionParams :=
  unmarshalStruct LibvirtVMActionParams.set {}

def LibvirtVMActionParams.marshal (p : LibvirtVMActionParams) : Json := .obj [("name", .str p.name)]

structure LibvirtVMCreateParams where
  name : String := ""
  memoryMB : UInt64 := 0
  vcpus : UInt64 := 0
  diskPool : String := ""
  diskName : String := ""
  diskSizeGB : UInt64 := 0
  network : String := ""
  isoPath : String := ""
  autostart : Bool := false
  start : Bool := false
  deriving DecidableEq, Repr

def LibvirtVMCreateParams.set (key : String) (v : Json) (p : LibvirtVMCreateParams) :
    Option LibvirtVMCreateParams :=
  match key with
  | "NAME" => (asString p.name v).map fun s => { p with name := s }
  | "MEMORY_MB" => (asUint p.memoryMB v).map fun n => { p with memoryMB := n }
  | "VCPUS" => (asUint p.vcpus v).map fun n => { p with vcpus := n }
  | "DISK_POOL" => (asString p.diskPool v).map fun s => { p with diskPool := s }
  | "DISK_NAME" => (asString p.diskName v).map fun s => { p with diskName := s }
  | "DISK_SIZE_GB" => (asUint p.diskSizeGB v).map fun n => { p with diskSizeGB := n }
  | "NETWORK" => (asString p.network v).map fun s => { p with network := s }
  | "ISO_PATH" => (asString p.isoPath v).map fun s => { p with isoPath := s }
  | "AUTOSTART" => (asBool p.autostart v).map fun b => { p with autostart := b }
  | "START" => (asBool p.start v).map fun b => { p with start := b }
  | _ => some p

def LibvirtVMCreateParams.unmarshal : Json → Option LibvirtVMCreateParams :=
  unmarshalStruct LibvirtVMCreateParams.set {}

def LibvirtVMCreateParams.marshal (p : LibvirtVMCreateParams) : Json :=
  .obj ([("name", .str p.name)] ++ ([("memory_mb", ofUint p.memoryMB)] ++
    ([("vcpus", ofUint p.vcpus)] ++ ([("disk_pool", .str p.diskPool)] ++
    (omitEmpty "disk_name" p.diskName ++ ([("disk_size_gb", ofUint p.diskSizeGB)] ++
    (omitEmpty "network" p.network ++ (omitEmpty "iso_path" p.isoPath ++
    (omitFalse "autostart" p.autostart ++ omitFalse "start" p.start)))))))))

structure LibvirtVMSetAutostartParams where
  name : String := ""
  enabled : Bool := false
  deriving DecidableEq, Repr

def LibvirtVMSetAutostartParams.set (key : String) (v : Json) (p : LibvirtVMSetAutostartParams) :
    Option LibvirtVMSetAutostartParams :=
  match key with
  | "NAME" => (asString p.name v).map fun s => { p with name := s }
  | "ENABLED" => (asBool p.enabled v).map fun b => { p with enabled := b }
  | _ => some p

def LibvirtVMSetAutostartParams.unmarshal : Json → Option LibvirtVMSetAutostartParams :=
  unmarshalStruct LibvirtVMSetAutostartParams.set {}

def LibvirtVMSetAutostartParams.marshal (p : LibvirtVMSetAutostartParams) : Json :=
  .obj [("name", .str p.name), ("enabled", .bool p.enabled)]

structure LibvirtVMAttachISOParams where
  name : String := ""
  isoPath : String := ""
  deriving DecidableEq, Repr

def LibvirtVMAttachISOParams.set (key : String) (v : Json) (p : LibvirtVMAttachISOParams) :
    Option LibvirtVMAttachISOParams :=
  match key with
  | "NAME" => (asString p.name v).map fun s => { p with name := s }
  | "ISO_PATH" => (asString p.isoPath v).map fun s => { p with isoPath := s }
  | _ => some p

def LibvirtVMAttachISOParams.unmarshal : Json → Option LibvirtVMAttachISOParams :=
  unmarshalStruct LibvirtVMAttachISOParams.set {}

def LibvirtVMAttachISOParams.marshal (p : LibvirtVMAttachISOParams) : Json :=
  .obj [("name", .str p.name), ("iso_path", .str p.isoPath)]

structure LibvirtVMDeleteParams where
  name : String := ""
  forceStop : Bool := false
  removeVolumes : Bool := false
  deriving DecidableEq, Repr

def LibvirtVMDeleteParams.set (key : String) (v : Json) (p : LibvirtVMDeleteParams) :
    Option LibvirtVMDeleteParams :=
  match key with
  | "NAME" => (asString p.name v).map fun s => { p with name := s }
  | "FORCE_STOP" => (asBool p.forceStop v).map fun b => { p with forceStop := b }
  | "REMOVE_VOLUMES" => (asBool p.removeVolumes v).map fun b => { p with removeVolumes := b }
  | _ => some p

def LibvirtVMDeleteParams.unmarshal : Json → Option LibvirtVMDeleteParams :=
  unmarshalStruct LibvirtVMDeleteParams.set {}

def LibvirtVMDeleteParams.marshal (p : LibvirtVMDeleteParams) : Json :=
  .obj ([("name", .str p.name)] ++ (omitFalse "force_stop" p.forceStop ++
    omitFalse "remove_volumes" p.removeVolumes))

structure DockerImagePullParams where
  image : String := ""
  deriving DecidableEq, Repr

def DockerImagePullParams.set (key : String) (v : Json) (p : DockerImagePullParams) :
    Option DockerImagePullParams :=
  match key with
  | "IMAGE" => (asString p.image v).map DockerImagePullParams.mk
  | _ => some p

def DockerImagePullParams.unmarshal : Json → Option DockerImagePullParams :=
  unmarshalStruct DockerImagePullParams.set {}

structure DockerImageRemoveParams where
  image : String := ""
  force : Bool := false
  pruneChildren : Bool := false
  deriving DecidableEq, Repr

def DockerImageRemoveParams.set (key : String) (v : Json) (p : DockerImageRemoveParams) :
    Option DockerImageRemoveParams :=
  match key with
  | "IMAGE" => (asString p.image v).map fun s => { p with image := s }
  | "FORCE" => (asBool p.force v).map fun b => { p with force := b }
  | "PRUNE_CHILDREN" => (asBool p.pruneChildren v).map fun b => { p with pruneChildren := b }
  | _ => some p

def DockerImageRemoveParams.unmarshal : Json → Option DockerImageRemoveParams :=
  unmarshalStruct DockerImageRemoveParams.set {}

structure DockerContainerCreateParams where
  image : String := ""
  name : String := ""
  command : String := ""
  entrypoint : String := ""
  workingDir : String := ""
  env : List String := []
  ports : List String := []
  publishAll : Bool := false
  autoRemove : Bool := false
  restartPolicy : String := ""
  start : Bool := false
  deriving DecidableEq, Repr

def DockerContainerCreateParams.set (key : String) (v : Json) (p : DockerContainerCreateParams) :
    Option DockerContainerCreateParams :=
  match key with
  | "IMAGE" => (asString p.image v).map fun s => { p with image := s }
  | "NAME" => (asString p.name v).map fun s => { p with name := s }
  | "COMMAND" => (asString p.command v).map fun s => { p with command := s }
  | "ENTRYPOINT" => (asString p.entrypoint v).map fun s => { p with entrypoint := s }
  | "WORKING_DIR" => (asString p.workingDir v).map fun s => { p with workingDir := s }
  | "ENV" => (asStrings p.env v).map fun xs => { p with env := xs }
  | "PORTS" => (asStrings p.ports v).map fun xs => { p with ports := xs }
  | "PUBLISH_ALL" => (asBool p.publishAll v).map fun b => { p with publishAll := b }
  | "AUTO_REMOVE" => (asBool p.autoRemove v).map fun b => { p with autoRemove := b }
  | "RESTART_POLICY" => (asString p.restartPolicy v).map fun s => { p with restartPolicy := s }
  | "START" => (asBool p.start v).map fun b => { p with start := b }
  | _ => some p

def DockerContainerCreateParams.unmarshal : Json → Option DockerContainerCreateParams :=
  unmarshalStruct DockerContainerCreateParams.set {}

def DockerContainerCreateParams.marshal (p : DockerContainerCreateParams) : Json :=
  .obj ([("image", .str p.image)] ++ (omitEmpty "name" p.name ++
    (omitEmpty "command" p.command ++ (omitEmpty "entrypoint" p.entrypoint ++
    (omitEmpty "working_dir" p.workingDir ++ (omitNil "env" p.env ++ (omitNil "ports" p.ports ++
    (omitFalse "publish_all" p.publishAll ++ (omitFalse "auto_remove" p.autoRemove ++
    (omitEmpty "restart_policy" p.restartPolicy ++ omitFalse "start" p.start))))))))))

structure DockerContainerStartParams where
  id : String := ""
  deriving DecidableEq, Repr

def DockerContainerStartParams.set (key : String) (v : Json) (p : DockerContainerStartParams) :
    Option DockerContainerStartParams :=
  match key with
  | "ID" => (asString p.id v).map DockerContainerStartParams.mk
  | _ => some p

def DockerContainerStartParams.unmarshal : Json → Option DockerContainerStartParams :=
  unmarshalStruct DockerContainerStartParams.set {}

/-- `DockerContainerStopParams`, and `DockerContainerRestartParams`, which
has the same fields. -/
structure DockerContainerStopParams where
  id : String := ""
  timeoutSeconds : Option Int := none
  deriving DecidableEq, Repr

def DockerContainerStopParams.set (key : String) (v : Json) (p : DockerContainerStopParams) :
    Option DockerContainerStopParams :=
  match key with
  | "ID" => (asString p.id v).map fun s => { p with id := s }
  | "TIMEOUT_SECONDS" => (asIntPtr v).map fun n => { p with timeoutSeconds := n }
  | _ => some p

def DockerContainerStopParams.unmarshal : Json → Option DockerContainerStopParams :=
  unmarshalStruct DockerContainerStopParams.set {}

abbrev DockerContainerRestartParams := DockerContainerStopParams

structure DockerContainerRemoveParams where
  id : String := ""
  force : Bool := false
  removeVolumes : Bool := false
  deriving DecidableEq, Repr

def DockerContainerRemoveParams.set (key : String) (v : Json) (p : DockerContainerRemoveParams) :
    Option DockerContainerRemoveParams :=
  match key with
  | "ID" => (asString p.id v).map fun s => { p with id := s }
  | "FORCE" => (asBool p.force v).map fun b => { p with force := b }
  | "REMOVE_VOLUMES" => (asBool p.removeVolumes v).map fun b => { p with removeVolumes := b }
  | _ => some p

def DockerContainerRemoveParams.unmarshal : Json → Option DockerContainerRemoveParams :=
  unmarshalStruct DockerContainerRemoveParams.set {}

/-- A nil `Params` is left out. -/
def NodeCommand.marshal (c : NodeCommand) : Json :=
  .obj ([("action", .str c.action)] ++ omitEmptyRaw "params" c.params)

/-! ## Round trips -/

theorem LibvirtVMActionParams.unmarshal_marshal (p : LibvirtVMActionParams) :
    unmarshal p.marshal = some p :=
  Reads.unmarshal (.field "NAME" (by decide) rfl)

theorem LibvirtVMCreateParams.unmarshal_marshal (p : LibvirtVMCreateParams) :
    unmarshal p.marshal = some p := by
  obtain ⟨name, memoryMB, vcpus, diskPool, diskName, diskSizeGB, network, isoPath, autostart,
    start⟩ := p
  -- the record after each member
  refine Reads.unmarshal (.append { name } (.field "NAME" (by decide) rfl) ?_)
  refine .append { name, memoryMB } (.field "MEMORY_MB" (by decide) ?_) ?_
  · rw [set, asUint_ofUint, Option.map_some]
  refine .append { name, memoryMB, vcpus } (.field "VCPUS" (by decide) ?_) ?_
  · rw [set, asUint_ofUint, Option.map_some]
  refine .append { name, memoryMB, vcpus, diskPool } (.field "DISK_POOL" (by decide) rfl) ?_
  refine .append { name, memoryMB, vcpus, diskPool, diskName }
    (.omit "DISK_NAME" (by decide) rfl fun h => by cases h; rfl) ?_
  refine .append { name, memoryMB, vcpus, diskPool, diskName, diskSizeGB }
    (.field "DISK_SIZE_GB" (by decide) ?_) ?_
  · rw [set, asUint_ofUint, Option.map_some]
  refine .append { name, memoryMB, vcpus, diskPool, diskName, diskSizeGB, network }
    (.omit "NETWORK" (by decide) rfl fun h => by cases h; rfl) ?_
  refine .append { name, memoryMB, vcpus, diskPool, diskName, diskSizeGB, network, isoPath }
    (.omit "ISO_PATH" (by decide) rfl fun h => by cases h; rfl) ?_
  refine .append
    { name, memoryMB, vcpus, diskPool, diskName, diskSizeGB, network, isoPath, autostart }
    (.omit "AUTOSTART" (by decide) rfl fun h => by cases h; rfl) ?_
  exact .omit "START" (by decide) rfl fun h => by cases h; rfl

theorem LibvirtVMSetAutostartParams.unmarshal_marshal (p : LibvirtVMSetAutostartParams) :
    unmarshal p.marshal = some p :=
  Reads.unmarshal <| .append { name := p.name } (.field "NAME" (by decide) rfl)
    (.field "ENABLED" (by decide) rfl)

theorem LibvirtVMAttachISOParams.unmarshal_marshal (p : LibvirtVMAttachISOParams) :
    unmarshal p.marshal = some p :=
  Reads.unmarshal <| .append { name := p.name } (.field "NAME" (by decide) rfl)
    (.field "ISO_PATH" (by decide) rfl)

theorem LibvirtVMDeleteParams.unmarshal_marshal (p : LibvirtVMDeleteParams) :
    unmarshal p.marshal = some p := by
  obtain ⟨name, forceStop, removeVolumes⟩ := p
  refine Reads.unmarshal (.append { name } (.field "NAME" (by decide) rfl) ?_)
  refine .append { name, forceStop }
    (.omit "FORCE_STOP" (by decide) rfl fun h => by cases h; rfl) ?_
  exact .omit "REMOVE_VOLUMES" (by decide) rfl fun h => by cases h; rfl

theorem DockerContainerCreateParams.unmarshal_marshal (p : DockerContainerCreateParams) :
    unmarshal p.marshal = some p := by
  obtain ⟨image, name, command, entrypoint, workingDir, env, ports, publishAll, autoRemove,
    restartPolicy, start⟩ := p
  refine Reads.unmarshal (.append { image } (.field "IMAGE" (by decide) rfl) ?_)
  refine .append { image, name } (.omit "NAME" (by decide) rfl fun h => by cases h; rfl) ?_
  refine .append { image, name, command }
    (.omit "COMMAND" (by decide) rfl fun h => by cases h; rfl) ?_
  refine .append { image, name, command, entrypoint }
    (.omit "ENTRYPOINT" (by decide) rfl fun h => by cases h; rfl) ?_
  refine .append { image, name, command, entrypoint, workingDir }
    (.omit "WORKING_DIR" (by decide) rfl fun h => by cases h; rfl) ?_
  refine .append { image, name, command, entrypoint, workingDir, env }
    (.omit "ENV" (by decide) ?_ fun h => by cases h; rfl) ?_
  · rw [set, asStrings_ofStrings, Option.map_some]
  refine .append { image, name, command, entrypoint, workingDir, env, ports }
    (.omit "PORTS" (by decide) ?_ fun h => by cases h; rfl) ?_
  · rw [set, asStrings_ofStrings, Option.map_some]
  refine .append { image, name, command, entrypoint, workingDir, env, ports, publishAll }
    (.omit "PUBLISH_ALL" (by decide) rfl fun h => by cases h; rfl) ?_
  refine .append
    { image, name, command, entrypoint, workingDir, env, ports, publishAll, autoRemove }
    (.omit "AUTO_REMOVE" (by decide) rfl fun h => by cases h; rfl) ?_
  refine .append
    { image, name, command, entrypoint, workingDir, env, ports, publishAll, autoRemove,
      restartPolicy } (.omit "RESTART_POLICY" (by decide) rfl fun h => by cases h; rfl) ?_
  exact .omit "START" (by decide) rfl fun h => by cases h; rfl

theorem NodeCommand.unmarshal_marshal (c : NodeCommand) : unmarshal c.marshal = some c := by
  obtain ⟨action, params⟩ := c
  refine Reads.unmarshal (.append { action } (.field "ACTION" (by decide) rfl) ?_)
  cases params with
  | none => rfl
  | some v => exact .field "PARAMS" (by decide) rfl

end Centralisd
