import Mathlib.Data.List.AList
import Centralisd.Core.Params

/-!
# Centralisd — what commands return

The records of `src/core/protocol/types.go` that the slaves report: domains,
storage pools, networks, containers and images, and the lists of domains by
node that a master makes of its slaves' reports. An element of a list is
unmarshalled into the zero value of its type.

`VMListAggregate.unmarshal_marshal` is the round trip between a master and
the orchestrator.
-/

namespace Centralisd

open Json

/-! ## Fields -/

namespace Json

/-- Assigning a JSON value to a `uint32`. -/
def asUint32 (old : UInt32) : Json → Option UInt32
  | .num m 0 => if 0 ≤ m ∧ m < 4294967296 then some (UInt32.ofNat m.toNat) else none
  | .null => some old
  | _ => none

/-- Assigning a JSON value to an `int64`. -/
def asInt (old : Int) : Json → Option Int
  | .num m 0 => if -9223372036854775808 ≤ m ∧ m < 9223372036854775808 then some m else none
  | .minusZero => some 0
  | .null => some old
  | _ => none

/-- Assigning a JSON value to a `map[string]string`: the members are added to
the map. -/
def asStringMap (old : AList fun _ : String => String) :
    Json → Option (AList fun _ : String => String)
  | .obj fields => fields.foldlM (fun m f => (asString "" f.2).map (m.insert f.1 ·)) old
  | .null => some ∅
  | _ => none

def ofUint32 (n : UInt32) : Json := .num n.toNat 0

theorem asUint32_ofUint32 (old n : UInt32) : asUint32 old (ofUint32 n) = some n := by
  have hrange : (0 : Int) ≤ n.toNat ∧ (n.toNat : Int) < 4294967296 := by
    have := n.toNat_lt
    omega
  rw [ofUint32, asUint32, if_pos hrange]
  simp

/-- A list is read back if its elements are. -/
theorem asSlice_map {T : Type} {elem : T → Json → Option T} {zero : T} {marshal : T → Json}
    (h : ∀ x, elem zero (marshal x) = some x) (xs : List T) :
    asSlice elem zero [] (.arr (xs.map marshal)) = some xs := by
  show asElems elem zero [] (xs.map marshal) = some xs
  induction xs with
  | nil => rfl
  | cons x xs ih => simp [asElems, h, ih]

end Json

/-! ## Domains -/

structure VMDomain where
  id : UInt32 := 0
  uuid : String := ""
  name : String := ""
  active : Bool := false
  persistent : Bool := false
  autostart : Bool := false
  state : String := ""
  maxMemMB : UInt64 := 0
  memoryMB : UInt64 := 0
  vcpus : UInt64 := 0
  isoPath : String := ""
  deriving DecidableEq, Repr

def VMDomain.set (key : String) (v : Json) (d : VMDomain) : Option VMDomain :=
  match key with
  | "ID" => (asUint32 d.id v).map fun n => { d with id := n }
  | "UUID" => (asString d.uuid v).map fun s => { d with uuid := s }
  | "NAME" => (asString d.name v).map fun s => { d with name := s }
  | "ACTIVE" => (asBool d.active v).map fun b => { d with active := b }
  | "PERSISTENT" => (asBool d.persistent v).map fun b => { d with persistent := b }
  | "AUTOSTART" => (asBool d.autostart v).map fun b => { d with autostart := b }
  | "STATE" => (asString d.state v).map fun s => { d with state := s }
  | "MAX_MEM_MB" => (asUint d.maxMemMB v).map fun n => { d with maxMemMB := n }
  | "MEMORY_MB" => (asUint d.memoryMB v).map fun n => { d with memoryMB := n }
  | "VCPUS" => (asUint d.vcpus v).map fun n => { d with vcpus := n }
  | "ISO_PATH" => (asString d.isoPath v).map fun s => { d with isoPath := s }
  | _ => some d

def VMDomain.unmarshal (old : VMDomain) : Json → Option VMDomain :=
  unmarshalStruct VMDomain.set old

def VMDomain.marshal (d : VMDomain) : Json :=
  .obj ([("id", ofUint32 d.id)] ++ ([("uuid", .str d.uuid)] ++ ([("name", .str d.name)] ++
    ([("active", .bool d.active)] ++ (omitFalse "persistent" d.persistent ++
    (omitFalse "autostart" d.autostart ++ (omitEmpty "state" d.state ++
    (omitZero "max_mem_mb" d.maxMemMB ++ (omitZero "memory_mb" d.memoryMB ++
    (omitZero "vcpus" d.vcpus ++ omitEmpty "iso_path" d.isoPath))))))))))

structure VMListNode where
  nodeID : String := ""
  domains : List VMDomain := []
  error : String := ""
  deriving DecidableEq, Repr

def VMListNode.set (key : String) (v : Json) (n : VMListNode) : Option VMListNode :=
  match key with
  | "NODE_ID" => (asString n.nodeID v).map fun s => { n with nodeID := s }
  | "DOMAINS" => (asSlice VMDomain.unmarshal {} n.domains v).map fun ds => { n with domains := ds }
  | "ERROR" => (asString n.error v).map fun s => { n with error := s }
  | _ => some n

def VMListNode.unmarshal (old : VMListNode) : Json → Option VMListNode :=
  unmarshalStruct VMListNode.set old

def VMListNode.marshal (n : VMListNode) : Json :=
  .obj ([("node_id", .str n.nodeID)] ++
    ((if n.domains = [] then [] else [("domains", .arr (n.domains.map VMDomain.marshal))]) ++
    omitEmpty "error" n.error))

structure VMListAggregate where
  nodes : List VMListNode := []
  deriving DecidableEq, Repr

def VMListAggregate.set (key : String) (v : Json) (a : VMListAggregate) : Option VMListAggregate :=
  match key with
  | "NODES" => (asSlice VMListNode.unmarshal {} a.nodes v).map VMListAggregate.mk
  | _ => some a

def VMListAggregate.unmarshal : Json → Option VMListAggregate :=
  unmarshalStruct VMListAggregate.set {}

def VMListAggregate.marshal (a : VMListAggregate) : Json :=
  .obj [("nodes", .arr (a.nodes.map VMListNode.marshal))]

/-- `json.Unmarshal` into an empty `[]VMDomain`. -/
def unmarshalVMDomains : Json → Option (List VMDomain) := asSlice VMDomain.unmarshal {} []

/-! ## Pools and networks -/

structure LibvirtStorageVolume where
  name : String := ""
  key : String := ""
  path : String := ""
  format : String := ""
  capacity : UInt64 := 0
  allocation : UInt64 := 0
  deriving DecidableEq, Repr

def LibvirtStorageVolume.set (key : String) (v : Json) (x : LibvirtStorageVolume) :
    Option LibvirtStorageVolume :=
  match key with
  | "NAME" => (asString x.name v).map fun s => { x with name := s }
  | "KEY" => (asString x.key v).map fun s => { x with key := s }
  | "PATH" => (asString x.path v).map fun s => { x with path := s }
  | "FORMAT" => (asString x.format v).map fun s => { x with format := s }
  | "CAPACITY" => (asUint x.capacity v).map fun n => { x with capacity := n }
  | "ALLOCATION" => (asUint x.allocation v).map fun n => { x with allocation := n }
  | _ => some x

def LibvirtStorageVolume.marshal (x : LibvirtStorageVolume) : Json :=
  .obj ([("name", .str x.name)] ++ omitEmpty "key" x.key ++ omitEmpty "path" x.path ++
    omitEmpty "format" x.format ++ omitZero "capacity" x.capacity ++
    omitZero "allocation" x.allocation)

structure LibvirtStoragePool where
  name : String := ""
  uuid : String := ""
  active : Bool := false
  persistent : Bool := false
  autostart : Bool := false
  capacity : UInt64 := 0
  allocation : UInt64 := 0
  available : UInt64 := 0
  volumes : List LibvirtStorageVolume := []
  deriving DecidableEq, Repr

def LibvirtStoragePool.set (key : String) (v : Json) (p : LibvirtStoragePool) :
    Option LibvirtStoragePool :=
  match key with
  | "NAME" => (asString p.name v).map fun s => { p with name := s }
  | "UUID" => (asString p.uuid v).map fun s => { p with uuid := s }
  | "ACTIVE" => (asBool p.active v).map fun b => { p with active := b }
  | "PERSISTENT" => (asBool p.persistent v).map fun b => { p with persistent := b }
  | "AUTOSTART" => (asBool p.autostart v).map fun b => { p with autostart := b }
  | "CAPACITY" => (asUint p.capacity v).map fun n => { p with capacity := n }
  | "ALLOCATION" => (asUint p.allocation v).map fun n => { p with allocation := n }
  | "AVAILABLE" => (asUint p.available v).map fun n => { p with available := n }
  | "VOLUMES" => (asSlice (unmarshalStruct LibvirtStorageVolume.set) {} p.volumes v).map
      fun xs => { p with volumes := xs }
  | _ => some p

def unmarshalStoragePools : Json → Option (List LibvirtStoragePool) :=
  asSlice (unmarshalStruct LibvirtStoragePool.set) {} []

def LibvirtStoragePool.marshal (p : LibvirtStoragePool) : Json :=
  .obj ([("name", .str p.name)] ++ omitEmpty "uuid" p.uuid ++ omitFalse "active" p.active ++
    omitFalse "persistent" p.persistent ++ omitFalse "autostart" p.autostart ++
    omitZero "capacity" p.capacity ++ omitZero "allocation" p.allocation ++
    omitZero "available" p.available ++
    if p.volumes = [] then []
    else [("volumes", .arr (p.volumes.map LibvirtStorageVolume.marshal))])

structure LibvirtNetwork where
  name : String := ""
  uuid : String := ""
  active : Bool := false
  persistent : Bool := false
  autostart : Bool := false
  deriving DecidableEq, Repr

def LibvirtNetwork.set (key : String) (v : Json) (n : LibvirtNetwork) : Option LibvirtNetwork :=
  match key with
  | "NAME" => (asString n.name v).map fun s => { n with name := s }
  | "UUID" => (asString n.uuid v).map fun s => { n with uuid := s }
  | "ACTIVE" => (asBool n.active v).map fun b => { n with active := b }
  | "PERSISTENT" => (asBool n.persistent v).map fun b => { n with persistent := b }
  | "AUTOSTART" => (asBool n.autostart v).map fun b => { n with autostart := b }
  | _ => some n

def LibvirtNetwork.marshal (n : LibvirtNetwork) : Json :=
  .obj ([("name", .str n.name)] ++ omitEmpty "uuid" n.uuid ++ omitFalse "active" n.active ++
    omitFalse "persistent" n.persistent ++ omitFalse "autostart" n.autostart)

def unmarshalNetworks : Json → Option (List LibvirtNetwork) :=
  asSlice (unmarshalStruct LibvirtNetwork.set) {} []

/-! ## Containers and images -/

structure DockerContainer where
  id : String := ""
  image : String := ""
  names : List String := []
  state : String := ""
  status : String := ""
  created : Int := 0
  deriving DecidableEq, Repr

def DockerContainer.set (key : String) (v : Json) (c : DockerContainer) : Option DockerContainer :=
  match key with
  | "ID" => (asString c.id v).map fun s => { c with id := s }
  | "IMAGE" => (asString c.image v).map fun s => { c with image := s }
  | "NAMES" => (asStrings c.names v).map fun xs => { c with names := xs }
  | "STATE" => (asString c.state v).map fun s => { c with state := s }
  | "STATUS" => (asString c.status v).map fun s => { c with status := s }
  | "CREATED" => (asInt c.created v).map fun n => { c with created := n }
  | _ => some c

/-- An integer field with `omitempty`. -/
def omitZeroInt (key : String) (n : Int) : List (String × Json) :=
  if n = 0 then [] else [(key, .num n 0)]

def DockerContainer.marshal (c : DockerContainer) : Json :=
  .obj ([("id", .str c.id), ("image", .str c.image)] ++ omitNil "names" c.names ++
    omitEmpty "state" c.state ++ omitEmpty "status" c.status ++ omitZeroInt "created" c.created)

def unmarshalContainers : Json → Option (List DockerContainer) :=
  asSlice (unmarshalStruct DockerContainer.set) {} []

structure DockerImage where
  id : String := ""
  repoTags : List String := []
  size : Int := 0
  created : Int := 0
  labels : AList fun _ : String => String := ∅

def DockerImage.set (key : String) (v : Json) (i : DockerImage) : Option DockerImage :=
  match key with
  | "ID" => (asString i.id v).map fun s => { i with id := s }
  | "REPO_TAGS" => (asStrings i.repoTags v).map fun xs => { i with repoTags := xs }
  | "SIZE" => (asInt i.size v).map fun n => { i with size := n }
  | "CREATED" => (asInt i.created v).map fun n => { i with created := n }
  | "LABELS" => (asStringMap i.labels v).map fun m => { i with labels := m }
  | _ => some i

/-- The members of a map are written in the order of their keys. -/
def ofStringMap (m : AList fun _ : String => String) : Json :=
  .obj ((m.entries.map fun e => (e.1, .str e.2)).mergeSort fun e e' => decide (e.1 ≤ e'.1))

def DockerImage.marshal (i : DockerImage) : Json :=
  .obj ([("id", .str i.id)] ++ omitNil "repo_tags" i.repoTags ++ omitZeroInt "size" i.size ++
    omitZeroInt "created" i.created ++
    if i.labels.entries = [] then [] else [("labels", ofStringMap i.labels)])

def unmarshalImages : Json → Option (List DockerImage) :=
  asSlice (unmarshalStruct DockerImage.set) {} []

/-! ## Round trips -/

theorem VMDomain.unmarshal_marshal (d : VMDomain) : VMDomain.unmarshal {} d.marshal = some d := by
  obtain ⟨id, uuid, name, active, persistent, autostart, state, maxMemMB, memoryMB, vcpus,
    isoPath⟩ := d
  refine Reads.unmarshal (.append { id } (.field "ID" (by decide) ?_) ?_)
  · rw [set, asUint32_ofUint32, Option.map_some]
  refine .append { id, uuid } (.field "UUID" (by decide) rfl) ?_
  refine .append { id, uuid, name } (.field "NAME" (by decide) rfl) ?_
  refine .append { id, uuid, name, active } (.field "ACTIVE" (by decide) rfl) ?_
  refine .append { id, uuid, name, active, persistent }
    (.omit "PERSISTENT" (by decide) rfl fun h => by cases h; rfl) ?_
  refine .append { id, uuid, name, active, persistent, autostart }
    (.omit "AUTOSTART" (by decide) rfl fun h => by cases h; rfl) ?_
  refine .append { id, uuid, name, active, persistent, autostart, state }
    (.omit "STATE" (by decide) rfl fun h => by cases h; rfl) ?_
  refine .append { id, uuid, name, active, persistent, autostart, state, maxMemMB }
    (.omit "MAX_MEM_MB" (by decide) ?_ fun h => by cases h; rfl) ?_
  · rw [set, asUint_ofUint, Option.map_some]
  refine .append { id, uuid, name, active, persistent, autostart, state, maxMemMB, memoryMB }
    (.omit "MEMORY_MB" (by decide) ?_ fun h => by cases h; rfl) ?_
  · rw [set, asUint_ofUint, Option.map_some]
  refine .append { id, uuid, name, active, persistent, autostart, state, maxMemMB, memoryMB, vcpus }
    (.omit "VCPUS" (by decide) ?_ fun h => by cases h; rfl) ?_
  · rw [set, asUint_ofUint, Option.map_some]
  exact .omit "ISO_PATH" (by decide) rfl fun h => by cases h; rfl

theorem VMListNode.unmarshal_marshal (n : VMListNode) :
    VMListNode.unmarshal {} n.marshal = some n := by
  obtain ⟨nodeID, domains, error⟩ := n
  refine Reads.unmarshal (.append { nodeID } (.field "NODE_ID" (by decide) rfl) ?_)
  refine .append { nodeID, domains } (.omit "DOMAINS" (by decide) ?_ fun h => by cases h; rfl) ?_
  · rw [set, asSlice_map VMDomain.unmarshal_marshal, Option.map_some]
  · exact .omit "ERROR" (by decide) rfl fun h => by cases h; rfl

theorem VMListAggregate.unmarshal_marshal (a : VMListAggregate) :
    VMListAggregate.unmarshal a.marshal = some a := by
  refine Reads.unmarshal (.field "NODES" (by decide) ?_)
  rw [set, asSlice_map VMListNode.unmarshal_marshal, Option.map_some]

end Centralisd
