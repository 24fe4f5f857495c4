import Centralisd.Core.Records
import Centralisd.Lib.Runtime
import Centralisd.Slave.Docker
import Centralisd.Slave.Firewall
import Centralisd.Slave.Libvirt

/-!
# Centralisd — what the slave calls

The libraries that the slave uses, as a program sees them (`Lib/Runtime`):
nftables, libvirt, docker and the hardware sampling, and the connection it
writes its replies to. Objects of the libraries are references, and a
function that returns one returns nil together with an error.

The functions of `src/slave/firewall`, `src/slave/hardware`,
`src/slave/libvirt` and `src/slave/docker` follow, each with the errors it
returns and those it drops.
-/

namespace Centralisd.Slave.Process

open Runtime

/-! ## Calls -/

/-- The kinds of objects that are referred to. -/
inductive Kind where
  | nft
  | connect
  | domain
  | network
  | pool
  | volume
  | client
  | pull
  deriving DecidableEq, Repr

structure Ref (k : Kind) where
  id : String
  deriving DecidableEq, Repr

/-- A `float64`, by what `json.Marshal` makes of it: NaN and the infinities
have no JSON. -/
structure Float64 where
  json : Option Json

/-- `mem.VirtualMemoryStat`. -/
structure VirtualMemoryStat where
  total : UInt64
  usedPercent : Float64

/-- `libvirt.DomainInfo`. -/
structure DomainInfo where
  state : Nat
  maxMem : UInt64
  memory : UInt64
  nrVirtCpu : UInt64

/-- `libvirt.StoragePoolInfo`, and `StorageVolInfo`, which has no
`Available`. -/
structure StorageInfo where
  capacity : UInt64
  allocation : UInt64
  available : UInt64

/-- What is done to a domain. -/
inductive DomainOp where
  | setAutostart (autostart : Bool)
  | create
  | shutdown
  | reboot
  | destroy
  | undefineFlags
  | updateDeviceFlags (xml : String) (live : Bool)

inductive Call where
  -- nftables
  | nftablesNew
  | flush (nft : Ref .nft) (batch : List Nft.Command)
  -- libvirt connections
  | newConnect
  | listNetworks (qemu : Ref .connect)
  /-- `ListAllDomains`, `ListAllStoragePools`, `ListAllNetworks` -/
  | listAll (k : Kind) (qemu : Ref .connect)
  /-- `LookupDomainByName`, `LookupStoragePoolByName`, `LookupStorageVolByPath` -/
  | lookup (k : Kind) (qemu : Ref .connect) (key : String)
  | domainDefineXML (qemu : Ref .connect) (xml : String)
  -- libvirt objects
  | storageVolCreateXML (pool : Ref .pool) (xml : String)
  | listAllStorageVolumes (pool : Ref .pool)
  | getName (k : Kind) (r : Ref k)
  | getUUIDString (k : Kind) (r : Ref k)
  | isActive (k : Kind) (r : Ref k)
  | isPersistent (k : Kind) (r : Ref k)
  | getAutostart (k : Kind) (r : Ref k)
  | getXMLDesc (k : Kind) (r : Ref k)
  | getID (d : Ref .domain)
  | getDomainInfo (d : Ref .domain)
  | getStorageInfo (k : Kind) (r : Ref k)
  | getKey (v : Ref .volume)
  | getPath (v : Ref .volume)
  | domainOp (d : Ref .domain) (op : DomainOp)
  | delete (v : Ref .volume)
  /-- `Free`, and `Close` of a pull -/
  | free (k : Kind) (r : Ref k)
  -- docker
  | newClient
  | containerList (cli : Ref .client)
  | imageList (cli : Ref .client)
  | imagePull (cli : Ref .client) (image : String)
  | wait (resp : Ref .pull)
  | imageRemove (cli : Ref .client) (image : String) (force pruneChildren : Bool)
  | containerCreate (cli : Ref .client) (options : ContainerOptions)
  | containerStart (cli : Ref .client) (id : String)
  | containerStop (cli : Ref .client) (id : String) (timeout : Option Int)
  | containerRestart (cli : Ref .client) (id : String) (timeout : Option Int)
  | containerRemove (cli : Ref .client) (id : String) (force removeVolumes : Bool)
  -- hardware
  | virtualMemory
  | percent
  | counts
  -- the connection to the master
  | writePacket (p : Packet)

/-- The values that calls return. -/
abbrev Val : Call → Type
  | .nftablesNew => Ref .nft
  | .newConnect => Ref .connect
  | .listNetworks _ => List String
  | .listAll k _ => List (Ref k)
  | .lookup k _ _ => Ref k
  | .domainDefineXML _ _ => Ref .domain
  | .storageVolCreateXML _ _ => Ref .volume
  | .listAllStorageVolumes _ => List (Ref .volume)
  | .getName _ _ | .getUUIDString _ _ | .getXMLDesc _ _ | .getKey _ | .getPath _ => String
  | .isActive _ _ | .isPersistent _ _ | .getAutostart _ _ => Bool
  | .getID _ => UInt32
  | .getDomainInfo _ => DomainInfo
  | .getStorageInfo _ _ => StorageInfo
  | .newClient => Ref .client
  | .containerList _ => List DockerContainer
  | .imageList _ => List DockerImage
  | .imagePull _ _ => Ref .pull
  -- `Deleted` and `Untagged`
  | .imageRemove _ _ _ _ => List (String × String)
  -- the ID and the warnings
  | .containerCreate _ _ => String × List String
  | .virtualMemory => VirtualMemoryStat
  | .percent => List Float64
  | .counts => Int
  | _ => Unit

abbrev interface : Interface where
  Call := Call
  Val := Val

/-- `g_conn` and `g_client`. -/
structure Globals where
  conn : Option (Ref .connect) := none
  client : Option (Ref .client) := none

/-- The slave, on a host with states in `σ`. -/
abbrev Go (σ : Type) := Prog interface σ Globals

variable {σ : Type} (H : Host interface σ)

/-! ## Firewall -/

def setupFirewall (master : String) : Go σ Unit := do
  let nft ← call H .nftablesNew
  let part ← index (split ':' master) 1
  call H (.flush nft (commands (to4 (parseIP part))))

/-! ## Hardware -/

structure HardwareInfo where
  ram : Option VirtualMemoryStat
  cpu : Float64
  cpuCores : Int

def getHardwareInfo : Go σ HardwareInfo := do
  let ram ← valueOr H .virtualMemory { total := 0, usedPercent := ⟨some (.num 0 0)⟩ }
  -- the error is logged
  let cpuUsage ← valueOr H .percent []
  let cores ← valueOr H .counts (0 : Int)
  let cpu ← index cpuUsage 0
  pure { ram := some ram, cpu, cpuCores := cores }

/-! ## Connections -/

def getQEMU : Go σ (Option (Ref .connect)) := do
  let w ← get
  match w.globals.conn with
  | some conn => pure (some conn)
  | none => do
    let conn ← call H .newConnect
    assign fun g => { g with conn := some conn }
    pure (some conn)

def getClient : Go σ (Option (Ref .client)) := do
  let w ← get
  match w.globals.client with
  | some cli => pure (some cli)
  | none => do
    let cli ← call H .newClient
    assign fun g => { g with client := some cli }
    pure (some cli)

def getDomains (conn : Option (Ref .connect)) : Go σ (List (Ref .domain)) := do
  let conn ← deref conn
  call H (.listAll .domain conn)

/-! ## `vm.go` -/

/-- The check for a nil connection. -/
def connected (conn : Option (Ref .connect)) : Go σ (Ref .connect) := do
  refuseIf (conn = none) "nil libvirt connection"
  deref conn

def lookupDomainByName (conn : Option (Ref .connect)) (name : String) :
    Go σ (Option (Ref .domain)) := do
  let conn ← connected conn
  refuseIf (trimSpace name = "") "domain name is required"
  let domain ← call H (.lookup .domain conn (trimSpace name))
  pure (some domain)

/-- `DomainStateString`, by the numbers of the states. -/
def domainStateString (state : Nat) : String :=
  match state with
  | 1 => "running"
  | 2 => "blocked"
  | 3 => "paused"
  | 4 => "shutdown"
  | 5 => "shutoff"
  | 6 => "crashed"
  | 7 => "suspended"
  | _ => "unknown"

/-- The ISO path and the disk paths in a description, empty if it is not
XML. -/
def describedDisks (xmlDesc : String) : String × List String :=
  if xmlDesc = "" then ("", [])
  else ((Xml.parse xmlDesc).map fun root => describeDisks (unmarshalDisks root)).getD ("", [])

def describeDomain (d : Option (Ref .domain)) : Go σ (VMDomain × List String) := do
  refuseIf (d = none) "nil domain"
  let d ← deref d
  let name ← call H (.getName .domain d)
  let uuid ← valueOr H (.getUUIDString .domain d) ""
  let id ← valueOr H (.getID d) (0 : UInt32)
  let active ← valueOr H (.isActive .domain d) false
  let persistent ← valueOr H (.isPersistent .domain d) false
  let autostart ← valueOr H (.getAutostart .domain d) false
  let info ← pointer H (.getDomainInfo d)
  let xmlDesc ← valueOr H (.getXMLDesc .domain d) ""
  let disks := describedDisks xmlDesc
  let out : VMDomain := { id, uuid, name, active, persistent, autostart, isoPath := disks.1 }
  match (info : Option DomainInfo) with
  | none => pure (out, disks.2)
  | some info => pure ({ out with
      state := domainStateString info.state
      maxMemMB := info.maxMem / 1024
      memoryMB := info.memory / 1024
      vcpus := info.nrVirtCpu }, disks.2)

/-- The format in the description of a volume. -/
def volumeFormat (xmlDesc : String) : String :=
  if xmlDesc = "" then ""
  else ((Xml.parse xmlDesc).map fun root =>
    ((root.childrenNamed "target").flatMap fun t => t.childrenNamed "format").foldl
      (fun old f => (f.attr "type").getD old) "").getD ""

def describeStorageVolume (vol : Option (Ref .volume)) : Go σ LibvirtStorageVolume := do
  refuseIf (vol = none) "nil storage volume"
  let vol ← deref vol
  let name ← call H (.getName .volume vol)
  let key ← valueOr H (.getKey vol) ""
  let path ← valueOr H (.getPath vol) ""
  let info ← pointer H (.getStorageInfo .volume vol)
  let xmlDesc ← valueOr H (.getXMLDesc .volume vol) ""
  let out : LibvirtStorageVolume := { name, key, path, format := volumeFormat xmlDesc }
  match (info : Option StorageInfo) with
  | none => pure out
  | some info => pure { out with capacity := info.capacity, allocation := info.allocation }

def describeStoragePool (pool : Option (Ref .pool)) : Go σ LibvirtStoragePool := do
  refuseIf (pool = none) "nil storage pool"
  let pool ← deref pool
  let name ← call H (.getName .pool pool)
  let uuid ← valueOr H (.getUUIDString .pool pool) ""
  let active ← valueOr H (.isActive .pool pool) false
  let persistent ← valueOr H (.isPersistent .pool pool) false
  let autostart ← valueOr H (.getAutostart .pool pool) false
  let info ← pointer H (.getStorageInfo .pool pool)
  let vols ← call H (.listAllStorageVolumes pool)
  let volumes ← List.mapM (fun vol => deferCall H (.free .volume vol)
    (describeStorageVolume H (some vol))) (vols : List (Ref .volume))
  let out : LibvirtStoragePool := { name, uuid, active, persistent, autostart, volumes }
  match (info : Option StorageInfo) with
  | none => pure out
  | some info => pure { out with
      capacity := info.capacity, allocation := info.allocation, available := info.available }

def listStoragePools (conn : Option (Ref .connect)) : Go σ (List LibvirtStoragePool) := do
  let conn ← connected conn
  let pools ← call H (.listAll .pool conn)
  List.mapM (fun pool => deferCall H (.free .pool pool) (describeStoragePool H (some pool)))
    (pools : List (Ref .pool))

/-- One iteration of `ListNetworks`. -/
def describeNetwork (net : Ref .network) : Go σ LibvirtNetwork := do
  let name ← valueOr H (.getName .network net) ""
  let uuid ← valueOr H (.getUUIDString .network net) ""
  let active ← valueOr H (.isActive .network net) false
  let persistent ← valueOr H (.isPersistent .network net) false
  let autostart ← valueOr H (.getAutostart .network net) false
  let _ ← valueOr H (.free .network net) ()
  pure { name, uuid, active, persistent, autostart }

def listNetworks (conn : Option (Ref .connect)) : Go σ (List LibvirtNetwork) := do
  let conn ← connected conn
  let nets ← call H (.listAll .network conn)
  List.mapM (describeNetwork H) (nets : List (Ref .network))

def createDiskVolume (conn : Option (Ref .connect)) (poolName diskName : String)
    (diskSizeGB : UInt64) : Go σ (Option (Ref .volume) × String) := do
  let conn ← connected conn
  refuseIf (trimSpace diskName = "") "disk name is required"
  let pool ← call H (.lookup .pool conn (poolOrDefault poolName))
  deferCall H (.free .pool pool) do
    let vol ← call H (.storageVolCreateXML pool (volumeXML diskName diskSizeGB))
    let path ← onError H (.free .volume vol) (call H (.getPath vol))
    pure (some vol, path)

/-- One iteration of `DeleteDomainVolumes`. A volume that is not found is
passed over. -/
def deleteVolume (conn : Ref .connect) (path : String) : Go σ Unit :=
  if trimSpace path = "" then pure ()
  else do
    match ← ask H (.lookup .volume conn (trimSpace path)) true with
    | .error _ => pure ()
    | .ok vol => deferCall H (.free .volume vol) (call H (.delete vol))

def deleteDomainVolumes (conn : Option (Ref .connect)) (diskPaths : List String) : Go σ Unit := do
  let conn ← connected conn
  let _ ← List.mapM (deleteVolume H conn) diskPaths
  pure ()

end Centralisd.Slave.Process
