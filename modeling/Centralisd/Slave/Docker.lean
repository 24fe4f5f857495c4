import Mathlib.Data.List.AList
import Centralisd.Core.Params
import Centralisd.Lib.Effect

/-!
# Centralisd — creating containers

`handleDockerContainerCreate` of `src/slave/handlers/docker.go`, over an
explicit daemon that holds its containers by their IDs. A call may fail, and
then does nothing. `network.ParsePort` and `container.ValidateRestartPolicy`
belong to the docker library and are parameters (`Moby`).
-/

namespace Centralisd.Slave

open Effect

/-- The functions of the docker library that the handler calls. -/
structure Moby where
  /-- `network.ParsePort`: the port, unless the text is not one -/
  parsePort : String → Option String
  /-- `container.ValidateRestartPolicy`: its error -/
  validateRestartPolicy : String → Option String

/-- What `ContainerCreate` is given. -/
structure ContainerOptions where
  name : String
  image : String
  cmd : List String
  entrypoint : List String
  workingDir : String
  env : List String
  exposedPorts : List String
  publishAllPorts : Bool
  autoRemove : Bool
  restartPolicy : String
  deriving DecidableEq, Repr

structure Container where
  options : ContainerOptions
  running : Bool
  deriving DecidableEq, Repr

structure Docker where
  /-- by ID -/
  containers : AList fun _ : String => Container

inductive DockerCall where
  | getClient
  | containerCreate
  | containerStart
  deriving DecidableEq, Repr

/-- What the daemon answers in one run of the handler. -/
structure DockerAnswers where
  fails : DockerCall → Option String := fun _ => none
  /-- the ID of a new container -/
  id : String
  warnings : List String := []

abbrev DockerM := EStateM String Docker

def dockerAttempt (a : DockerAnswers) (c : DockerCall) : DockerM Unit :=
  match a.fails c with
  | some err => throw err
  | none => pure ()

def Docker.hasName (s : Docker) (name : String) : Bool :=
  s.containers.entries.any fun c => c.2.options.name == name

/-- `ContainerCreate`: the new container's ID. Names are not given twice. -/
def containerCreate (a : DockerAnswers) (options : ContainerOptions) : DockerM String := do
  dockerAttempt a .containerCreate
  let s ← get
  refuseIf ((options.name ≠ "" ∧ s.hasName options.name = true) ∨ a.id ∈ s.containers) "Conflict"
  set { s with containers := s.containers.insert a.id ⟨options, false⟩ }
  pure a.id

def containerStart (a : DockerAnswers) (id : String) : DockerM Unit := do
  dockerAttempt a .containerStart
  let s ← get
  match s.containers.lookup id with
  | none => throw "No such container"
  | some c => set { s with containers := s.containers.insert id { c with running := true } }

/-- `strings.Fields`. -/
def fields (s : String) : List String :=
  ((s.toList.splitOnP isSpace).filter (· ≠ [])).map String.ofList

/-- The loop over `params.Ports`. -/
def parsePorts (moby : Moby) : List String → Except String (List String)
  | [] => .ok []
  | raw :: ports => match moby.parsePort (trimSpace raw) with
    | none => .error ("invalid port: " ++ raw)
    | some p => match parsePorts moby ports with
      | .error err => .error err
      | .ok ps => .ok (p :: ps)

/-- The check of a restart policy that is given. -/
def checkRestartPolicy (moby : Moby) (restartPolicy : String) : Option String :=
  if restartPolicy = "" then none else moby.validateRestartPolicy (trimSpace restartPolicy)

def containerOptions (params : DockerContainerCreateParams) (exposedPorts : List String) :
    ContainerOptions where
  name := trimSpace params.name
  image := trimSpace params.image
  cmd := if trimSpace params.command ≠ "" then fields params.command else []
  entrypoint := if trimSpace params.entrypoint ≠ "" then fields params.entrypoint else []
  workingDir := trimSpace params.workingDir
  env := params.env
  exposedPorts := exposedPorts
  publishAllPorts := params.publishAll
  autoRemove := params.autoRemove
  restartPolicy := if params.restartPolicy = "" then "" else trimSpace params.restartPolicy

/-- `DockerContainerCreateResult`. -/
def containerCreateResult (a : DockerAnswers) (id : String) : Json :=
  .obj ([("id", .str id)] ++ Json.omitNil "warnings" a.warnings)

def handleDockerContainerCreate (moby : Moby) (a : DockerAnswers) (cmd : NodeCommand) :
    DockerM Json :=
  match cmd.params.bind DockerContainerCreateParams.unmarshal with
  | none => throw "invalid container create params"
  | some params => do
    refuseIf (trimSpace params.image = "") "image is required"
    dockerAttempt a .getClient
    match parsePorts moby params.ports with
    | .error err => throw err
    | .ok ports => match checkRestartPolicy moby params.restartPolicy with
      | some err => throw err
      | none => do
        let id ← containerCreate a (containerOptions params ports)
        doIf params.start (containerStart a id)
        pure (containerCreateResult a id)

end Centralisd.Slave
