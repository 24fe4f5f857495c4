import Centralisd.Lib.Footprint
import Centralisd.Web.Actions

/-!
# Centralisd — the web handler

The handlers of `ServeWeb` in `src/orchestrator/web/main.go`, for one request
that is served alone (`Web/Page` is about several): the path, the pages with
their fetches, and the actions of the forms. What the handler calls is the
store and the sending of commands (`Lib/Runtime`). The store may change
between two calls, and each command has an outcome of its own.

`/clusters/…` has seven kinds of pages. Whatever is rendered or sent belongs
to the cluster and the node in the path: `commands_sanctioned` says which
commands a request may send, to whom and after which answers of the store.
Only a form that was posted sends anything but a listing, and only the
command that the page in the path makes of it.
-/

namespace Centralisd.Web

open Runtime Orchestrator

/-! ## Calls -/

inductive Call where
  | isKnownCluster (id : String)
  | nodesForCluster (id : String)
  | isClusterOnline (id : String)
  | mastersForCluster (id : String)
  | activeClusters
  /-- `SendClusterCommandWait` -/
  | clusterCommand (target : TargetRequest) (cmd : RawMessage)
  /-- `SendMasterCommandWait` -/
  | masterCommand (masterID : String) (cmd : RawMessage)

abbrev Val : Call → Type
  | .isKnownCluster _ | .isClusterOnline _ => Bool
  | .nodesForCluster _ => List NodeInfo
  | .mastersForCluster _ => List MasterEntry
  | .activeClusters => List String
  | .clusterCommand _ _ | .masterCommand _ _ => CommandReply

abbrev interface : Interface where
  Call := Call
  Val := Val

/-- The handler, on a store with states in `σ`. -/
abbrev Serve (σ : Type) := Prog interface σ Unit

/-! ## Requests and pages -/

structure Request where
  method : String
  /-- `r.URL.Path` as the handler gets it; a path with empty, `.` or `..`
  segments does not come this far, `ServeMux` redirects it to its clean form -/
  path : String
  /-- the fields, `none` if `r.ParseForm` fails -/
  form : Option Form

inductive Template where
  | home
  | cluster
  | vms
  | reverseProxy
  | nodes
  | node
  | nodeVirtualization
  deriving DecidableEq, Repr

/-- `viewData`. -/
structure PageData where
  title : String
  activeClusterItem : String := ""
  activeNode : NodeInfo := {}
  activeNodeItem : String := ""
  nodesOpen : Bool := false
  clusters : List String := []
  activeCluster : String := ""
  clusterOnline : Bool := false
  nodes : List NodeInfo := []
  vmDomains : List VMListNode := []
  nodeVMDomains : List VMDomain := []
  dockerContainers : List DockerContainer := []
  dockerImages : List DockerImage := []
  dockerError : String := ""
  dockerAction : String := ""
  dockerActionError : String := ""
  libvirtStoragePools : List LibvirtStoragePool := []
  libvirtNetworks : List LibvirtNetwork := []
  libvirtError : String := ""
  libvirtAction : String := ""
  libvirtActionError : String := ""

inductive Response where
  | notFound
  | page (tmpl : Template) (data : PageData)

/-! ## Paths -/

/-- `strings.TrimPrefix`. -/
def trimPrefix (pre s : String) : String :=
  if pre.toList <+: s.toList then String.ofList (s.toList.drop pre.toList.length) else s

/-- `strings.Trim(s, "/")`. -/
def trimSlashes (s : String) : String :=
  String.ofList (((s.toList.dropWhile (· == '/')).reverse.dropWhile (· == '/')).reverse)

/-- `strings.Split(s, "/")`. -/
def splitSlashes (s : String) : List String := (s.toList.splitOn '/').map String.ofList

/-- The parts of a path below `/clusters/`, of which there must be one to
four. -/
def pathParts (path : String) : Option (List String) :=
  let rest := trimSlashes (trimPrefix "/clusters/" path)
  if rest = "" then none
  else if 4 < (splitSlashes rest).length then none
  else some (splitSlashes rest)

def findNode (nodes : List NodeInfo) (raw : String) : Option NodeInfo :=
  if trimSpace raw = "" then none else nodes.find? fun node => node.id == trimSpace raw

def nodeLabel (node : NodeInfo) : String :=
  if trimSpace node.name ≠ "" then node.name else node.id

/-! ## Fetching -/

variable {σ : Type} (H : Host interface σ)

/-- `tcp.SendClusterCommandWait` for a node. -/
def sendToNode (clusterID nodeID : String) (cmd : NodeCommand) :
    Serve σ (Except String CommandReply) :=
  ask H (.clusterCommand (nodeTarget clusterID nodeID) (some (NodeCommand.marshal cmd))) true

namespace Live

def sendNodeCommand (clusterID nodeID action : String) (params : RawMessage) :
    Serve σ (Except String CommandReply) :=
  if trimSpace action = "" then pure (.error "action is required")
  else sendToNode H clusterID nodeID ⟨trimSpace action, params⟩

/-- `fetchNodeDocker` and `fetchNodeDockerImages`. -/
def fetchDocker {T : Type} (action invalid : String) (unmarshal : Json → Option (List T))
    (clusterID nodeID : String) : Serve σ (List T × String) :=
  if clusterID = "" ∨ nodeID = "" then pure ([], "")
  else do
    let outcome ← sendToNode H clusterID nodeID ⟨action, none⟩
    pure (readList invalid unmarshal outcome)

def fetchNodeDocker : String → String → Serve σ (List DockerContainer × String) :=
  fetchDocker H "docker.containers.list" "invalid docker container list" unmarshalContainers

def fetchNodeDockerImages : String → String → Serve σ (List DockerImage × String) :=
  fetchDocker H "docker.images.list" "invalid docker image list" unmarshalImages

/-- `fetchNodeVMDomains`, and up to the type of their error
`fetchNodeStoragePools` and `fetchNodeNetworks`. -/
def fetchLibvirt {T : Type} (action invalid : String) (unmarshal : Json → Option (List T))
    (clusterID nodeID : String) : Serve σ (List T × String) := do
  let outcome ← sendNodeCommand H clusterID nodeID action none
  pure (readList invalid unmarshal outcome)

/-- An iteration of `fetchVMDomains`. -/
def fetchMaster (master : MasterEntry) : Serve σ (List VMListNode) :=
  if master.id = "" then pure []
  else do
    let outcome ← ask H (.masterCommand master.id
      (some (NodeCommand.marshal ⟨"libvirt.domains.list", none⟩))) true
    pure (masterDomains master.id outcome)

def fetchVMDomains (clusterID : String) : Serve σ (List VMListNode) :=
  if clusterID = "" then pure []
  else do
    let masters ← valueOr H (.mastersForCluster clusterID) []
    let results ← List.mapM (fetchMaster H) (masters : List MasterEntry)
    pure results.flatten

/-- The virtualization page sends through `sendNodeCommand`. -/
def sendAction (page : ActionPage) (clusterID nodeID command : String) (params : Json) :
    Serve σ (Except String CommandReply) :=
  match page with
  | .nodeVirtualization => sendNodeCommand H clusterID nodeID command (some params)
  | .dockerContainers | .dockerImages => sendToNode H clusterID nodeID ⟨command, some params⟩

/-- The three action handlers. -/
def handleAction (page : ActionPage) (clusterID nodeID action : String) (form : Form) :
    Serve σ String :=
  if clusterID = "" ∨ nodeID = "" then pure ""
  else match page.command action form with
    | .error text => pure text
    | .ok (command, params) => do
      let outcome ← sendAction H page clusterID nodeID command params
      pure (actionError outcome)

end Live

/-! ## Pages of a node -/

/-- What a page does with a posted form: the action and the text of its
error. -/
def postedAction (page : ActionPage) (r : Request) (clusterID nodeID : String) :
    Serve σ (String × String) :=
  if r.method ≠ "POST" then pure ("", "")
  else match r.form with
    | none => pure ("", "invalid form data")
    | some form => do
      let action := trimSpace (form "action")
      let err ← Live.handleAction H page clusterID nodeID action form
      pure (action, err)

/-- The pages of a node, by the last part of the path. -/
def nodePage (r : Request) (id : String) (node : NodeInfo) (sub : String) (data : PageData) :
    Serve σ Response :=
  match sub with
  | "docker" | "docker-containers" => do
    let (action, err) ← postedAction H .dockerContainers r id node.id
    let (items, text) ← Live.fetchNodeDocker H id node.id
    pure (.page .node { data with
      activeNodeItem := "docker-containers", dockerAction := action, dockerActionError := err
      dockerContainers := items, dockerError := text })
  | "docker-images" => do
    let (action, err) ← postedAction H .dockerImages r id node.id
    let (items, text) ← Live.fetchNodeDockerImages H id node.id
    pure (.page .node { data with
      activeNodeItem := "docker-images", dockerAction := action, dockerActionError := err
      dockerImages := items, dockerError := text })
  | "virtualization" => do
    let (action, err) ← postedAction H .nodeVirtualization r id node.id
    let (domains, text) ← Live.fetchLibvirt H "libvirt.domains.list" "invalid domain list"
      unmarshalVMDomains id node.id
    let (pools, poolsText) ← Live.fetchLibvirt H "libvirt.storage.pools.list"
      "invalid storage pool list" unmarshalStoragePools id node.id
    let (networks, networksText) ← Live.fetchLibvirt H "libvirt.networks.list"
      "invalid network list" unmarshalNetworks id node.id
    pure (.page .nodeVirtualization { data with
      activeNodeItem := "virtualization", libvirtAction := action, libvirtActionError := err
      nodeVMDomains := domains, libvirtStoragePools := pools, libvirtNetworks := networks
      -- the first error that has a text
      libvirtError := if text ≠ "" then text else if poolsText ≠ "" then poolsText
        else networksText })
  | _ => pure .notFound

/-! ## The handlers -/

/-- The page of a cluster by the second part of the path, if it is the last:
the item, the template and the title. -/
def clusterPage (id : String) : List String → Option (String × Template × String)
  | ["vms"] => some ("vms", .vms, "VMs: " ++ id)
  | ["reverse-proxy"] => some ("reverse-proxy", .reverseProxy, "Reverse Proxy: " ++ id)
  | ["nodes"] => some ("nodes", .nodes, "Nodes: " ++ id)
  | [_] => none
  | _ => some ("", .cluster, "Cluster: " ++ id)

/-- `render`, which fills in the clusters of the navigation. -/
def render (tmpl : Template) (data : PageData) : Serve σ Response := do
  let clusters ← valueOr H .activeClusters []
  -- the number of masters is logged
  let _ ← valueOr H (.mastersForCluster data.activeCluster) []
  pure (.page tmpl { data with clusters })

def rendered : Response → Serve σ Response
  | .notFound => pure .notFound
  | .page tmpl data => render H tmpl data

/-- The rest of the handler of `/clusters/`, once the cluster and its page are
known. -/
def knownCluster (r : Request) (id : String) (more : List String) (item : String)
    (tmpl : Template) (title : String) : Serve σ Response := do
  let nodes ← valueOr H (.nodesForCluster id) []
  let online ← valueOr H (.isClusterOnline id) false
  let data : PageData := { title, nodesOpen := true, activeCluster := id,
                           activeClusterItem := item, clusterOnline := online, nodes }
  match more with
  | kind :: raw :: sub =>
    if kind ≠ "nodes" then pure .notFound
    else match findNode nodes raw with
      | none => pure .notFound
      | some node => do
        let response ← nodePage H r id node (sub.head?.getD "docker") { data with
          activeClusterItem := "nodes", activeNode := node
          title := "Node: " ++ nodeLabel node }
        rendered H response
  | _ =>
    if item = "vms" then do
      let domains ← Live.fetchVMDomains H id
      render H tmpl { data with vmDomains := domains }
    else render H tmpl data

/-- The handler of `/clusters/`. -/
def clustersHandler (r : Request) : Serve σ Response :=
  match pathParts r.path with
  | none => pure .notFound
  | some [] => pure .notFound
  | some (id :: more) =>
    if id = "" then pure .notFound
    else do
      let known ← valueOr H (.isKnownCluster id) false
      if known = false then pure .notFound
      else match clusterPage id more with
        | none => pure .notFound
        | some (item, tmpl, title) => knownCluster H r id more item tmpl title

/-- The handler of `/`. -/
def homeHandler (r : Request) : Serve σ Response :=
  if r.path ≠ "/" then pure .notFound
  else render H .home { title := "Centralis" }

/-- The choice of `ServeMux` between the two, for a path that it leaves as it
is. -/
def serveHTTP (r : Request) : Serve σ Response :=
  if "/clusters/".toList <+: r.path.toList then clustersHandler H r else homeHandler H r

/-! ## What a request sends -/

/-- The calls that send a command. -/
def Call.sends : Call → Bool
  | .clusterCommand _ _ | .masterCommand _ _ => true
  | _ => false

/-- The actions that the pages list things with. -/
def listActions : List String :=
  ["docker.containers.list", "docker.images.list", "libvirt.domains.list",
    "libvirt.storage.pools.list", "libvirt.networks.list"]

/-- The store knows the cluster, and lists the node in it that the path
names. -/
structure Targets (r : Request) (before : List (Event interface)) (id nodeID : String) :
    Prop where
  known : ⟨.isKnownCluster id, .ok true, true⟩ ∈ before
  listed : ∃ nodes node, ⟨.nodesForCluster id, .ok nodes, true⟩ ∈ before ∧ node ∈ nodes ∧
    node.id = nodeID
  path : ∃ raw sub, pathParts r.path = some (id :: "nodes" :: raw :: sub) ∧ nodeID = trimSpace raw

/-- The page whose forms are sent to a path, by its last part. -/
def formPage (sub : String) : Option ActionPage :=
  match sub with
  | "docker" | "docker-containers" => some .dockerContainers
  | "docker-images" => some .dockerImages
  | "virtualization" => some .nodeVirtualization
  | _ => none

/-- The action in a page's command; `sendNodeCommand` trims it. -/
def ActionPage.sentAction (page : ActionPage) (command : String) : String :=
  match page with
  | .nodeVirtualization => trimSpace command
  | .dockerContainers | .dockerImages => command

/-- The commands that a request may send, after the calls before. -/
inductive Sanctioned (r : Request) (before : List (Event interface)) : Call → Prop
  | list {id nodeID action : String} (htarget : Targets r before id nodeID)
      (haction : action ∈ listActions) :
      Sanctioned r before (.clusterCommand (nodeTarget id nodeID)
        (some (NodeCommand.marshal ⟨action, none⟩)))
  | action {id nodeID raw command : String} {sub : List String} {params : Json}
      {page : ActionPage} {form : Form}
      (htarget : Targets r before id nodeID) (hmethod : r.method = "POST")
      (hpath : pathParts r.path = some (id :: "nodes" :: raw :: sub))
      (hpage : formPage (sub.head?.getD "docker") = some page) (hform : r.form = some form)
      (hcommand : page.command (trimSpace (form "action")) form = .ok (command, params)) :
      Sanctioned r before (.clusterCommand (nodeTarget id nodeID)
        (some (NodeCommand.marshal ⟨page.sentAction command, some params⟩)))
  | master {id : String} {master : MasterEntry} {masters : List MasterEntry}
      (hpath : pathParts r.path = some [id, "vms"])
      (hknown : ⟨.isKnownCluster id, .ok true, true⟩ ∈ before)
      (hmasters : ⟨.mastersForCluster id, .ok masters, true⟩ ∈ before) (hmem : master ∈ masters)
      (hid : master.id ≠ "") :
      Sanctioned r before (.masterCommand master.id
        (some (NodeCommand.marshal ⟨"libvirt.domains.list", none⟩)))

def RequestRule (r : Request) (before : List (Event interface)) (e : Event interface) : Prop :=
  e.call.sends = true → Sanctioned r before e.call

section
variable {H} {r : Request} {E : List (Event interface)} {id nodeID : String}

theorem Targets.mono {before : List (Event interface)} (h : Targets r E id nodeID)
    (hsub : E ⊆ before) : Targets r before id nodeID where
  known := hsub h.known
  listed := by
    obtain ⟨nodes, node, hnodes, hnode⟩ := h.listed
    exact ⟨nodes, node, hsub hnodes, hnode⟩
  path := h.path

theorem asks_store {c : Call} {tolerated : Bool} (h : c.sends = false)
    (before : List (Event interface)) (answer : Except String (interface.Val c))
    (_ : E ⊆ before) : RequestRule r before ⟨c, answer, tolerated⟩ := by
  intro hsends
  rw [h] at hsends
  cases hsends

/-- A command that is sanctioned by what is known. -/
theorem sendToNode_confined {cmd : NodeCommand}
    (h : ∀ before, E ⊆ before → Sanctioned r before
      (.clusterCommand (nodeTarget id nodeID) (some (NodeCommand.marshal cmd)))) :
    Confined H (RequestRule r) E (sendToNode H id nodeID cmd) Bare := by
  unfold sendToNode
  rw [← bind_pure (ask H _ true)]
  exact .ask (fun before _ hE _ => h before hE) fun _ => .value

theorem listing_confined {action : String} (htarget : Targets r E id nodeID)
    (haction : action ∈ listActions) :
    Confined H (RequestRule r) E (sendToNode H id nodeID ⟨action, none⟩) Bare :=
  sendToNode_confined fun _ hE => .list (htarget.mono hE) haction

theorem fetchDocker_confined {T : Type} {action invalid : String}
    {unmarshal : Json → Option (List T)} (htarget : Targets r E id nodeID)
    (haction : action ∈ listActions) :
    Confined H (RequestRule r) E (Live.fetchDocker H action invalid unmarshal id nodeID) Bare := by
  unfold Live.fetchDocker
  split
  · exact .value
  · exact .next (listing_confined htarget haction) fun _ => .value

theorem fetchLibvirt_confined {T : Type} {action invalid : String}
    {unmarshal : Json → Option (List T)} (htarget : Targets r E id nodeID)
    (haction : trimSpace action ∈ listActions) :
    Confined H (RequestRule r) E (Live.fetchLibvirt H action invalid unmarshal id nodeID) Bare := by
  refine .next (Q := Bare) ?_ fun _ => .value
  unfold Live.sendNodeCommand
  split
  · exact .value
  · exact listing_confined htarget haction

theorem handleAction_confined {page : ActionPage} {form : Form} {raw : String}
    {sub : List String} (htarget : Targets r E id nodeID) (hmethod : r.method = "POST")
    (hpath : pathParts r.path = some (id :: "nodes" :: raw :: sub))
    (hpage : formPage (sub.head?.getD "docker") = some page) (hform : r.form = some form) :
    Confined H (RequestRule r) E
      (Live.handleAction H page id nodeID (trimSpace (form "action")) form) Bare := by
  unfold Live.handleAction
  split
  · exact .value
  · split
    · exact .value
    · next command params hcommand =>
      refine .next (Q := Bare) ?_ fun _ => .value
      have hsend : Confined H (RequestRule r) E
          (sendToNode H id nodeID ⟨page.sentAction command, some params⟩) Bare :=
        sendToNode_confined fun _ hE => .action (htarget.mono hE) hmethod hpath hpage hform hcommand
      cases page with
      | nodeVirtualization =>
        show Confined H (RequestRule r) E
          (Live.sendNodeCommand H id nodeID command (some params)) Bare
        unfold Live.sendNodeCommand
        split
        · exact .value
        · exact hsend
      | dockerContainers => exact hsend
      | dockerImages => exact hsend

theorem postedAction_confined {page : ActionPage} {raw : String} {sub : List String}
    (htarget : Targets r E id nodeID)
    (hpath : pathParts r.path = some (id :: "nodes" :: raw :: sub))
    (hpage : formPage (sub.head?.getD "docker") = some page) :
    Confined H (RequestRule r) E (postedAction H page r id nodeID) Bare := by
  unfold postedAction
  split
  · exact .value
  · next hmethod =>
    split
    · exact .value
    · next form hform =>
      refine .next (handleAction_confined htarget ?_ hpath hpage hform) fun _ => .value
      exact not_not.mp hmethod

/-- The page that is shown is the one whose forms the path takes. -/
theorem nodePage_confined {node : NodeInfo} {raw sub : String} {more : List String}
    {data : PageData} (htarget : Targets r E id node.id)
    (hpath : pathParts r.path = some (id :: "nodes" :: raw :: more))
    (hsub : more.head?.getD "docker" = sub) :
    Confined H (RequestRule r) E (nodePage H r id node sub data) Bare := by
  have hpage := congrArg formPage hsub
  unfold nodePage
  split
  · refine .next (postedAction_confined htarget hpath hpage) fun _ => ?_
    exact .next (fetchDocker_confined htarget (by decide)) fun _ => .value
  · refine .next (postedAction_confined htarget hpath hpage) fun _ => ?_
    exact .next (fetchDocker_confined htarget (by decide)) fun _ => .value
  · refine .next (postedAction_confined htarget hpath hpage) fun _ => ?_
    exact .next (fetchDocker_confined htarget (by decide)) fun _ => .value
  · refine .next (postedAction_confined htarget hpath hpage) fun _ => ?_
    refine .next (fetchLibvirt_confined htarget (by decide)) fun _ => ?_
    refine .next (fetchLibvirt_confined htarget (by decide)) fun _ => ?_
    exact .next (fetchLibvirt_confined htarget (by decide)) fun _ => .value
  · exact .value

theorem render_confined {tmpl : Template} {data : PageData} :
    Confined H (RequestRule r) E (render H tmpl data) Bare := by
  unfold render
  refine .look (asks_store rfl) fun clusters => ?_
  exact .look (asks_store rfl) fun _ => .value

theorem fetchVMDomains_confined (hpath : pathParts r.path = some [id, "vms"])
    (hknown : ⟨.isKnownCluster id, .ok true, true⟩ ∈ E) :
    Confined H (RequestRule r) E (Live.fetchVMDomains H id) Bare := by
  unfold Live.fetchVMDomains
  split
  · exact .value
  · refine .valueOr (asks_store rfl) (.next (.mapM fun _ hmem => ?_) fun _ => .value) fun masters => ?_
    · exact absurd hmem List.not_mem_nil
    · refine .next (.mapM fun master hmem => ?_) fun _ => .value
      unfold Live.fetchMaster
      split
      · exact .value
      · next hid =>
        refine .ask (fun _ _ hE _ => ?_) fun _ => .value
        exact .master hpath (hE (.tail _ hknown)) (hE (.head _)) hmem hid

theorem findNode_some {nodes : List NodeInfo} {raw : String} {node : NodeInfo}
    (h : findNode nodes raw = some node) : node ∈ nodes ∧ node.id = trimSpace raw := by
  unfold findNode at h
  split at h
  · cases h
  · have hid := List.find?_some h
    exact ⟨List.mem_of_find?_eq_some h, eq_of_beq hid⟩

theorem clusterPage_vms {more : List String} {tmpl : Template} {title : String}
    (h : clusterPage id more = some ("vms", tmpl, title)) : more = ["vms"] := by
  unfold clusterPage at h
  split at h
  · rfl
  · simp at h
  · simp at h
  · cases h
  · simp at h

theorem knownCluster_confined {more : List String} {item title : String} {tmpl : Template}
    (hpath : pathParts r.path = some (id :: more))
    (hpage : clusterPage id more = some (item, tmpl, title))
    (hknown : ⟨.isKnownCluster id, .ok true, true⟩ ∈ E) :
    Confined H (RequestRule r) E (knownCluster H r id more item tmpl title) Bare := by
  have hvms : item = "vms" → more = ["vms"] := by
    rintro rfl
    exact clusterPage_vms hpage
  unfold knownCluster
  -- nothing is sent for a node if the store lists none
  refine .valueOr (asks_store rfl) (.look (asks_store rfl) fun online => ?_) fun nodes =>
    .look (asks_store rfl) fun online => ?_
  · split
    · split
      · exact .value
      · have hnone : ∀ raw, findNode [] raw = none := fun raw => by simp [findNode]
        rw [hnone]
        exact .value
    · split
      · next hitem =>
        refine .next (fetchVMDomains_confined ?_ hknown) fun domains => render_confined
        rw [hpath, hvms hitem]
      · exact render_confined
  · split
    · next kind raw sub =>
      split
      · exact .value
      · next hkind =>
        cases hnode : findNode nodes raw with
        | none => exact .value
        | some node =>
          obtain ⟨hmem, hid⟩ := findNode_some hnode
          rw [not_not] at hkind
          subst hkind
          have htarget : Targets r (⟨.nodesForCluster id, .ok nodes, true⟩ :: E) id node.id :=
            ⟨.tail _ hknown, ⟨nodes, node, .head _, hmem, rfl⟩, ⟨raw, sub, hpath, hid⟩⟩
          refine .next (nodePage_confined htarget hpath rfl) fun response => ?_
          cases response with
          | notFound => exact .value
          | page tmpl data => exact render_confined
    · split
      · next hitem =>
        refine .next (fetchVMDomains_confined ?_ (.tail _ hknown)) fun domains => render_confined
        rw [hpath, hvms hitem]
      · exact render_confined

theorem clustersHandler_confined (r : Request) :
    Confined H (RequestRule r) [] (clustersHandler H r) Bare := by
  unfold clustersHandler
  split
  · exact .value
  · exact .value
  · next id more hpath =>
    split
    · exact .value
    · refine .valueOr (asks_store rfl) .value fun known => ?_
      split
      · exact .value
      · next hknown =>
        cases hpage : clusterPage id more with
        | none => exact .value
        | some found =>
          rw [Bool.not_eq_false] at hknown
          subst hknown
          exact knownCluster_confined hpath hpage (.head _)

theorem serveHTTP_confined (r : Request) :
    Confined H (RequestRule r) [] (serveHTTP H r) Bare := by
  unfold serveHTTP
  split
  · exact clustersHandler_confined r
  · unfold homeHandler
    split
    · exact .value
    · exact render_confined

/-- What is sent for a request is sanctioned after what came before it. -/
theorem exists_sanctioned {r : Request} {s : σ} {e : Event interface}
    (he : e ∈ (Effect.stateOf (serveHTTP H r { host := s, globals := () })).events)
    (hsends : e.call.sends = true) : ∃ before, Sanctioned r before e.call := by
  obtain ⟨before, after, heq⟩ := List.append_of_mem he
  have hrun := (serveHTTP_confined (H := H) r).run { host := s, globals := () } .nil
    (List.nil_subset _)
  exact ⟨before, hrun.events before e after heq hsends⟩

/-- Every command that a request sends is sanctioned by the path, by what the
store has answered before and, if it is no listing, by the posted form. -/
theorem commands_sanctioned (r : Request) (s : σ) :
    ∀ before e after,
      (Effect.stateOf (serveHTTP H r { host := s, globals := () })).events =
        before ++ e :: after → e.call.sends = true → Sanctioned r before e.call :=
  ((serveHTTP_confined (H := H) r).run { host := s, globals := () } .nil
    (List.nil_subset _)).events

end

/-- A store that knows a cluster with one node, which does not answer. -/
def labStore : Host interface Unit where
  answer c s :=
    match c with
    | .isKnownCluster id => (.ok (id == "lab"), s)
    | .nodesForCluster _ => (.ok [{ id := "n1" }], s)
    | .isClusterOnline _ => (.ok true, s)
    | .mastersForCluster _ => (.ok [], s)
    | .activeClusters => (.ok ["lab"], s)
    | .clusterCommand _ _ | .masterCommand _ _ => (.error "timeout waiting for response", s)

def labRequest : Request := { method := "GET", path := "/clusters/lab/nodes/n1", form := none }

def labServed : List (Event interface) :=
  (Effect.stateOf (serveHTTP labStore labRequest { host := (), globals := () })).events

theorem labServed_sends : ∃ before after, labServed = before ++
    ⟨.clusterCommand (nodeTarget "lab" "n1")
      (some (NodeCommand.marshal ⟨"docker.containers.list", none⟩)),
      .error "timeout waiting for response", true⟩ :: after :=
  ⟨labServed.take 3, labServed.drop 4, rfl⟩

theorem commands_sanctioned_lab : ∃ before, Sanctioned labRequest before
    (.clusterCommand (nodeTarget "lab" "n1")
      (some (NodeCommand.marshal ⟨"docker.containers.list", none⟩))) := by
  obtain ⟨before, after, hserved⟩ := labServed_sends
  exact ⟨before, commands_sanctioned labRequest () before _ after hserved rfl⟩

end Centralisd.Web
