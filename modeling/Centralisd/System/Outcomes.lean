import Centralisd.System.VMList
import Centralisd.Web.Actions

/-!
# Centralisd — failures that are shown

Actions and fetches report a failure by its text, and the empty text means
success. The text is that of the error or of the reply's `Message`, and a
reply may fail with an empty `Message`.

* `failures_shown_iff` — the action handlers, the fetch functions and the
  master's aggregate show no failure as a success exactly when no failure
  comes without a text.
-/

namespace Centralisd

open Master Web

/-! ## Actions -/

/-- The handler shows a success only if the command was sent and its reply is
`"ok"`. -/
def ActionShown (page : ActionPage) (send : Sender) (clusterID nodeID action : String)
    (form : Form) : Prop :=
  page.handle (some send) clusterID nodeID action form = "" →
    ∃ command params reply, page.command action form = .ok (command, params) ∧
      page.send send clusterID nodeID command params = .ok reply ∧ reply.status = "ok"

/-- A command is sent and fails silently. -/
def ActionSilent (page : ActionPage) (send : Sender) (clusterID nodeID action : String)
    (form : Form) : Prop :=
  ∃ command params, page.command action form = .ok (command, params) ∧
    SilentFailure (page.send send clusterID nodeID command params)

theorem actionError_eq_empty (outcome : Except String CommandReply) :
    actionError outcome = "" ↔
      (∃ reply, outcome = .ok reply ∧ reply.status = "ok") ∨ SilentFailure outcome := by
  cases outcome with
  | error err =>
    refine ⟨fun h => .inr h, ?_⟩
    rintro (⟨reply, ⟨⟩, -⟩ | h)
    exact h
  | ok reply =>
    unfold actionError SilentFailure
    dsimp only
    by_cases hstatus : reply.status = "ok"
    · rw [if_neg (not_not.mpr hstatus)]
      exact iff_of_true rfl (.inl ⟨reply, rfl, hstatus⟩)
    · rw [if_pos hstatus]
      refine ⟨fun h => .inr ⟨hstatus, h⟩, ?_⟩
      rintro (⟨reply', ⟨⟩, hok⟩ | h)
      · exact absurd hok hstatus
      · exact h.2

/-- A form is refused with a text. -/
theorem command_error_ne (page : ActionPage) {action : String} {form : Form} {text : String}
    (h : page.command action form = .error text) : text ≠ "" := by
  -- every branch of the three functions ends in a command or in a constant text
  cases page with
  | nodeVirtualization =>
    simp only [ActionPage.command, virtualizationCommand] at h
    repeat' split at h
    all_goals cases h <;> decide
  | dockerContainers =>
    simp only [ActionPage.command, dockerContainersCommand] at h
    repeat' split at h
    all_goals cases h <;> decide
  | dockerImages =>
    simp only [ActionPage.command, dockerImagesCommand] at h
    repeat' split at h
    all_goals cases h <;> decide

theorem actionShown_iff (page : ActionPage) (send : Sender) {clusterID nodeID : String}
    (hcluster : clusterID ≠ "") (hnode : nodeID ≠ "") (action : String) (form : Form) :
    ActionShown page send clusterID nodeID action form ↔
      ¬ ActionSilent page send clusterID nodeID action form := by
  unfold ActionShown ActionSilent ActionPage.handle
  dsimp only
  rw [if_neg (not_or.mpr ⟨hcluster, hnode⟩)]
  cases hcommand : page.command action form with
  | error text =>
    refine iff_of_true (fun h => absurd h (command_error_ne page hcommand)) ?_
    rintro ⟨command, params, ⟨⟩, -⟩
  | ok built =>
    obtain ⟨command, params⟩ := built
    dsimp only
    rw [actionError_eq_empty]
    constructor
    · rintro hshown ⟨command', params', ⟨⟩, hsilent⟩
      obtain ⟨_, _, reply, ⟨⟩, hreply, hok⟩ := hshown (.inr hsilent)
      rw [hreply] at hsilent
      exact hsilent.1 hok
    · rintro hloud (⟨reply, hreply, hok⟩ | hsilent)
      · exact ⟨command, params, reply, rfl, hreply, hok⟩
      · exact absurd ⟨command, params, rfl, hsilent⟩ hloud

/-! ## Fetches -/

/-- A list without an error text was listed, unless the failure is silent. -/
theorem readList_shown_iff {T : Type} (unmarshal : Json → Option (List T)) {invalid : String}
    (hinvalid : invalid ≠ "") (outcome : Except String CommandReply) :
    ((readList invalid unmarshal outcome).2 = "" →
      Fetched unmarshal (readList invalid unmarshal outcome).1 outcome) ↔
      ¬ SilentFailure outcome := by
  cases outcome with
  | error err =>
    constructor
    · intro h hsilent
      obtain ⟨reply, ⟨⟩, -⟩ := h hsilent
    · exact fun hloud h => absurd h hloud
  | ok reply =>
    unfold readList
    dsimp only
    by_cases hstatus : reply.status = "ok"
    swap
    · rw [if_pos hstatus]
      constructor
      · intro h hsilent
        obtain ⟨reply', ⟨⟩, hok, -⟩ := h hsilent.2
        exact hstatus hok
      · exact fun hloud h => absurd ⟨hstatus, h⟩ hloud
    rw [if_neg (not_not.mpr hstatus)]
    have hloud : ¬ SilentFailure (.ok reply) := fun h => h.1 hstatus
    cases hout : reply.output.bind unmarshal with
    | none => exact iff_of_true (fun h => absurd h hinvalid) hloud
    | some items => exact iff_of_true (fun _ => ⟨reply, rfl, hstatus, hout⟩) hloud

/-- A fetch shows a list only if its command was sent and answered with that
list. -/
def FetchShown {T : Type} (unmarshal : Json → Option (List T))
    (outcome : Option (Except String CommandReply)) (fetched : List T × String) : Prop :=
  fetched.2 = "" → ∃ o, outcome = some o ∧ Fetched unmarshal fetched.1 o

/-- The docker fetches are quiet about a missing store or name, too. -/
theorem fetchDocker_shown_iff {T : Type} (action : String) {invalid : String}
    (unmarshal : Json → Option (List T)) (hinvalid : invalid ≠ "") (store : Option Sender)
    (clusterID nodeID : String) :
    FetchShown unmarshal (dockerOutcome action store clusterID nodeID)
        (fetchDocker action invalid unmarshal store clusterID nodeID) ↔
      ∃ o, dockerOutcome action store clusterID nodeID = some o ∧ ¬ SilentFailure o := by
  unfold FetchShown fetchDocker
  cases houtcome : dockerOutcome action store clusterID nodeID with
  | none =>
    refine iff_of_false (fun h => ?_) ?_
    · obtain ⟨o, ⟨⟩, -⟩ := h rfl
    · rintro ⟨o, ⟨⟩, -⟩
  | some o =>
    have hread := readList_shown_iff unmarshal hinvalid o
    constructor
    · intro h
      refine ⟨o, rfl, hread.mp fun hempty => ?_⟩
      obtain ⟨_, ⟨⟩, hlisted⟩ := h hempty
      exact hlisted
    · rintro ⟨_, ⟨⟩, hloud⟩ hempty
      exact ⟨o, rfl, hread.mpr hloud hempty⟩

/-- `fetchNodeVMDomains` says that there is no store. -/
theorem fetchNodeVMDomains_shown_iff (store : Option Sender) (clusterID nodeID : String) :
    FetchShown unmarshalVMDomains
        (some (sendNodeCommand store clusterID nodeID "libvirt.domains.list" none))
        (fetchNodeVMDomains store clusterID nodeID) ↔
      ¬ SilentFailure (sendNodeCommand store clusterID nodeID "libvirt.domains.list" none) := by
  have hread := readList_shown_iff unmarshalVMDomains
    (by decide : "invalid domain list" ≠ "")
    (sendNodeCommand store clusterID nodeID "libvirt.domains.list" none)
  refine ⟨fun h => hread.mp fun hempty => ?_, fun hloud hempty => ⟨_, rfl, hread.mpr hloud hempty⟩⟩
  obtain ⟨o, ⟨⟩, hlisted⟩ := h hempty
  exact hlisted

/-! ## The aggregate -/

/-- The master's reply leaves the error empty only for nodes that have
answered with a list. -/
def AggregateShown (nodeIDs : List String) (send : String → Packet → Except String Packet)
    (command : Json) : Prop :=
  ∀ nodes, Aggregates (.ok (handleMasterCommand nodeIDs send (some command))) nodes →
    ∀ n ∈ nodes, n.error = "" → ∃ items, Lists (send n.nodeID (listPacket command)) items

theorem aggregateShown_iff {command : Json} {cmd : NodeCommand}
    (hcmd : NodeCommand.unmarshal command = some cmd)
    (haction : cmd.action = "libvirt.domains.list")
    (nodeIDs : List String) (send : String → Packet → Except String Packet) :
    AggregateShown nodeIDs send command ↔ ∀ id ∈ nodeIDs, trimSpace id ≠ "" →
      ¬ FailsSilently (send id (listPacket command)) := by
  have hnodes : ∀ nodes, Aggregates (.ok (handleMasterCommand nodeIDs send (some command))) nodes ↔
      nodes = listEntries command nodeIDs send := by
    intro nodes
    rw [handleMasterCommand_list hcmd haction]
    constructor
    · rintro ⟨reply, ⟨⟩, -, hread⟩
      rw [Option.bind_some, VMListAggregate.unmarshal_marshal] at hread
      cases hread
      rfl
    · rintro rfl
      exact ⟨_, rfl, rfl, VMListAggregate.unmarshal_marshal _⟩
  unfold AggregateShown
  simp only [hnodes, forall_eq]
  unfold listEntries
  rw [List.forall_mem_map]
  simp only [List.mem_filter, decide_eq_true_eq, and_imp, listNode_nodeID]
  refine forall_congr' fun id => forall_congr' fun _ => forall_congr' fun _ => ?_
  rcases listNode_cases id (send id (listPacket command)) with
    ⟨items, hlists, hloud, hentry⟩ | ⟨hnone, error, hentry, hsilent⟩
  · exact iff_of_true (fun _ => ⟨items, hlists⟩) hloud
  · rw [hentry, hsilent]
    constructor
    · intro h hs
      obtain ⟨items, hlists⟩ := h hs
      exact hnone items hlists
    · exact fun h hs => absurd hs h

/-! ## All of them -/

/-- **Failures are shown exactly when they have a text.** Whatever comes of
the commands,

1. an action handler of a page, for a store, a cluster and a node, shows a
   success only if its command was sent and the reply is `"ok"`, exactly when
   the command is not one that is sent and fails without a text;
2. a fetch shows a list only if the reply is `"ok"` and has that list,
   exactly when its command is sent and does not fail without a text
   (`fetchNodeVMDomains` always tries);
3. the master's aggregate leaves the error empty only for nodes that have
   answered with a list, exactly when no node fails without a text. -/
theorem failures_shown_iff (page : ActionPage) (send : Sender) (store : Option Sender)
    (clusterID nodeID action : String) (form : Form) (command : Json) (nodeIDs : List String)
    (sendToNode : String → Packet → Except String Packet) :
    (clusterID ≠ "" → nodeID ≠ "" →
      (ActionShown page send clusterID nodeID action form ↔
        ¬ ActionSilent page send clusterID nodeID action form)) ∧
    ((FetchShown unmarshalContainers
        (dockerOutcome "docker.containers.list" store clusterID nodeID)
        (fetchNodeDocker store clusterID nodeID) ↔
          ∃ o, dockerOutcome "docker.containers.list" store clusterID nodeID = some o ∧
            ¬ SilentFailure o) ∧
      (FetchShown unmarshalImages (dockerOutcome "docker.images.list" store clusterID nodeID)
        (fetchNodeDockerImages store clusterID nodeID) ↔
          ∃ o, dockerOutcome "docker.images.list" store clusterID nodeID = some o ∧
            ¬ SilentFailure o) ∧
      (FetchShown unmarshalVMDomains
        (some (sendNodeCommand store clusterID nodeID "libvirt.domains.list" none))
        (fetchNodeVMDomains store clusterID nodeID) ↔
          ¬ SilentFailure (sendNodeCommand store clusterID nodeID "libvirt.domains.list" none))) ∧
    ∀ cmd, NodeCommand.unmarshal command = some cmd → cmd.action = "libvirt.domains.list" →
      (AggregateShown nodeIDs sendToNode command ↔ ∀ id ∈ nodeIDs, trimSpace id ≠ "" →
        ¬ FailsSilently (sendToNode id (listPacket command))) := by
  refine ⟨fun hcluster hnode => ?_, ⟨?_, ?_, ?_⟩, fun cmd hcmd haction => ?_⟩
  · exact actionShown_iff page send hcluster hnode action form
  · exact fetchDocker_shown_iff _ _ (by decide) store clusterID nodeID
  · exact fetchDocker_shown_iff _ _ (by decide) store clusterID nodeID
  · exact fetchNodeVMDomains_shown_iff store clusterID nodeID
  · exact aggregateShown_iff hcmd haction nodeIDs sendToNode

/-- A store whose commands all fail with a text. -/
def downSender : Sender := fun _ _ => .error "master not connected"

/-- When every command fails with a text, no failure is shown as a success:
not of an action, not of a fetch, and not of a node in the aggregate. -/
theorem failures_shown_down :
    ActionShown .nodeVirtualization downSender "c" "n" "start" (fun _ => "vm") ∧
    FetchShown unmarshalContainers
      (dockerOutcome "docker.containers.list" (some downSender) "c" "n")
      (fetchNodeDocker (some downSender) "c" "n") ∧
    AggregateShown ["n"] (fun _ _ => .error "node not connected") listCommand := by
  obtain ⟨haction, ⟨hcontainers, -, -⟩, haggregate⟩ :=
    failures_shown_iff .nodeVirtualization downSender (some downSender) "c" "n" "start"
      (fun _ => "vm") listCommand ["n"] (fun _ _ => .error "node not connected")
  have hdown : ¬ SilentFailure (.error "master not connected") :=
    (by decide : "master not connected" ≠ "")
  refine ⟨(haction (by decide) (by decide)).mpr ?_, hcontainers.mpr ⟨_, rfl, hdown⟩, ?_⟩
  · rintro ⟨command, params, -, hsilent⟩
    have hsent : SilentFailure (sendNodeCommand (some downSender) "c" "n" command
      (some params)) := hsilent
    unfold sendNodeCommand at hsent
    dsimp only at hsent
    split at hsent
    · exact absurd hsent (by decide : "action is required" ≠ "")
    · exact hdown hsent
  · have hcmd := NodeCommand.unmarshal_marshal ⟨"libvirt.domains.list", none⟩
    refine (haggregate _ hcmd rfl).mpr fun id _ _ => ?_
    rintro (herr | ⟨respPacket, -, hok, -⟩)
    · exact absurd herr (by simp)
    · cases hok

/-- A reply that fails without saying why. -/
def silentReply : CommandReply where
  status := "error"

/-- The failed start of a machine is shown as a success, an empty list of
containers as what the host has, and a failed node as one without
machines. -/
theorem silent_failures_hidden :
    ¬ ActionShown .nodeVirtualization (fun _ _ => .ok silentReply) "c" "n" "start" (fun _ => "vm") ∧
    ¬ FetchShown unmarshalContainers
      (dockerOutcome "docker.containers.list" (some fun _ _ => .ok silentReply) "c" "n")
      (fetchNodeDocker (some fun _ _ => .ok silentReply) "c" "n") ∧
    ¬ AggregateShown ["n"]
      (fun _ _ => .ok { type := packetNodeCommandReply, payload := some silentReply.marshal })
      listCommand := by
  have hsilent : SilentFailure (.ok silentReply) := ⟨by decide, rfl⟩
  refine ⟨fun h => ?_, fun h => ?_, fun h => ?_⟩
  · refine (actionShown_iff _ _ (by decide) (by decide) _ _).mp h ⟨"libvirt.domain.start",
      LibvirtVMActionParams.marshal { name := "vm" }, ?_, ?_⟩
    · have hname : trimSpace "vm" = "vm" := by decide
      have haction : trimSpace "start" = "start" := by decide
      simp only [ActionPage.command, virtualizationCommand, haction, hname]
      rfl
    · have haction : trimSpace "libvirt.domain.start" ≠ "" := by decide
      simp only [ActionPage.send, sendNodeCommand, if_neg haction]
      exact hsilent
  · obtain ⟨o, ho, hloud⟩ := (fetchDocker_shown_iff _ _ (by decide) _ _ _).mp h
    have ho' : some (Except.ok silentReply) = some o := ho
    cases ho'
    exact hloud hsilent
  · have hcmd := NodeCommand.unmarshal_marshal ⟨"libvirt.domains.list", none⟩
    refine (aggregateShown_iff hcmd rfl _ _).mp h "n" List.mem_cons_self (by decide) (.inr ?_)
    exact ⟨_, silentReply, rfl, rfl,
      decodePayload_some rfl (CommandReply.unmarshal_marshal silentReply), hsilent⟩

end Centralisd
