import Centralisd.Lib.Machine
import Centralisd.Lib.KeyedTable
import Centralisd.Lib.PendingTable
import Centralisd.Lib.Relay
import Centralisd.Lib.Shared
import Centralisd.Core.Framing
import Centralisd.Core.Streams
import Centralisd.Master.Registry
import Centralisd.Master.Client
import Centralisd.Master.OrchestratorLoop
import Centralisd.Master.ConnectLoop
import Centralisd.Orchestrator.ConnTable
import Centralisd.Orchestrator.Commands
import Centralisd.Orchestrator.Registry
import Centralisd.Orchestrator.Upsert
import Centralisd.Orchestrator.Routing
import Centralisd.Orchestrator.Transcript
import Centralisd.Slave.Handlers
import Centralisd.Slave.Create
import Centralisd.Slave.Disks
import Centralisd.Slave.Firewall
import Centralisd.Slave.Survival
import Centralisd.Slave.Footprint
import Centralisd.Slave.Handles
import Centralisd.Slave.Hosted
import Centralisd.System.Requests
import Centralisd.System.Replies
import Centralisd.System.SlaveLoop
import Centralisd.System.Session
import Centralisd.System.Identity
import Centralisd.System.Handshake
import Centralisd.System.Auth
import Centralisd.System.Tiers
import Centralisd.System.Hops
import Centralisd.System.Provenance
import Centralisd.System.EndToEnd
import Centralisd.System.Busy
import Centralisd.System.VMList
import Centralisd.System.Outcomes
import Centralisd.System.Forms
import Centralisd.System.Intent
import Centralisd.Web.Page
import Centralisd.Web.Links
import Centralisd.Main
import Centralisd.Startup
