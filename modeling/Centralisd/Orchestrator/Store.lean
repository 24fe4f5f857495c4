import Mathlib.Data.Finset.Card
import Mathlib.Data.List.AList
import Centralisd.Core.Handshake

/-!
# Centralisd — the orchestrator's store

`src/orchestrator/registry`: the in-memory `Store` of masters and
`VerifyMasterAuth`. Instants and the TTL are integers of one unit. The
answer of the allowed-clusters database to `IsAllowed` is an input
(`Verdict`): what the rows say, or that the call failed.
-/

namespace Centralisd.Orchestrator

/-! ## `auth.go` -/

/-- `VerifyMasterAuth`; `none` is the panic of `ed25519.Verify`. -/
def verifyMasterAuth (C : Crypto) (challenge : String) (master : MasterInfo) (sigB64 : String) :
    Option Bool :=
  match Base64.decodeString master.pubKey with
  | none => some false
  | some pubKeyBytes =>
    if pubKeyBytes.length ≠ publicKeySize then some false
    else if verifyIDForPublicKey C master.id pubKeyBytes = false then some false
    else verifyChallengeSignature C pubKeyBytes challenge sigB64

/-! ## `registry.go` -/

/-- `registry.MasterInfo`: the reported record and when it was stored. -/
structure MasterEntry extends MasterInfo where
  lastSeen : Int
  deriving DecidableEq, Repr

/-- `mastersByID`. -/
abbrev Masters := AList fun _ : String => MasterEntry

/-- What `UpsertMaster` learns from the allowed clusters: `none` when the
store has none, else the answer or the error of `IsAllowed`. -/
abbrev Verdict := Option (Except String Bool)

/-- The verdict lets the update pass. -/
def Verdict.passes : Verdict → Bool
  | none => true
  | some (.ok ok) => ok
  | some (.error _) => false

/-- A master counts as online until the TTL has passed. -/
def MasterEntry.fresh (ttl now : Int) (m : MasterEntry) : Bool := !decide (now - m.lastSeen > ttl)

/-- `MastersForCluster`, in the order of the table's entries. -/
def mastersForCluster (masters : Masters) (ttl now : Int) (clusterID : String) :
    List MasterEntry :=
  if clusterID = "" then []
  else (masters.entries.map Sigma.snd).filter fun m =>
    decide (m.cluster = clusterID) && m.fresh ttl now

/-- `MasterHasNode`. -/
def masterHasNode (master : MasterEntry) (nodeID : String) : Bool :=
  if nodeID = "" then false else master.nodes.any fun node => node.id == nodeID

/-! ## What the checks establish -/

theorem verifyMasterAuth_ne_none (C : Crypto) (challenge : String) (master : MasterInfo)
    (sigB64 : String) : verifyMasterAuth C challenge master sigB64 ≠ none := by
  unfold verifyMasterAuth
  split
  · exact Option.some_ne_none _
  · split
    · exact Option.some_ne_none _
    · split
      · exact Option.some_ne_none _
      · exact verifyChallengeSignature_ne_none C _ _ _

theorem verifyMasterAuth_eq_true {C : Crypto} {challenge : String} {master : MasterInfo}
    {sigB64 : String} :
    verifyMasterAuth C challenge master sigB64 = some true ↔
      ∃ pubKey, Base64.decodeString master.pubKey = some pubKey ∧
        trimSpace master.id = keyID C pubKey ∧
        verifyChallengeSignature C pubKey challenge sigB64 = some true := by
  unfold verifyMasterAuth
  cases hdec : Base64.decodeString master.pubKey with
  | none => simp
  | some pubKey =>
    by_cases hlen : pubKey.length = publicKeySize
    · -- the ID is compared after trimming the reported one only
      have hid := verifyIDForPublicKey_iff C master.id pubKey
      cases hv : verifyIDForPublicKey C master.id pubKey with
      | false =>
        have hne : trimSpace master.id ≠ keyID C pubKey := fun e => by simp [hid.mpr e] at hv
        simp [hlen, hv, hne]
      | true => simp [hlen, hv, hid.mp hv]
    · -- the length is checked here and again by `VerifyChallengeSignature`
      have hfalse : verifyChallengeSignature C pubKey challenge sigB64 ≠ some true := fun h =>
        hlen ((verifyChallengeSignature_eq_true C _ _ _).mp h).1
      simp [hlen, hfalse]

theorem mem_mastersForCluster {masters : Masters} {ttl now : Int} {clusterID : String}
    {m : MasterEntry} (h : m ∈ mastersForCluster masters ttl now clusterID) :
    (∃ k, masters.lookup k = some m) ∧ m.cluster = clusterID ∧ m.fresh ttl now = true := by
  unfold mastersForCluster at h
  split at h
  · simp at h
  · rw [List.mem_filter, List.mem_map] at h
    obtain ⟨⟨⟨k, m'⟩, he, rfl⟩, hm⟩ := h
    rw [Bool.and_eq_true, decide_eq_true_eq] at hm
    exact ⟨⟨k, AList.mem_lookup_iff.mpr he⟩, hm⟩

end Centralisd.Orchestrator
