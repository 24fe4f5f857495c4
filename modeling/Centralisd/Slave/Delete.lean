import Mathlib.Data.Nat.Find
import Centralisd.Slave.Libvirt

/-!
# Centralisd — the guards of a delete

`handleLibvirtVMDelete` is to leave a running domain alone unless it may stop
it, to delete volumes only of a domain that is gone, only its own, and all of
them. It ignores the errors of `IsActive`, `GetXMLDesc` and
`LookupStorageVolByPath`, and trims the paths it is told.

* `delete_guarded_iff` — the guards hold exactly when none of these slips is
  made on the way.
-/

namespace Centralisd.Slave

open Effect

/-! ## The guards -/

/-- The parameters of the delete, and the domain that it names. -/
def DeletesDomain (h : Hypervisor) (cmd : NodeCommand) (params : LibvirtVMDeleteParams)
    (d : Domain) : Prop :=
  unmarshalParams LibvirtVMDeleteParams.unmarshal cmd = some params ∧
    h.domains (trimSpace params.name) = some d

/-- The run deletes the volume at this path. -/
def deletesVolume (h : Hypervisor) (a : LibvirtAnswers) (cmd : NodeCommand) (path : String) :
    Prop :=
  path ∈ h.volumes ∧ path ∉ (stateOf (handleLibvirtVMDelete a cmd h)).volumes

/-- What a delete promises. -/
structure DeleteGuarded (h : Hypervisor) (a : LibvirtAnswers) (cmd : NodeCommand) : Prop where
  /-- a running domain is not touched without `ForceStop` -/
  running : ∀ params d, DeletesDomain h cmd params d → d.running = true →
    params.forceStop = false → ∃ err, handleLibvirtVMDelete a cmd h = .error err h
  /-- a volume is deleted only on request, of a domain that is gone; its
  deletion does not change the domain, so it is gone by then -/
  gone : ∀ path, deletesVolume h a cmd path → ∃ params d, DeletesDomain h cmd params d ∧
    params.removeVolumes = true ∧
    ∀ d', (stateOf (handleLibvirtVMDelete a cmd h)).domains (trimSpace params.name) = some d' →
      d'.defined = false ∧ d'.running = false
  /-- only the domain's own volumes are deleted -/
  own : ∀ path, deletesVolume h a cmd path → ∃ params d, DeletesDomain h cmd params d ∧
    d.UsesFile path
  /-- after a success that reports them removed, none is left -/
  all : ∀ h', handleLibvirtVMDelete a cmd h = .ok (.obj [("removed_volumes", .bool true)]) h' →
    ∃ params d, DeletesDomain h cmd params d ∧ ∀ path, d.UsesFile path → path ∉ h'.volumes

/-! ## The slips -/

/-- The delete gets past `DescribeDomain`. -/
structure DeleteEnters (h : Hypervisor) (a : LibvirtAnswers) (cmd : NodeCommand)
    (params : LibvirtVMDeleteParams) (d : Domain) : Prop where
  domain : DeletesDomain h cmd params d
  getQEMU : a.fails .getQEMU = none
  name : trimSpace params.name ≠ ""
  lookup : a.fails .lookupDomainByName = none
  getName : a.fails .getName = none

/-- What `IsActive` reports, false when it fails. -/
def seenActive (a : LibvirtAnswers) (d : Domain) : Bool := (a.fails .isActive).isNone && d.running

/-- The domain is undefined, and before that stopped if it is seen to run. -/
structure Undefines (a : LibvirtAnswers) (params : LibvirtVMDeleteParams) (d : Domain) : Prop where
  stop : seenActive a d = true → params.forceStop = true ∧ a.fails .destroy = none
  defined : d.defined = true
  undefine : a.fails .undefineFlags = none

/-- The paths that `DescribeDomain` returns. -/
def reported (a : LibvirtAnswers) (d : Domain) : List String :=
  if (a.fails .getXMLDesc).isSome then [] else d.diskPaths

/-- `path` is the `k`-th of the paths, trimmed, and it is looked up, from the
`i`-th call on, without an error. -/
def LookedUp (a : LibvirtAnswers) (i : Nat) (paths : List String) (k : Nat) (path : String) :
    Prop :=
  paths[k]?.map trimSpace = some path ∧ a.fails (.lookupStorageVolByPath (i + k)) = none

/-- The `k`-th path is that of a volume, looked up for the first time. -/
structure Found (a : LibvirtAnswers) (volumes : String → Prop) (i : Nat) (paths : List String)
    (k : Nat) (path : String) : Prop where
  lookedUp : LookedUp a i paths k path
  nonempty : path ≠ ""
  present : volumes path
  first : ∀ j < k, ¬ LookedUp a i paths j path

/-- The volume at the `k`-th path is deleted: it is found, `Delete` works, and
no `Delete` before it fails. -/
structure Deleted (a : LibvirtAnswers) (volumes : String → Prop) (i : Nat) (paths : List String)
    (k : Nat) (path : String) : Prop where
  found : Found a volumes i paths k path
  works : a.fails (.delete (i + k)) = none
  before : ∀ j < k, ∀ path', Found a volumes i paths j path' → a.fails (.delete (i + j)) = none

/-- The volume of `path` is deleted once the domain is undefined. -/
def Removed (h : Hypervisor) (a : LibvirtAnswers) (d : Domain) (path : String) : Prop :=
  ∃ k, Deleted a (· ∈ h.volumes) 0 (reported a d) k path

/-- What goes wrong once the domain is undefined. -/
inductive DeleteSlip (h : Hypervisor) (a : LibvirtAnswers) (params : LibvirtVMDeleteParams)
    (d : Domain) : Prop where
  /-- a running domain is taken for a stopped one, and may not be stopped -/
  | unseen (hrun : d.running = true) (hforce : params.forceStop = false)
  /-- it is taken for a stopped one, and loses a volume -/
  | stripped (hrun : d.running = true) (hactive : a.fails .isActive ≠ none)
      (hremove : params.removeVolumes = true) (path : String) (hpath : Removed h a d path)
  /-- a path means another volume once it is trimmed -/
  | foreign (hremove : params.removeVolumes = true) (path : String) (hpath : Removed h a d path)
      (hown : ¬ d.UsesFile path)
  /-- a disk is not reported or not found, and passed over -/
  | missed (hremove : params.removeVolumes = true) (hdelete : ∀ k path,
      Found a (· ∈ h.volumes) 0 (reported a d) k path → a.fails (.delete k) = none)
      (path : String) (hown : d.UsesFile path) (hpath : path ∈ h.volumes)
      (hlookup : ∀ k, ¬ LookedUp a 0 (reported a d) k path)

/-- The domain is undefined although the delete slips. -/
def DeleteSlips (h : Hypervisor) (a : LibvirtAnswers) (cmd : NodeCommand) : Prop :=
  ∃ params d, DeleteEnters h a cmd params d ∧ Undefines a params d ∧ DeleteSlip h a params d

/-! ## The loop over the paths -/

section
variable {a : LibvirtAnswers} {volumes volumes' : String → Prop} {i k : Nat} {path head : String}
  {paths : List String}

theorem lookedUp_succ :
    LookedUp a i (head :: paths) (k + 1) path ↔ LookedUp a (i + 1) paths k path := by
  unfold LookedUp
  rw [List.getElem?_cons_succ, Nat.add_right_comm, ← Nat.add_assoc]

theorem lookedUp_zero :
    LookedUp a i (head :: paths) 0 path ↔
      trimSpace head = path ∧ a.fails (.lookupStorageVolByPath i) = none := by
  unfold LookedUp
  rw [List.getElem?_cons_zero, Option.map_some, Option.some_inj, Nat.add_zero]

/-- What is found after the first path. Either the first path is found and
its volume is away, or it is not and the volumes are the same. -/
theorem found_succ (hhead : ∀ p, p ≠ "" →
      (volumes' p ↔ volumes p ∧ ¬ LookedUp a i (head :: paths) 0 p)) :
    Found a volumes i (head :: paths) (k + 1) path ↔ Found a volumes' (i + 1) paths k path := by
  constructor
  · intro hf
    refine ⟨lookedUp_succ.mp hf.lookedUp, hf.nonempty, ?_, fun j hj => ?_⟩
    · exact (hhead path hf.nonempty).mpr ⟨hf.present, hf.first 0 (Nat.succ_pos k)⟩
    · exact fun h => hf.first (j + 1) (Nat.succ_lt_succ hj) (lookedUp_succ.mpr h)
  · intro hf
    have hpresent := (hhead path hf.nonempty).mp hf.present
    refine ⟨lookedUp_succ.mpr hf.lookedUp, hf.nonempty, hpresent.1, fun j hj => ?_⟩
    match j with
    | 0 => exact hpresent.2
    | j + 1 => exact fun h => hf.first j (Nat.lt_of_succ_lt_succ hj) (lookedUp_succ.mp h)

theorem deleted_succ (hhead : ∀ p, p ≠ "" →
      (volumes' p ↔ volumes p ∧ ¬ LookedUp a i (head :: paths) 0 p))
    (hzero : ∀ p, Found a volumes i (head :: paths) 0 p → a.fails (.delete i) = none) :
    Deleted a volumes i (head :: paths) (k + 1) path ↔ Deleted a volumes' (i + 1) paths k path := by
  have hshift : ∀ j, i + (j + 1) = i + 1 + j := fun j => by omega
  constructor
  · intro hd
    refine ⟨(found_succ hhead).mp hd.found, hshift k ▸ hd.works, fun j hj path' hf => ?_⟩
    exact hshift j ▸ hd.before (j + 1) (Nat.succ_lt_succ hj) path' ((found_succ hhead).mpr hf)
  · intro hd
    refine ⟨(found_succ hhead).mpr hd.found, hshift k ▸ hd.works, fun j hj path' hf => ?_⟩
    match j with
    | 0 => exact hzero path' hf
    | j + 1 =>
      exact hshift j ▸ hd.before j (Nat.lt_of_succ_lt_succ hj) path' ((found_succ hhead).mp hf)

theorem found_zero :
    Found a volumes i (head :: paths) 0 path ↔
      LookedUp a i (head :: paths) 0 path ∧ path ≠ "" ∧ volumes path :=
  ⟨fun h => ⟨h.lookedUp, h.nonempty, h.present⟩,
    fun h => ⟨h.1, h.2.1, h.2.2, fun _ hj => absurd hj (Nat.not_lt_zero _)⟩⟩

theorem deleted_zero :
    Deleted a volumes i (head :: paths) 0 path ↔
      Found a volumes i (head :: paths) 0 path ∧ a.fails (.delete i) = none :=
  ⟨fun h => ⟨h.found, h.works⟩, fun h => ⟨h.1, h.2, fun _ hj => absurd hj (Nat.not_lt_zero _)⟩⟩

end

/-- The loop at its first path: there is nothing to delete, or `Delete`
fails, or the volume goes. -/
theorem deleteDomainVolumes_cons (a : LibvirtAnswers) (i : Nat) (head : String)
    (paths : List String) (h : Hypervisor) :
    ((∀ path, ¬ Found a (· ∈ h.volumes) i (head :: paths) 0 path) ∧
      deleteDomainVolumes a i (head :: paths) h = deleteDomainVolumes a (i + 1) paths h) ∨
    Found a (· ∈ h.volumes) i (head :: paths) 0 (trimSpace head) ∧
      ((∃ err, a.fails (.delete i) = some err ∧
        deleteDomainVolumes a i (head :: paths) h = .error err h) ∨
      (a.fails (.delete i) = none ∧
        deleteDomainVolumes a i (head :: paths) h = deleteDomainVolumes a (i + 1) paths
          { h with volumes := h.volumes.erase (trimSpace head) })) := by
  rw [deleteDomainVolumes, get_bind]
  by_cases hskip : trimSpace head = "" ∨ (a.fails (.lookupStorageVolByPath i)).isSome ∨
      trimSpace head ∉ h.volumes
  · refine .inl ⟨fun path hfound => ?_, by rw [if_pos hskip]⟩
    obtain ⟨hlookup, hne, hmem⟩ := found_zero.mp hfound
    obtain ⟨rfl, hok⟩ := lookedUp_zero.mp hlookup
    rcases hskip with h | h | h
    · exact hne h
    · rw [hok] at h
      cases h
    · exact h hmem
  · rw [if_neg hskip]
    rw [not_or, not_or, not_not, Option.not_isSome_iff_eq_none] at hskip
    refine .inr ⟨found_zero.mpr ⟨lookedUp_zero.mpr ⟨rfl, hskip.2.1⟩, hskip.1, hskip.2.2⟩, ?_⟩
    cases hdelete : a.fails (.delete i) with
    | some err => exact .inl ⟨err, rfl, bind_error (attempt_error hdelete h)⟩
    | none => exact .inr ⟨rfl, bind_ok (attempt_ok hdelete h)⟩

/-- The loop deletes what is found, up to a `Delete` that fails. -/
structure LoopDeletes (a : LibvirtAnswers) (i : Nat) (paths : List String) (h : Hypervisor)
    (r : EStateM.Result String Hypervisor Unit) : Prop where
  volumes : ∀ path, path ∈ (stateOf r).volumes ↔
    path ∈ h.volumes ∧ ¬ ∃ k, Deleted a (· ∈ h.volumes) i paths k path
  domains : (stateOf r).domains = h.domains
  success : (∃ h', r = .ok () h') ↔
    ∀ k path, Found a (· ∈ h.volumes) i paths k path → a.fails (.delete (i + k)) = none

/-- One path before the loop, with what it leaves of the volumes. -/
theorem LoopDeletes.cons {a : LibvirtAnswers} {i : Nat} {head : String} {paths : List String}
    {h h' : Hypervisor} {r : EStateM.Result String Hypervisor Unit}
    (hloop : LoopDeletes a (i + 1) paths h' r)
    (hhead : ∀ p, p ≠ "" → (p ∈ h'.volumes ↔ p ∈ h.volumes ∧ ¬ LookedUp a i (head :: paths) 0 p))
    (hvolumes : ∀ p, p ∈ h'.volumes ↔
      p ∈ h.volumes ∧ ¬ Deleted a (· ∈ h.volumes) i (head :: paths) 0 p)
    (hdomains : h'.domains = h.domains)
    (hzero : ∀ p, Found a (· ∈ h.volumes) i (head :: paths) 0 p → a.fails (.delete i) = none) :
    LoopDeletes a i (head :: paths) h r := by
  refine ⟨fun path => ?_, hloop.domains.trans hdomains, ?_⟩
  · rw [hloop.volumes, hvolumes, and_assoc, ← not_or]
    refine and_congr_right fun _ => not_congr ⟨?_, ?_⟩
    · rintro (hd | ⟨k, hd⟩)
      · exact ⟨0, hd⟩
      · exact ⟨k + 1, (deleted_succ hhead hzero).mpr hd⟩
    · rintro ⟨k, hd⟩
      match k with
      | 0 => exact .inl hd
      | k + 1 => exact .inr ⟨k, (deleted_succ hhead hzero).mp hd⟩
  · have hshift : ∀ j, i + (j + 1) = i + 1 + j := fun j => by omega
    rw [hloop.success]
    constructor
    · intro hall k path hf
      match k with
      | 0 => exact hzero path hf
      | k + 1 => exact hshift k ▸ hall k path ((found_succ hhead).mp hf)
    · intro hall k path hf
      exact hshift k ▸ hall (k + 1) path ((found_succ hhead).mpr hf)

theorem deleteDomainVolumes_loop (a : LibvirtAnswers) (i : Nat) (paths : List String)
    (h : Hypervisor) : LoopDeletes a i paths h (deleteDomainVolumes a i paths h) := by
  induction paths generalizing i h with
  | nil =>
    have hnone : ∀ k path, ¬ Found a (· ∈ h.volumes) i [] k path := fun k path hf => by
      simpa using hf.lookedUp.1
    refine ⟨fun path => ?_, rfl, iff_of_true ⟨h, rfl⟩ fun k path hf => absurd hf (hnone k path)⟩
    exact ⟨fun hmem => ⟨hmem, fun ⟨k, hd⟩ => hnone k path hd.found⟩, And.left⟩
  | cons head paths ih =>
    rcases deleteDomainVolumes_cons a i head paths h with
      ⟨hnone, hrun⟩ | ⟨hfound, ⟨err, hfail, hrun⟩ | ⟨hworks, hrun⟩⟩
    · -- passed over
      rw [hrun]
      refine (ih (i + 1) h).cons (fun p hp => ?_) (fun p => ?_) rfl fun p hf => absurd hf (hnone p)
      · refine ⟨fun hmem => ⟨hmem, fun hl => ?_⟩, And.left⟩
        exact hnone p (found_zero.mpr ⟨hl, hp, hmem⟩)
      · exact ⟨fun hmem => ⟨hmem, fun hd => hnone p hd.found⟩, And.left⟩
    · -- the first `Delete` fails and ends the loop
      rw [hrun]
      have hzero : a.fails (.delete (i + 0)) ≠ none := by simp [hfail]
      refine ⟨fun path => ⟨fun hmem => ⟨hmem, ?_⟩, And.left⟩, rfl, iff_of_false ?_ ?_⟩
      · rintro ⟨k, hd⟩
        match k with
        | 0 => exact hzero hd.works
        | k + 1 => exact hzero (hd.before 0 (Nat.succ_pos k) _ hfound)
      · rintro ⟨h', hok⟩
        cases hok
      · exact fun hall => hzero (hall 0 _ hfound)
    · -- the volume goes
      rw [hrun]
      have herase : ∀ p, p ∈ h.volumes.erase (trimSpace head) ↔ p ∈ h.volumes ∧
          ¬ LookedUp a i (head :: paths) 0 p := by
        intro p
        rw [AList.mem_erase, and_comm, lookedUp_zero]
        refine and_congr_right fun _ => not_congr ?_
        exact ⟨fun h => ⟨h.symm, (lookedUp_zero.mp hfound.lookedUp).2⟩, fun h => h.1.symm⟩
      refine (ih (i + 1) _).cons (fun p _ => herase p) (fun p => (herase p).trans ?_) rfl
        fun _ _ => hworks
      refine and_congr_right fun hmem => not_congr ?_
      rw [deleted_zero, found_zero]
      refine ⟨fun hl => ⟨⟨hl, ?_, hmem⟩, hworks⟩, fun hd => hd.1.1⟩
      exact (lookedUp_zero.mp hl).1 ▸ hfound.nonempty

/-! ## The run -/

/-- `handleLibvirtVMDelete` after `DescribeDomain`. -/
def finishDelete (a : LibvirtAnswers) (params : LibvirtVMDeleteParams) (d : Domain) :
    Libvirt Json := do
  doIf (seenActive a d) do
    refuseIf (params.forceStop = false) "domain is running; force stop first"
    destroy a (trimSpace params.name)
  undefineFlags a (trimSpace params.name)
  doIf params.removeVolumes (deleteDomainVolumes a 0 (reported a d))
  pure (.obj [("removed_volumes", .bool params.removeVolumes)])

/-- What `UndefineFlags` leaves of the domain: it runs on if it was not seen
to run. -/
def undefined (a : LibvirtAnswers) (d : Domain) : Option Domain :=
  if d.running = true ∧ seenActive a d = false then
    some { d with defined := false, autostart := false }
  else none

section
variable {h : Hypervisor} {a : LibvirtAnswers} {cmd : NodeCommand}
  {params : LibvirtVMDeleteParams} {d : Domain}

theorem handleLibvirtVMDelete_enters (hent : DeleteEnters h a cmd params d) :
    handleLibvirtVMDelete a cmd h = finishDelete a params d h := by
  have hlookup : lookupDomainByName a params.name h = .ok (trimSpace params.name) h := by
    have hfound : ¬ h.domains (trimSpace params.name) = none := by simp [hent.domain.2]
    unfold lookupDomainByName
    rw [bind_ok (refuseIf_neg hent.name _ h), bind_ok (attempt_ok hent.lookup h), get_bind,
      bind_ok (refuseIf_neg hfound _ h)]
    rfl
  have hdescribe : describeDomain a (trimSpace params.name) h = .ok (reported a d) h := by
    unfold describeDomain
    rw [bind_ok (attempt_ok hent.getName h), get_bind, hent.domain.2]
    rfl
  have hactive : isActive a (trimSpace params.name) h = seenActive a d := by
    unfold isActive
    rw [hent.domain.2]
    rfl
  unfold handleLibvirtVMDelete
  rw [hent.domain.1]
  show (attempt a .getQEMU >>= _) h = _
  rw [bind_ok (attempt_ok hent.getQEMU h), bind_ok hlookup, bind_ok hdescribe, get_bind, hactive]
  rfl

theorem handleLibvirtVMDelete_refused (hent : ∀ params d, ¬ DeleteEnters h a cmd params d) :
    ∃ err, handleLibvirtVMDelete a cmd h = .error err h := by
  unfold handleLibvirtVMDelete
  cases hdec : unmarshalParams LibvirtVMDeleteParams.unmarshal cmd with
  | none => exact ⟨_, rfl⟩
  | some params =>
  dsimp only
  cases hqemu : a.fails .getQEMU with
  | some err => exact ⟨err, bind_error (attempt_error hqemu h)⟩
  | none =>
  rw [bind_ok (attempt_ok hqemu h)]
  unfold lookupDomainByName
  by_cases hname : trimSpace params.name = ""
  · exact ⟨_, bind_error (bind_error (refuseIf_pos hname _ h))⟩
  cases hlookup : a.fails .lookupDomainByName with
  | some err =>
    refine ⟨err, bind_error ?_⟩
    rw [bind_ok (refuseIf_neg hname _ h)]
    exact bind_error (attempt_error hlookup h)
  | none =>
  cases hd : h.domains (trimSpace params.name) with
  | none =>
    refine ⟨"Domain not found", bind_error ?_⟩
    rw [bind_ok (refuseIf_neg hname _ h), bind_ok (attempt_ok hlookup h), get_bind]
    exact bind_error (refuseIf_pos hd _ h)
  | some d =>
  have hfound : ¬ h.domains (trimSpace params.name) = none := by simp [hd]
  have hname' : (refuseIf (trimSpace params.name = "") "domain name is required" >>= fun _ =>
      attempt a .lookupDomainByName >>= fun _ => get >>= fun h : Hypervisor =>
        refuseIf (h.domains (trimSpace params.name) = none) "Domain not found" >>= fun _ =>
          pure (trimSpace params.name)) h = .ok (trimSpace params.name) h := by
    rw [bind_ok (refuseIf_neg hname _ h), bind_ok (attempt_ok hlookup h), get_bind,
      bind_ok (refuseIf_neg hfound _ h)]
    rfl
  rw [bind_ok hname']
  cases hgetName : a.fails .getName with
  | some err => exact ⟨err, bind_error (bind_error (attempt_error hgetName h))⟩
  | none => exact absurd ⟨⟨hdec, hd⟩, hqemu, hname, hlookup, hgetName⟩ (hent params d)

/-- The domain is stopped, if need be, and undefined. -/
theorem finishDelete_undefines (hd : h.domains (trimSpace params.name) = some d)
    (hun : Undefines a params d) :
    finishDelete a params d h =
      (doIf params.removeVolumes (deleteDomainVolumes a 0 (reported a d)) >>= fun _ =>
        pure (.obj [("removed_volumes", .bool params.removeVolumes)]))
        (h.setDomain (trimSpace params.name) (undefined a d)) := by
  unfold finishDelete
  cases hseen : seenActive a d with
  | false =>
    rw [bind_ok (doIf_false _ h)]
    refine bind_ok (domainCall_ok hun.undefine hd ?_)
    rw [if_pos hun.defined, undefined, hseen]
    simp only [and_true]
  | true =>
    obtain ⟨hforce, hdestroy⟩ := hun.stop hseen
    have hrunning : d.running = true := (Bool.and_eq_true_iff.mp hseen).2
    have hstopped : destroy a (trimSpace params.name) h =
        .ok () (h.setDomain (trimSpace params.name) (some { d with running := false })) := by
      refine domainCall_ok hdestroy hd ?_
      rw [if_pos hrunning, Domain.stop, if_pos hun.defined]
    have hstop : (refuseIf (params.forceStop = false) "domain is running; force stop first" >>=
        fun _ => destroy a (trimSpace params.name)) h =
        .ok () (h.setDomain (trimSpace params.name) (some { d with running := false })) := by
      rw [bind_ok (refuseIf_neg (by rw [hforce]; exact Bool.true_eq_false.mp) _ h)]
      exact hstopped
    rw [doIf_true, bind_ok hstop]
    refine (bind_ok (domainCall_ok hun.undefine (setDomain_self ..) (if_pos hun.defined))).trans ?_
    rw [undefined, hseen]
    simp only [Bool.false_eq_true, if_false, Hypervisor.setDomain, Function.update_idem,
      Bool.true_eq_false, and_false]

/-- A domain that is not undefined keeps its volumes, and stays as it is if
it runs and may not be stopped. -/
theorem finishDelete_kept (hd : h.domains (trimSpace params.name) = some d)
    (hun : ¬ Undefines a params d) :
    ∃ err h', finishDelete a params d h = .error err h' ∧ h'.volumes = h.volumes ∧
      (params.forceStop = false → h' = h) := by
  have hundefine : ∀ h' : Hypervisor, (a.fails .undefineFlags ≠ none ∨
      ∀ d', h'.domains (trimSpace params.name) = some d' → d'.defined = false) →
      ∃ err, undefineFlags a (trimSpace params.name) h' = .error err h' := by
    intro h' hno
    refine domainCall_refused (hno.imp id fun hdef d' hd' => ⟨_, if_neg ?_⟩)
    rw [hdef d' hd']
    exact Bool.false_ne_true
  unfold finishDelete
  cases hseen : seenActive a d with
  | false =>
    have hno : a.fails .undefineFlags ≠ none ∨
        ∀ d', h.domains (trimSpace params.name) = some d' → d'.defined = false := by
      by_cases hfail : a.fails .undefineFlags = none
      · refine .inr fun d' hd' => ?_
        cases hd.symm.trans hd'
        rw [← Bool.not_eq_true]
        exact fun hdef => hun ⟨fun h => absurd (hseen.symm.trans h) Bool.false_ne_true, hdef, hfail⟩
      · exact .inl hfail
    obtain ⟨err, herr⟩ := hundefine h hno
    refine ⟨err, h, ?_, rfl, fun _ => rfl⟩
    rw [bind_ok (doIf_false _ h)]
    exact bind_error herr
  | true =>
    rw [doIf_true]
    have hrunning : d.running = true := (Bool.and_eq_true_iff.mp hseen).2
    by_cases hforce : params.forceStop = false
    · exact ⟨_, h, bind_error (bind_error (refuseIf_pos hforce _ h)), rfl, fun _ => rfl⟩
    cases hdestroy : a.fails .destroy with
    | some err =>
      have hrefused : destroy a (trimSpace params.name) h = .error err h :=
        bind_error (attempt_error hdestroy h)
      refine ⟨err, h, bind_error ?_, rfl, fun _ => rfl⟩
      rw [bind_ok (refuseIf_neg hforce _ h)]
      exact hrefused
    | none =>
      have hstop : (refuseIf (params.forceStop = false) "domain is running; force stop first" >>=
          fun _ => destroy a (trimSpace params.name)) h =
          .ok () (h.setDomain (trimSpace params.name) d.stop) := by
        rw [bind_ok (refuseIf_neg hforce _ h)]
        exact domainCall_ok hdestroy hd (if_pos hrunning)
      have hno : a.fails .undefineFlags ≠ none ∨ ∀ d', (h.setDomain (trimSpace params.name)
          d.stop).domains (trimSpace params.name) = some d' → d'.defined = false := by
        by_cases hfail : a.fails .undefineFlags = none
        · refine .inr fun d' hd' => ?_
          have hdef : ¬ d.defined = true := fun hdef =>
            hun ⟨fun _ => ⟨Bool.not_eq_false _ ▸ hforce, hdestroy⟩, hdef, hfail⟩
          rw [setDomain_self, Domain.stop, if_neg hdef] at hd'
          cases hd'
        · exact .inl hfail
      obtain ⟨err, herr⟩ := hundefine _ hno
      refine ⟨err, h.setDomain (trimSpace params.name) d.stop, ?_, setDomain_volumes ..,
        fun h => absurd h hforce⟩
      rw [bind_ok hstop]
      exact bind_error herr

/-- What a delete that undefines the domain comes to. -/
structure DeleteRuns (h : Hypervisor) (a : LibvirtAnswers) (params : LibvirtVMDeleteParams)
    (d : Domain) (r : EStateM.Result String Hypervisor Json) : Prop where
  domain : (stateOf r).domains (trimSpace params.name) = undefined a d
  volumes : ∀ path, path ∈ (stateOf r).volumes ↔
    path ∈ h.volumes ∧ ¬ (params.removeVolumes = true ∧ Removed h a d path)
  success : (∃ h', r = .ok (.obj [("removed_volumes", .bool true)]) h') ↔
    params.removeVolumes = true ∧ ∀ k path,
      Found a (· ∈ h.volumes) 0 (reported a d) k path → a.fails (.delete k) = none

theorem handleLibvirtVMDelete_undefines (hent : DeleteEnters h a cmd params d)
    (hun : Undefines a params d) : DeleteRuns h a params d (handleLibvirtVMDelete a cmd h) := by
  rw [handleLibvirtVMDelete_enters hent, finishDelete_undefines hent.domain.2 hun]
  have hself := setDomain_self h (trimSpace params.name) (undefined a d)
  have hvolumes := setDomain_volumes h (trimSpace params.name) (undefined a d)
  generalize h.setDomain (trimSpace params.name) (undefined a d) = h₁ at *
  cases hremove : params.removeVolumes with
  | false =>
    rw [bind_ok (doIf_false _ h₁)]
    refine ⟨hself, fun path => ?_, iff_of_false ?_ ?_⟩
    · show path ∈ h₁.volumes ↔ _
      simp [hvolumes, hremove]
    · rintro ⟨h', hok⟩
      cases hok
    · simp [hremove]
  | true =>
    obtain ⟨hkept, hdomains, hok⟩ := deleteDomainVolumes_loop a 0 (reported a d) h₁
    rw [hvolumes] at hkept hok
    simp only [Nat.zero_add] at hok
    rw [doIf_true]
    cases hrun : deleteDomainVolumes a 0 (reported a d) h₁ with
    | ok _ h₂ =>
      rw [hrun] at hkept hdomains hok
      rw [bind_ok hrun]
      refine ⟨(congrFun hdomains _).trans hself, fun path => ?_, iff_of_true ⟨h₂, rfl⟩ ?_⟩
      · rw [hremove, eq_self, true_and]
        exact hkept path
      · exact ⟨hremove, hok.mp ⟨h₂, rfl⟩⟩
    | error err h₂ =>
      rw [hrun] at hkept hdomains hok
      rw [bind_error hrun]
      refine ⟨(congrFun hdomains _).trans hself, fun path => ?_, iff_of_false ?_ ?_⟩
      · rw [hremove, eq_self, true_and]
        exact hkept path
      · rintro ⟨h', h⟩
        cases h
      · intro hall
        obtain ⟨h', h⟩ := hok.mpr hall.2
        cases h

/-- A delete that does not undefine the domain fails and keeps the volumes,
and the domain too if it may not be stopped. -/
theorem handleLibvirtVMDelete_kept
    (hno : ∀ params d, DeleteEnters h a cmd params d → ¬ Undefines a params d) :
    ∃ err h', handleLibvirtVMDelete a cmd h = .error err h' ∧ h'.volumes = h.volumes ∧
      ∀ params d, DeletesDomain h cmd params d → params.forceStop = false → h' = h := by
  by_cases hent : ∃ params d, DeleteEnters h a cmd params d
  · obtain ⟨params, d, hent⟩ := hent
    obtain ⟨err, h', herr, hvolumes, hsame⟩ :=
      finishDelete_kept hent.domain.2 (hno params d hent)
    rw [handleLibvirtVMDelete_enters hent]
    refine ⟨err, h', herr, hvolumes, fun params' d' hdel hforce => hsame ?_⟩
    cases hdel.1.symm.trans hent.domain.1
    exact hforce
  · have hnone : ∀ params d, ¬ DeleteEnters h a cmd params d :=
      fun params d h => hent ⟨params, d, h⟩
    obtain ⟨err, herr⟩ := handleLibvirtVMDelete_refused hnone
    exact ⟨err, h, herr, rfl, fun _ _ _ _ => rfl⟩

/-- A volume that is deleted was found by the loop, after its domain was
undefined. -/
theorem deletesVolume_removed {path : String} (hdel : deletesVolume h a cmd path) :
    ∃ params d, DeleteEnters h a cmd params d ∧ Undefines a params d ∧
      params.removeVolumes = true ∧ Removed h a d path := by
  by_cases hun : ∃ params d, DeleteEnters h a cmd params d ∧ Undefines a params d
  · obtain ⟨params, d, hent, hun⟩ := hun
    refine ⟨params, d, hent, hun, ?_⟩
    by_contra hno
    exact hdel.2 (((handleLibvirtVMDelete_undefines hent hun).volumes path).mpr ⟨hdel.1, hno⟩)
  · obtain ⟨err, h', herr, hvolumes, -⟩ := handleLibvirtVMDelete_kept
      fun params d hent hundef => hun ⟨params, d, hent, hundef⟩
    have hout := hdel.2
    rw [herr] at hout
    exact absurd (hvolumes ▸ hdel.1) hout

theorem DeletesDomain.unique {params' : LibvirtVMDeleteParams} {d' : Domain}
    (hdel : DeletesDomain h cmd params d) (hdel' : DeletesDomain h cmd params' d') :
    params' = params ∧ d' = d := by
  cases hdel'.1.symm.trans hdel.1
  cases hdel'.2.symm.trans hdel.2
  exact ⟨rfl, rfl⟩

/-- A path that is looked up, of a volume, is found at its first lookup. -/
theorem exists_found (volumes : String → Prop) {paths : List String} {k : Nat} {path : String}
    (hlookup : LookedUp a 0 paths k path) (hne : path ≠ "") (hpresent : volumes path) :
    ∃ k, Found a volumes 0 paths k path := by
  classical
  have hex : ∃ k, LookedUp a 0 paths k path := ⟨k, hlookup⟩
  exact ⟨Nat.find hex, Nat.find_spec hex, hne, hpresent, fun j hj => Nat.find_min hex hj⟩

end

/-! ## The guards and the slips -/

/-- A delete that slips breaks a guard. -/
theorem not_slip_of_guarded {h : Hypervisor} {a : LibvirtAnswers} {cmd : NodeCommand}
    {params : LibvirtVMDeleteParams} {d : Domain} (hguard : DeleteGuarded h a cmd)
    (hent : DeleteEnters h a cmd params d) (hun : Undefines a params d) :
    ¬ DeleteSlip h a params d := by
  have hruns := handleLibvirtVMDelete_undefines hent hun
  have hdeletes : ∀ path, params.removeVolumes = true → Removed h a d path →
      deletesVolume h a cmd path := by
    intro path hremove hpath
    obtain ⟨k, hdel⟩ := hpath
    refine ⟨hdel.found.present, fun hmem => ?_⟩
    exact ((hruns.volumes path).mp hmem).2 ⟨hremove, k, hdel⟩
  intro hslip
  cases hslip with
  | unseen hrun hforce =>
    obtain ⟨err, herr⟩ := hguard.running params d hent.domain hrun hforce
    have hdomain := hruns.domain
    rw [herr] at hdomain
    have hleft : undefined a d = some d := hdomain.symm.trans hent.domain.2
    unfold undefined at hleft
    split at hleft
    · have hdefined := congrArg Domain.defined (Option.some.inj hleft)
      exact absurd (hdefined.trans hun.defined) Bool.false_ne_true
    · cases hleft
  | stripped hrun hactive hremove path hpath =>
    obtain ⟨params', d', hdel, -, hgone⟩ := hguard.gone path (hdeletes path hremove hpath)
    obtain ⟨rfl, rfl⟩ := hent.domain.unique hdel
    have hseen : seenActive a d' = false := by
      unfold seenActive
      rw [Option.isNone_eq_false_iff.mpr (Option.isSome_iff_ne_none.mpr hactive)]
      rfl
    have hleft := hruns.domain
    unfold undefined at hleft
    rw [if_pos ⟨hrun, hseen⟩] at hleft
    exact absurd ((hgone _ hleft).2.symm.trans hrun) Bool.false_ne_true
  | foreign hremove path hpath hown =>
    obtain ⟨params', d', hdel, huses⟩ := hguard.own path (hdeletes path hremove hpath)
    obtain ⟨rfl, rfl⟩ := hent.domain.unique hdel
    exact hown huses
  | missed hremove hdelete path hown hpath hlookup =>
    obtain ⟨h', hok⟩ := hruns.success.mpr ⟨hremove, hdelete⟩
    obtain ⟨params', d', hdel, hall⟩ := hguard.all h' hok
    obtain ⟨rfl, rfl⟩ := hent.domain.unique hdel
    have hkept := (hruns.volumes path).mpr ⟨hpath, fun hrem => ?_⟩
    · rw [hok] at hkept
      exact hall path hown hkept
    · obtain ⟨k, hk⟩ := hrem.2
      exact hlookup k hk.found.lookedUp

/-- A delete that makes none of the slips keeps every guard. -/
theorem guarded_of_not_slips {h : Hypervisor} {a : LibvirtAnswers} {cmd : NodeCommand}
    (hslips : ¬ DeleteSlips h a cmd) : DeleteGuarded h a cmd := by
  have hslip : ∀ {params d}, DeleteEnters h a cmd params d → Undefines a params d →
      ¬ DeleteSlip h a params d := fun hent hun hslip => hslips ⟨_, _, hent, hun, hslip⟩
  refine ⟨?_, ?_, ?_, ?_⟩
  · -- a running domain
    intro params d hdel hrun hforce
    have hno : ∀ params d, DeleteEnters h a cmd params d → ¬ Undefines a params d := by
      intro params' d' hent hun
      obtain ⟨rfl, rfl⟩ := hent.domain.unique hdel
      exact hslip hent hun (.unseen hrun hforce)
    obtain ⟨err, h', herr, -, hsame⟩ := handleLibvirtVMDelete_kept hno
    exact ⟨err, hsame params d hdel hforce ▸ herr⟩
  · -- a volume goes with its domain
    intro path hdel
    obtain ⟨params, d, hent, hun, hremove, hpath⟩ := deletesVolume_removed hdel
    refine ⟨params, d, hent.domain, hremove, fun d' hd' => ?_⟩
    rw [(handleLibvirtVMDelete_undefines hent hun).domain] at hd'
    unfold undefined at hd'
    split at hd'
    · -- it runs on: `IsActive` has failed
      next hon =>
      have hactive : a.fails .isActive ≠ none := by
        intro hok
        have hseen := hon.2
        unfold seenActive at hseen
        rw [hok, hon.1] at hseen
        exact absurd hseen.symm Bool.false_ne_true
      exact absurd (.stripped hon.1 hactive hremove path hpath) (hslip hent hun)
    · cases hd'
  · -- it is the domain's own
    intro path hdel
    obtain ⟨params, d, hent, hun, hremove, hpath⟩ := deletesVolume_removed hdel
    refine ⟨params, d, hent.domain, ?_⟩
    by_contra hown
    exact hslip hent hun (.foreign hremove path hpath hown)
  · -- all of them go
    intro h' hok
    obtain ⟨params, d, hent, hun⟩ : ∃ params d, DeleteEnters h a cmd params d ∧
        Undefines a params d := by
      by_contra hno
      obtain ⟨err, h'', herr, -⟩ := handleLibvirtVMDelete_kept
        fun params d hent hundef => hno ⟨params, d, hent, hundef⟩
      rw [herr] at hok
      cases hok
    have hruns := handleLibvirtVMDelete_undefines hent hun
    obtain ⟨hremove, hdelete⟩ := hruns.success.mp ⟨h', hok⟩
    refine ⟨params, d, hent.domain, fun path huses hmem => hslip hent hun ?_⟩
    have hkept := hruns.volumes path
    rw [hok] at hkept
    obtain ⟨hpath, hno⟩ := hkept.mp hmem
    refine .missed hremove hdelete path huses hpath fun k hlookup => hno ⟨hremove, ?_⟩
    obtain ⟨disk, -, -, -, -, hne⟩ := huses
    obtain ⟨k', hfound⟩ := exists_found (· ∈ h.volumes) hlookup hne hpath
    refine ⟨k', hfound, ?_, fun j _ path' hf => ?_⟩
    · rw [Nat.zero_add]
      exact hdelete k' path hfound
    · rw [Nat.zero_add]
      exact hdelete j path' hf

/-- **A delete keeps its guards exactly when it makes none of its slips.** For
every hypervisor, command and pattern of failures: the running domain is not
touched without `ForceStop`, volumes go only with their domain, only its own
and, on success, all of them, exactly when it is not the case that the domain
is undefined although

1. it runs and may not be stopped (`IsActive` has failed), or
2. it runs unseen and loses a volume, or
3. a trimmed path names a volume that is not the domain's, or
4. every `Delete` works and one of its volumes is never looked up with
   success. -/
theorem delete_guarded_iff (h : Hypervisor) (a : LibvirtAnswers) (cmd : NodeCommand) :
    DeleteGuarded h a cmd ↔ ¬ DeleteSlips h a cmd := by
  constructor
  · rintro hguard ⟨params, d, hent, hun, hslip⟩
    exact not_slip_of_guarded hguard hent hun hslip
  · exact guarded_of_not_slips

/-- A host with a running machine, defined, whose disk is `/images/vm.qcow2`. -/
def runningHost : Hypervisor where
  pools := ["default"]
  volumes := AList.singleton "/images/vm.qcow2" ⟨"default", "vm.qcow2"⟩
  domains name := if name = "vm" then
    some { disks := [vmDisk "/images/vm.qcow2"], defined := true, running := true } else none

/-- libvirt cannot tell whether the machine runs. -/
def unseeing : LibvirtAnswers where
  fails c := if c = .isActive then some "internal error" else none
  path := "/images/new.qcow2"

def deleteVM : NodeCommand where
  action := "libvirt.domain.delete"
  params := some (LibvirtVMDeleteParams.marshal { name := "vm", removeVolumes := true })

/-- Without `ForceStop`, the disk of a running machine is deleted. -/
theorem delete_strips_running :
    deletesVolume runningHost unseeing deleteVM "/images/vm.qcow2" ∧
      ¬ DeleteGuarded runningHost unseeing deleteVM := by
  have hdel : DeletesDomain runningHost deleteVM { name := "vm", removeVolumes := true }
      { disks := [vmDisk "/images/vm.qcow2"], defined := true, running := true } := by
    refine ⟨?_, by decide⟩
    show (some _).bind _ = _
    rw [Option.bind_some, LibvirtVMDeleteParams.unmarshal_marshal]
  have hent : DeleteEnters runningHost unseeing deleteVM _ _ :=
    ⟨hdel, rfl, by decide, rfl, rfl⟩
  have hun : Undefines unseeing { name := "vm", removeVolumes := true }
      { disks := [vmDisk "/images/vm.qcow2"], defined := true, running := true } :=
    ⟨by decide, rfl, rfl⟩
  have hmem : "/images/vm.qcow2" ∈ runningHost.volumes := List.mem_singleton_self _
  refine ⟨⟨hmem, fun hkept => ?_⟩, fun hguard => ?_⟩
  · refine (((handleLibvirtVMDelete_undefines hent hun).volumes _).mp hkept).2 ⟨rfl, 0, ?_, rfl, ?_⟩
    · exact ⟨⟨by decide, rfl⟩, by decide, hmem, fun j hj => absurd hj (Nat.not_lt_zero j)⟩
    · exact fun j hj => absurd hj (Nat.not_lt_zero j)
  · exact not_slip_of_guarded hguard hent hun (.unseen rfl rfl)

end Centralisd.Slave
