import Centralisd.Lib.Shared
import Centralisd.Web.Fetch

/-!
# Centralisd — concurrent requests for the virtualization page

The virtualization case of the `/clusters/` handler in
`src/orchestrator/web/main.go`. The handler is a closure inside `ServeWeb`,
and its assignments `data.LibvirtStoragePools, err = …` and
`data.LibvirtNetworks, err = …` are to the `err` that `ServeWeb` declares for
`parseTemplates`: one variable for all requests, which `net/http` serves
concurrently. `data` is the handler's own. Each assignment, each test
`err != nil` and each `err.Error()` is one step; the log lines are left out.

* `requests_isolated` — while no request overwrites an `err` that another
  one still uses, every request renders what it renders alone;
* `requests_interfere` — otherwise it can render the error of another
  request, or evaluate `err.Error()` on nil.
-/

namespace Centralisd.Web

open Machine

/-- A request for the page, with what its own commands return. -/
structure Visit where
  send : Sender
  clusterID : String
  nodeID : String

def Visit.domains (v : Visit) : List VMDomain × String :=
  fetchNodeVMDomains (some v.send) v.clusterID v.nodeID

def Visit.pools (v : Visit) : List LibvirtStoragePool × Option String :=
  fetchNodeStoragePools (some v.send) v.clusterID v.nodeID

def Visit.networks (v : Visit) : List LibvirtNetwork × Option String :=
  fetchNodeNetworks (some v.send) v.clusterID v.nodeID

/-- What the virtualization case fills of `viewData`. -/
structure ViewData where
  nodeVMDomains : List VMDomain := []
  libvirtError : String := ""
  libvirtStoragePools : List LibvirtStoragePool := []
  libvirtNetworks : List LibvirtNetwork := []
  deriving DecidableEq

/-- Where the handler is: the line it executes next. -/
inductive Line where
  | fetchDomains
  | fetchPools
  | testPools
  | readPools
  | fetchNetworks
  | testNetworks
  | readNetworks
  | rendered
  | panicked
  deriving DecidableEq

structure Handler where
  line : Line := .fetchDomains
  data : ViewData := {}
  deriving DecidableEq

/-- The test `err != nil` and, if it holds, the test of `data.LibvirtError`,
which decide whether `err.Error()` is read. -/
def testErr (err : Option String) (read skip : Line) (h : Handler) : Handler :=
  { h with line := if err ≠ none ∧ h.data.libvirtError = "" then read else skip }

/-- `data.LibvirtError = err.Error()`, which panics on nil. -/
def readErr (err : Option String) (next : Line) (h : Handler) : Handler :=
  match err with
  | none => { h with line := .panicked }
  | some text => ⟨next, { h.data with libvirtError := text }⟩

def handle (v : Visit) (h : Handler) (err : Option String) : Option (Handler × Option String) :=
  match h.line with
  | .fetchDomains =>
    some (⟨.fetchPools,
      { h.data with nodeVMDomains := v.domains.1, libvirtError := v.domains.2 }⟩, err)
  | .fetchPools =>
    some (⟨.testPools, { h.data with libvirtStoragePools := v.pools.1 }⟩, v.pools.2)
  | .testPools => some (testErr err .readPools .fetchNetworks h, err)
  | .readPools => some (readErr err .fetchNetworks h, err)
  | .fetchNetworks =>
    some (⟨.testNetworks, { h.data with libvirtNetworks := v.networks.1 }⟩, v.networks.2)
  | .testNetworks => some (testErr err .readNetworks .rendered h, err)
  | .readNetworks => some (readErr err .rendered h, err)
  | .rendered => none
  | .panicked => none

/-- The handler as a program over the shared `err`. -/
def page : Shared.Program Visit Handler (Option String) where
  entry := {}
  next := handle

/-- The server: `err` is nil once `ServeWeb` has parsed its templates. -/
abbrev PageState := Shared.State Visit Handler (Option String)

def serve : PageState → Shared.Action Visit → Option PageState :=
  Shared.step page

def served : PageState :=
  .init none

/-! ## One request alone -/

/-- `data.LibvirtError` after one of the two `if` statements. -/
def orErr (text : String) (err : Option String) : String :=
  if text = "" then err.getD "" else text

/-- The page of a request that is served alone. -/
def Visit.view (v : Visit) : ViewData where
  nodeVMDomains := v.domains.1
  libvirtError := orErr (orErr v.domains.2 v.pools.2) v.networks.2
  libvirtStoragePools := v.pools.1
  libvirtNetworks := v.networks.1

/-- The assignment has been made; the `if` statement ends at `skip` with the
error of its own assignment, if there is no other. -/
theorem alone_if (v : Visit) {a : Handler × Option String} {data : ViewData}
    (err : Option String) (test read skip : Line)
    (htest : ∀ h : Handler, h.line = test →
      handle v h err = some (testErr err read skip h, err))
    (hread : ∀ h : Handler, h.line = read → handle v h err = some (readErr err skip h, err))
    (h : page.Alone v a (⟨test, data⟩, err)) :
    page.Alone v a (⟨skip, { data with libvirtError := orErr data.libvirtError err }⟩, err) := by
  have h₁ := h.tail (htest ⟨test, data⟩ rfl)
  by_cases hc : err ≠ none ∧ data.libvirtError = ""
  · obtain ⟨text, rfl⟩ := Option.ne_none_iff_exists'.mp hc.1
    rw [testErr, if_pos hc] at h₁
    have h₂ := h₁.tail (hread ⟨read, data⟩ rfl)
    have hor : orErr data.libvirtError (some text) = text := if_pos hc.2
    rw [hor]
    exact h₂
  · rw [testErr, if_neg hc] at h₁
    have hor : orErr data.libvirtError err = data.libvirtError := by
      unfold orErr
      split
      · rename_i hempty
        have hnone : err = none := by
          by_contra hne
          exact hc ⟨hne, hempty⟩
        rw [hnone, hempty]
        rfl
      · rfl
    rw [hor]
    exact h₁

/-- A request that is served alone renders its `view`, whatever `err` held
before. -/
theorem view_alone (v : Visit) (err : Option String) :
    page.Alone v (page.entry, err) (⟨.rendered, v.view⟩, v.networks.2) := by
  have h₁ : page.Alone v (page.entry, err) (_, _) := .tail (.tail .refl rfl) rfl
  have h₂ := alone_if v v.pools.2 .testPools .readPools .fetchNetworks
    (fun h hl => by rw [handle, hl]) (fun h hl => by rw [handle, hl]) h₁
  have h₃ := h₂.tail (c := (_, _)) rfl
  exact alone_if v v.networks.2 .testNetworks .readNetworks .rendered
    (fun h hl => by rw [handle, hl]) (fun h hl => by rw [handle, hl]) h₃

/-! ## Requests that share `err` -/

/-- The page depends on what `err` holds: between an assignment of the
handler and its last use of it, unless the page has an error already. -/
def Handler.UsesErr (h : Handler) : Prop :=
  match h.line with
  | .testPools => h.data.libvirtError = ""
  | .readPools => True
  | .testNetworks => h.data.libvirtError = ""
  | .readNetworks => True
  | _ => False

theorem testErr_of_shown {h : Handler} (hshown : h.data.libvirtError ≠ "")
    (err : Option String) (read skip : Line) :
    testErr err read skip h = { h with line := skip } := by
  rw [testErr, if_neg fun hc => hshown hc.2]

/-- Where the handler does not use `err`, its step does not depend on it. -/
theorem page_uses : page.Uses Handler.UsesErr := by
  intro v h err err' h' e hfree hnext
  obtain ⟨line, data⟩ := h
  have hnext' : handle v ⟨line, data⟩ err = some (h', e) := hnext
  show ∃ e', handle v ⟨line, data⟩ err' = some (h', e') ∧ _
  unfold handle at hnext' ⊢
  dsimp only at hnext' ⊢
  cases line with
  | fetchDomains =>
    simp only [Option.some.injEq, Prod.mk.injEq] at hnext'
    obtain ⟨rfl, rfl⟩ := hnext'
    exact ⟨err', rfl, fun hu => hu.elim⟩
  | fetchPools =>
    simp only [Option.some.injEq, Prod.mk.injEq] at hnext'
    obtain ⟨rfl, rfl⟩ := hnext'
    exact ⟨_, rfl, fun _ => rfl⟩
  | fetchNetworks =>
    simp only [Option.some.injEq, Prod.mk.injEq] at hnext'
    obtain ⟨rfl, rfl⟩ := hnext'
    exact ⟨_, rfl, fun _ => rfl⟩
  | testPools =>
    -- the page has an error: both outcomes of the test lead to the next fetch
    simp only [testErr_of_shown (h := ⟨_, data⟩) hfree, Option.some.injEq,
      Prod.mk.injEq] at hnext' ⊢
    obtain ⟨rfl, rfl⟩ := hnext'
    exact ⟨err', ⟨rfl, rfl⟩, fun hu => hu.elim⟩
  | testNetworks =>
    simp only [testErr_of_shown (h := ⟨_, data⟩) hfree, Option.some.injEq,
      Prod.mk.injEq] at hnext' ⊢
    obtain ⟨rfl, rfl⟩ := hnext'
    exact ⟨err', ⟨rfl, rfl⟩, fun hu => hu.elim⟩
  | readPools => exact absurd trivial hfree
  | readNetworks => exact absurd trivial hfree
  | rendered => exact absurd hnext' (by simp)
  | panicked => exact absurd hnext' (by simp)

/-- No request has read a nil error, and a rendered page is the one that its
request renders alone. -/
def Isolated (s : PageState) : Prop :=
  ∀ i v h, s.threads i = some (v, h) →
    h.line ≠ .panicked ∧ (h.line = .rendered → h.data = v.view)

/-- A request that ends where it ends alone renders its `view`. -/
theorem rendered_of_alone {v : Visit} {h : Handler} {own : Option String}
    (halone : page.Alone v (page.entry, none) (h, own)) (hend : page.next v h own = none) :
    h = ⟨.rendered, v.view⟩ := by
  have hview := view_alone v none
  exact congrArg Prod.fst (halone.end_unique hend hview rfl)

theorem isolated_of_faithful {s : PageState}
    (hs : Shared.Faithful page Handler.UsesErr none s) : Isolated s := by
  intro i v h hi
  obtain ⟨own, halone, -⟩ := hs i v h hi
  constructor
  · intro hpanic
    have hend : page.next v h own = none := by
      show handle v h own = none
      rw [handle, hpanic]
    rw [rendered_of_alone halone hend] at hpanic
    exact Line.noConfusion hpanic
  · intro hrendered
    have hend : page.next v h own = none := by
      show handle v h own = none
      rw [handle, hrendered]
    rw [rendered_of_alone halone hend]

/-- Every request renders its `view` when it is served alone. When no request
assigns another value to `err` while a further one still uses it, every
request of every run renders its `view`, and none evaluates `err.Error()` on
nil. -/
theorem requests_isolated (as : List (Shared.Action Visit)) :
    (∀ (v : Visit) (err : Option String),
      page.Alone v (page.entry, err) (⟨.rendered, v.view⟩, v.networks.2)) ∧
    (Meets serve (Shared.Undisturbed page Handler.UsesErr) served as →
      Holds serve Isolated served as) := by
  refine ⟨view_alone, fun hok => ?_⟩
  have hentry : ¬ page.entry.UsesErr := fun hu => hu.elim
  have hfaithful := Shared.faithful_of_undisturbed page_uses hentry none hok
  exact hfaithful.mono fun _ => isolated_of_faithful

/-- A node without machines, pools or networks. -/
def emptyVisit : Visit where
  send := fun _ _ => .ok { status := "ok", output := some (.arr []) }
  clusterID := "c"
  nodeID := "n"

/-- A node that no command reaches. -/
def downVisit : Visit where
  send := fun _ _ => .error "master not connected"
  clusterID := "c"
  nodeID := "m"

/-- The first request has assigned its nil to `err` when the second assigns
its error; the first one tests and reads that. -/
def leakedRun : List (Shared.Action Visit) :=
  [.spawn 0 emptyVisit, .spawn 1 downVisit, .step 1, .step 0, .step 0, .step 1, .step 0, .step 0,
    .step 0, .step 0]

/-- After the test of the first request a third one assigns its nil. -/
def nilRun : List (Shared.Action Visit) :=
  [.spawn 0 emptyVisit, .spawn 1 downVisit, .spawn 2 emptyVisit, .step 1, .step 2, .step 0, .step 0,
    .step 1, .step 0, .step 2, .step 0]

/-- A request without an error of its own renders the error of another one,
and one evaluates `err.Error()` on nil. -/
theorem requests_interfere :
    (∃ t h, run serve served leakedRun = some t ∧ t.threads 0 = some (emptyVisit, h) ∧
      h.line = .rendered ∧ h.data.libvirtError = "master not connected" ∧
      emptyVisit.view.libvirtError = "") ∧
    (∃ t h, run serve served nilRun = some t ∧ t.threads 0 = some (emptyVisit, h) ∧
      h.line = .panicked) ∧
    ¬ ∀ as t, run serve served as = some t → Isolated t := by
  refine ⟨⟨_, _, rfl, rfl, rfl, rfl, rfl⟩, ⟨_, _, rfl, rfl, rfl⟩, fun hall => ?_⟩
  exact (hall nilRun _ rfl 0 emptyVisit _ rfl).1 rfl

/-- With one other request, which does not use `err`, every step is free. -/
theorem undisturbed_pair {s : PageState} {i k : Nat} {w : Visit} {h : Handler}
    (hk : s.threads k = some (w, h)) (hfree : ¬ h.UsesErr)
    (hrest : ∀ j, j ≠ i → j ≠ k → s.threads j = none) :
    Shared.Undisturbed page Handler.UsesErr s (.step i) := by
  intro v l l' e hi hnext
  refine .inr fun j w' m hj hm => ?_
  by_cases hjk : j = k
  · subst hjk
    obtain ⟨-, rfl⟩ := Prod.mk.inj (Option.some.inj (hk.symm.trans hm))
    exact hfree
  · exact absurd ((hrest j hj hjk).symm.trans hm) (by simp)

/-- Two requests, of which never both are between an assignment of `err` and
its last use. -/
def pairRun : List (Shared.Action Visit) :=
  [.spawn 0 emptyVisit, .spawn 1 downVisit, .step 0, .step 1, .step 0, .step 0, .step 1, .step 1,
    .step 0, .step 0, .step 1, .step 1]

/-- Both render what they render alone. -/
theorem requests_isolated_pair :
    Holds serve Isolated served pairRun ∧
    ∃ t h h', run serve served pairRun = some t ∧
      t.threads 0 = some (emptyVisit, h) ∧ h.line = .rendered ∧ h.data = emptyVisit.view ∧
      t.threads 1 = some (downVisit, h') ∧ h'.line = .rendered ∧ h'.data = downVisit.view := by
  have hholds : Holds serve Isolated served pairRun := by
    refine (requests_isolated pairRun).2 ?_
    refine .cons trivial rfl (.cons trivial rfl (.cons ?_ rfl (.cons ?_ rfl (.cons ?_ rfl
      (.cons ?_ rfl (.cons ?_ rfl (.cons ?_ rfl (.cons ?_ rfl (.cons ?_ rfl (.cons ?_ rfl
        (.cons ?_ rfl trivial)))))))))))
    -- whichever moves, the other one does not use `err`
    all_goals first
      | refine undisturbed_pair (k := 1) rfl (fun hu => hu.elim) fun j h₀ h₁ => ?_
        simp [served, Shared.State.init, Function.update, h₀, h₁]
        done
      | refine undisturbed_pair (k := 0) rfl (fun hu => hu.elim) fun j h₁ h₀ => ?_
        simp [served, Shared.State.init, Function.update, h₀, h₁]
  exact ⟨hholds, _, _, _, rfl, rfl, rfl, rfl, rfl, rfl, rfl⟩

end Centralisd.Web
