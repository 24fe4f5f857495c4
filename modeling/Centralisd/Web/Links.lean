import Mathlib.Data.List.TakeWhile
import Centralisd.Web.Handler

/-!
# Centralisd — links and pages

The templates link to `/clusters/` followed by the ID of a cluster and, for
the pages of a node, `nodes`, the ID of the node and the name of the page.
The handler takes the path apart again at its slashes.

What comes out of a path is well formed (`pathParts_parts`), and a link made
of such parts comes back unchanged (`pathParts_linkPath`). So a link opens
the page it names exactly if neither ID has a slash and the ID of the node
has no space around it (`links_open_iff`). The IDs of keys are fine, but
clusters are named freely: one with a slash in its name is listed and cannot
be opened. How a browser escapes a link is not part of this, and neither is
the redirect of `ServeMux`: the path is `r.URL.Path` as the handler gets it.
-/

namespace Centralisd.Web

open Runtime Orchestrator Effect

/-! ## Paths -/

/-- A link of the templates. -/
def linkPath (parts : List String) : String :=
  String.ofList ("/clusters/".toList ++ ['/'].intercalate (parts.map String.toList))

def SlashFree (s : String) : Prop := '/' ∉ s.toList

/-- What a path can be taken apart to. -/
structure Parts (parts : List String) : Prop where
  slashFree : ∀ part ∈ parts, SlashFree part
  head : ∃ id more, parts = id :: more ∧ id ≠ ""
  length : parts.length ≤ 4

/-- A path without its outer slashes does not start with one. -/
theorem head_trimSlashes (s : String) : (trimSlashes s).toList.head? ≠ some '/' := by
  intro hhead
  rw [trimSlashes, String.toList_ofList] at hhead
  have hprefix : ((s.toList.dropWhile (· == '/')).reverse.dropWhile (· == '/')).reverse <+:
      s.toList.dropWhile (· == '/') := by
    have hsuffix := List.dropWhile_suffix (l := (s.toList.dropWhile (· == '/')).reverse) (· == '/')
    simpa using List.reverse_prefix.mpr hsuffix
  have hhead' : (s.toList.dropWhile (· == '/')).head? = some '/' := by
    obtain ⟨t, ht⟩ := hprefix
    rw [← ht, List.head?_append, hhead]
    rfl
  have hnot := List.head?_dropWhile_not (· == '/') s.toList
  rw [hhead'] at hnot
  simp at hnot

/-- What comes out of a path is well formed. -/
theorem pathParts_parts {path : String} {parts : List String} (h : pathParts path = some parts) :
    Parts parts := by
  unfold pathParts at h
  dsimp only at h
  generalize hrest : trimSlashes (trimPrefix "/clusters/" path) = rest at h
  split at h
  · cases h
  · next hne =>
    split at h
    · cases h
    · next hlen =>
      cases h
      refine ⟨?_, ?_, Nat.le_of_not_lt hlen⟩
      · intro part hpart
        obtain ⟨l, hl, rfl⟩ := List.mem_map.mp hpart
        rw [SlashFree, String.toList_ofList]
        exact (Fields.pieces_iff.mpr rfl).apart l hl
      · have hjoin : ['/'].intercalate (rest.toList.splitOn '/') = rest.toList :=
          List.intercalate_splitOn '/'
        have hhead := head_trimSlashes (trimPrefix "/clusters/" path)
        rw [hrest] at hhead
        unfold splitSlashes
        cases hsplit : rest.toList.splitOn '/' with
        | nil => exact absurd hsplit (List.splitOn_ne_nil _ _)
        | cons first more =>
          refine ⟨_, _, rfl, fun hempty => ?_⟩
          have hfirst : first = [] := by simpa using hempty
          rw [hsplit, hfirst] at hjoin
          cases more with
          | nil =>
            refine hne (String.toList_inj.mp ?_)
            simpa using hjoin.symm
          | cons second more =>
            rw [List.intercalate_cons_cons] at hjoin
            rw [← hjoin] at hhead
            exact hhead rfl

theorem trimPrefix_append (pre : String) (cs : List Char) :
    trimPrefix pre (String.ofList (pre.toList ++ cs)) = String.ofList cs := by
  rw [trimPrefix, String.toList_ofList, if_pos (List.prefix_append _ _), List.drop_left]

/-- Outer slashes are all that is trimmed. -/
theorem trimSlashes_eq_self {cs : List Char} (hhead : cs.head? ≠ some '/')
    (hlast : cs.getLast? ≠ some '/') : trimSlashes (String.ofList cs) = String.ofList cs := by
  have hdrop : ∀ l : List Char, l.head? ≠ some '/' → l.dropWhile (· == '/') = l := by
    intro l hl
    cases l with
    | nil => rfl
    | cons c l =>
      have hc : (c == '/') = false := by
        rw [beq_eq_false_iff_ne]
        rintro rfl
        exact hl rfl
      rw [List.dropWhile_cons, hc]
      rfl
  have hreverse : cs.reverse.head? ≠ some '/' := by rwa [List.head?_reverse]
  rw [trimSlashes, String.toList_ofList, hdrop cs hhead, hdrop _ hreverse, List.reverse_reverse]

theorem head_intercalate {id : String} {more : List String} (hid : id ≠ "")
    (hfree : SlashFree id) :
    (['/'].intercalate ((id :: more).map String.toList)).head? ≠ some '/' := by
  obtain ⟨c, cs, hcs⟩ : ∃ c cs, id.toList = c :: cs := by
    cases hchars : id.toList with
    | nil => exact absurd (String.toList_inj.mp (hchars.trans String.toList_empty.symm)) hid
    | cons c cs => exact ⟨c, cs, rfl⟩
  rw [SlashFree, hcs] at hfree
  have hhead : (['/'].intercalate ((id :: more).map String.toList)).head? = some c := by
    cases more with
    | nil => simp [hcs]
    | cons second more => simp [List.intercalate_cons_cons, hcs]
  rw [hhead]
  rintro ⟨rfl⟩
  exact hfree List.mem_cons_self

theorem getLast_intercalate {parts : List String} {last : String} (hlast : last ≠ "")
    (hfree : SlashFree last) :
    (['/'].intercalate ((parts ++ [last]).map String.toList)).getLast? ≠ some '/' := by
  have hne : last.toList ≠ [] := fun h =>
    hlast (String.toList_inj.mp (h.trans String.toList_empty.symm))
  have hend : ∃ front, ['/'].intercalate ((parts ++ [last]).map String.toList) =
      front ++ last.toList := by
    induction parts with
    | nil => exact ⟨[], by simp⟩
    | cons part parts ih =>
      obtain ⟨front, hfront⟩ := ih
      refine ⟨part.toList ++ ['/'] ++ front, ?_⟩
      rw [List.cons_append, List.map_cons, List.intercalate_cons_of_ne_nil (by simp), hfront,
        List.append_assoc, List.append_assoc, List.append_assoc]
  obtain ⟨front, hfront⟩ := hend
  rw [hfront, List.getLast?_append_of_ne_nil _ hne]
  intro hslash
  exact hfree (List.mem_of_getLast? hslash)

/-- A link made of well-formed parts, with a last one, is taken apart to
them. -/
theorem pathParts_linkPath (parts : List String) {last : String}
    (hparts : Parts (parts ++ [last])) (hlast : last ≠ "") :
    pathParts (linkPath (parts ++ [last])) = some (parts ++ [last]) := by
  have hlastFree := hparts.slashFree last (by simp)
  obtain ⟨id, more, hcons, hid⟩ := hparts.head
  have hhead : (['/'].intercalate ((parts ++ [last]).map String.toList)).head? ≠ some '/' := by
    rw [hcons]
    exact head_intercalate hid (hparts.slashFree id (by simp [hcons]))
  have hsplit : splitSlashes (String.ofList
      (['/'].intercalate ((parts ++ [last]).map String.toList))) = parts ++ [last] := by
    rw [splitSlashes, String.toList_ofList, List.splitOn_intercalate, List.map_map]
    · simp
    · intro l hl
      obtain ⟨part, hpart, rfl⟩ := List.mem_map.mp hl
      exact hparts.slashFree part hpart
    · simp
  have hne : String.ofList (['/'].intercalate ((parts ++ [last]).map String.toList)) ≠ "" := by
    intro hempty
    rw [hempty] at hsplit
    have hsingle : parts ++ [last] = [""] := hsplit.symm.trans (by decide)
    rw [hcons] at hsingle
    cases hsingle
    exact hid rfl
  unfold pathParts linkPath
  rw [trimPrefix_append, trimSlashes_eq_self hhead (getLast_intercalate hlast hlastFree)]
  dsimp only
  rw [if_neg hne, hsplit, if_neg (Nat.not_lt.mpr hparts.length)]

/-! ## What a page shows -/

section
variable {σ α β : Type} {H : Host interface σ} {r : Request} {c n : String}

/-- The handler returns, with a value in `Q`. -/
abbrev Yields (m : Serve σ α) (Q : α → Prop) : Prop :=
  Triple (fun _ => True) m (fun a _ => Q a) (fun _ => False)

theorem Yields.pure {Q : α → Prop} {a : α} (h : Q a) : Yields (σ := σ) (Pure.pure a) Q :=
  Triple.pure fun _ _ => h

theorem Yields.bind {m : Serve σ α} {f : α → Serve σ β} {R : α → Prop} {Q : β → Prop}
    (h : Yields m R) (h' : ∀ a, R a → Yields (f a) Q) : Yields (m >>= f) Q :=
  Triple.bind h fun a => ⟨fun s hs => (h' a hs).run s trivial⟩

/-- An answer of the host, of which `A` is known. -/
theorem Yields.valueOr {call : Call} {zero : Val call} {f : Val call → Serve σ β}
    (A : Val call → Prop) {Q : β → Prop}
    (hA : ∀ s, A ((H.answer call s).1.toOption.getD zero)) (h : ∀ v, A v → Yields (f v) Q) :
    Yields (valueOr H call zero >>= f) Q := by
  refine ⟨fun w _ => ?_⟩
  rw [valueOr_bind]
  exact (h _ (hA w.host)).run _ trivial

/-- A cluster, a node and an item of its navigation that a page shows. -/
def Shows (c n item : String) : Response → Prop
  | .notFound => False
  | .page _ data => data.activeCluster = c ∧ data.activeNode.id = n ∧ data.activeNodeItem = item

/-- The item of the navigation for the last part of a path. -/
def pageItem : String → Option String
  | "docker" | "docker-containers" => some "docker-containers"
  | "docker-images" => some "docker-images"
  | "virtualization" => some "virtualization"
  | _ => none

/-- A page of a node, if there is one for the part of the path. -/
def NodePage (id nodeID sub : String) (response : Response) : Prop :=
  match pageItem sub with
  | none => response = .notFound
  | some item => Shows id nodeID item response

theorem sendToNode_yields (id nodeID : String) (cmd : NodeCommand) :
    Yields (sendToNode H id nodeID cmd) (fun _ => True) := ⟨fun _ _ => trivial⟩

theorem sendNodeCommand_yields (id nodeID action : String) (params : RawMessage) :
    Yields (Live.sendNodeCommand H id nodeID action params) (fun _ => True) := by
  unfold Live.sendNodeCommand
  split
  · exact .pure trivial
  · exact sendToNode_yields id nodeID _

theorem postedAction_yields (page : ActionPage) (r : Request) (id nodeID : String) :
    Yields (postedAction H page r id nodeID) (fun _ => True) := by
  unfold postedAction
  split
  · exact .pure trivial
  · split
    · exact .pure trivial
    · next form _ =>
      refine Yields.bind (R := fun _ => True) ?_ fun _ _ => .pure trivial
      unfold Live.handleAction
      split
      · exact .pure trivial
      · split
        · exact .pure trivial
        · refine Yields.bind (R := fun _ => True) ?_ fun _ _ => .pure trivial
          cases page with
          | nodeVirtualization => exact sendNodeCommand_yields id nodeID _ _
          | dockerContainers => exact sendToNode_yields id nodeID _
          | dockerImages => exact sendToNode_yields id nodeID _

theorem fetchDocker_yields {T : Type} {action invalid : String}
    {unmarshal : Json → Option (List T)} (id nodeID : String) :
    Yields (Live.fetchDocker H action invalid unmarshal id nodeID) (fun _ => True) := by
  unfold Live.fetchDocker
  split
  · exact .pure trivial
  · exact Yields.bind (sendToNode_yields id nodeID _) fun _ _ => .pure trivial

theorem fetchLibvirt_yields {T : Type} {action invalid : String}
    {unmarshal : Json → Option (List T)} (id nodeID : String) :
    Yields (Live.fetchLibvirt H action invalid unmarshal id nodeID) (fun _ => True) :=
  Yields.bind (sendNodeCommand_yields id nodeID action none) fun _ _ => .pure trivial

theorem fetchVMDomains_yields (id : String) :
    Yields (Live.fetchVMDomains H id) (fun _ => True) := by
  unfold Live.fetchVMDomains
  split
  · exact .pure trivial
  · refine Yields.valueOr (fun _ => True) (fun _ => trivial) fun masters _ => ?_
    refine Yields.bind (R := fun _ => True) ?_ fun _ _ => .pure trivial
    induction (masters : List MasterEntry) with
    | nil =>
      rw [List.mapM_nil]
      exact .pure trivial
    | cons master masters ih =>
      rw [List.mapM_cons]
      refine Yields.bind (R := fun _ => True) ?_ fun _ _ =>
        Yields.bind ih fun _ _ => .pure trivial
      unfold Live.fetchMaster
      split
      · exact .pure trivial
      · exact ⟨fun _ _ => trivial⟩

theorem nodePage_yields (r : Request) (id : String) (node : NodeInfo) (sub : String)
    (data : PageData) :
    Yields (nodePage H r id node sub data)
      (NodePage data.activeCluster data.activeNode.id sub) := by
  unfold nodePage
  split
  · refine Yields.bind (postedAction_yields _ r id node.id) fun _ _ => ?_
    exact Yields.bind (fetchDocker_yields id node.id) fun _ _ => .pure ⟨rfl, rfl, rfl⟩
  · refine Yields.bind (postedAction_yields _ r id node.id) fun _ _ => ?_
    exact Yields.bind (fetchDocker_yields id node.id) fun _ _ => .pure ⟨rfl, rfl, rfl⟩
  · refine Yields.bind (postedAction_yields _ r id node.id) fun _ _ => ?_
    exact Yields.bind (fetchDocker_yields id node.id) fun _ _ => .pure ⟨rfl, rfl, rfl⟩
  · refine Yields.bind (postedAction_yields _ r id node.id) fun _ _ => ?_
    refine Yields.bind (fetchLibvirt_yields id node.id) fun _ _ => ?_
    refine Yields.bind (fetchLibvirt_yields id node.id) fun _ _ => ?_
    exact Yields.bind (fetchLibvirt_yields id node.id) fun _ _ => .pure ⟨rfl, rfl, rfl⟩
  · next hdocker hcontainers himages hvirtualization =>
    refine .pure ?_
    simp [NodePage, pageItem]

/-- Rendering fills in the clusters only. -/
theorem render_yields {Q : Response → Prop} {tmpl : Template} {data : PageData}
    (h : ∀ clusters, Q (.page tmpl { data with clusters })) : Yields (render H tmpl data) Q := by
  refine Yields.valueOr (fun _ => True) (fun _ => trivial) fun clusters _ => ?_
  exact Yields.valueOr (fun _ => True) (fun _ => trivial) fun _ _ => .pure (h clusters)

theorem rendered_yields {id nodeID sub : String} {response : Response}
    (h : NodePage id nodeID sub response) :
    Yields (rendered H response) (NodePage id nodeID sub) := by
  cases response with
  | notFound => exact .pure h
  | page tmpl data =>
    refine render_yields fun clusters => ?_
    unfold NodePage at h ⊢
    split
    · next hnone =>
      rw [hnone] at h
      cases h
    · next item hitem =>
      rw [hitem] at h
      exact h

/-- A page of a node is shown for a path that names its cluster and, up to
space around it, its ID. -/
def Named (r : Request) (response : Response) : Prop :=
  ∀ c n item, Shows c n item response → item ≠ "" →
    n ≠ "" ∧ ∃ raw sub, pathParts r.path = some (c :: "nodes" :: raw :: sub) ∧ n = trimSpace raw

theorem findNode_ne_empty {nodes : List NodeInfo} {raw : String} {node : NodeInfo}
    (h : findNode nodes raw = some node) : node.id ≠ "" := by
  obtain ⟨-, hid⟩ := findNode_some h
  unfold findNode at h
  split at h
  · cases h
  · next hne =>
    rw [hid]
    exact hne

/-- A page without a node is no page of one. -/
theorem Named.of_noItem {tmpl : Template} {data : PageData} (h : data.activeNodeItem = "") :
    Named r (.page tmpl data) :=
  fun _ _ _ hshows hitem => absurd (hshows.2.2.symm.trans h) hitem

theorem Named.of_nodePage {id nodeID sub raw : String} {more : List String} {response : Response}
    (hpath : pathParts r.path = some (id :: "nodes" :: raw :: more)) (hid : nodeID = trimSpace raw)
    (hne : nodeID ≠ "") (h : NodePage id nodeID sub response) : Named r response := by
  intro c n item hshows _
  unfold NodePage at h
  split at h
  · rw [h] at hshows
    exact hshows.elim
  · cases response with
    | notFound => exact h.elim
    | page tmpl data =>
      rw [← hshows.1, ← hshows.2.1, h.1, h.2.1]
      exact ⟨hne, raw, more, hpath, hid⟩

theorem knownCluster_named {id item title : String} {more : List String} {tmpl : Template}
    (hpath : pathParts r.path = some (id :: more)) :
    Yields (knownCluster H r id more item tmpl title) (Named r) := by
  unfold knownCluster
  refine Yields.valueOr (fun _ => True) (fun _ => trivial) fun nodes _ => ?_
  refine Yields.valueOr (fun _ => True) (fun _ => trivial) fun online _ => ?_
  split
  · next kind raw sub =>
    split
    · exact .pure fun _ _ _ hshows => hshows.elim
    · next hkind =>
      rw [not_not] at hkind
      subst hkind
      split
      · exact .pure fun _ _ _ hshows => hshows.elim
      · next node hnode =>
        refine Yields.bind (nodePage_yields r id node _ _) fun response hresponse => ?_
        exact (rendered_yields hresponse).weaken fun response' _ hpage =>
          .of_nodePage hpath (findNode_some hnode).2 (findNode_ne_empty hnode) hpage
  · split
    · refine Yields.bind (R := fun _ => True) ?_ fun domains _ =>
        render_yields fun clusters => .of_noItem rfl
      exact fetchVMDomains_yields id
    · exact render_yields fun clusters => .of_noItem rfl

/-- Every page that is shown of a node is named by the path. -/
theorem serveHTTP_named (r : Request) : Yields (serveHTTP H r) (Named r) := by
  unfold serveHTTP
  split
  · unfold clustersHandler
    split
    · exact .pure fun _ _ _ hshows => hshows.elim
    · exact .pure fun _ _ _ hshows => hshows.elim
    · next id more hpath =>
      split
      · exact .pure fun _ _ _ hshows => hshows.elim
      · refine Yields.valueOr (fun _ => True) (fun _ => trivial) fun known _ => ?_
        split
        · exact .pure fun _ _ _ hshows => hshows.elim
        · split
          · exact .pure fun _ _ _ hshows => hshows.elim
          · exact knownCluster_named hpath
  · unfold homeHandler
    split
    · exact .pure fun _ _ _ hshows => hshows.elim
    · exact render_yields fun clusters => .of_noItem rfl

/-! ## Opening a link -/

/-- The store knows the cluster and always lists the node in it. -/
structure Lists (H : Host interface σ) (c n : String) : Prop where
  known : ∀ s, (H.answer (.isKnownCluster c) s).1 = .ok true
  listed : ∀ s, ∃ nodes, (H.answer (.nodesForCluster c) s).1 = .ok nodes ∧
    ∃ node ∈ nodes, node.id = n

/-- What the links to the pages of a node end in, with the items of the
navigation they are for. -/
def nodePages : List (List String × String) :=
  [([], "docker-containers"), (["docker"], "docker-containers"),
    (["docker-images"], "docker-images"), (["virtualization"], "virtualization")]

/-- The IDs that survive in a path. -/
structure Linkable (c n : String) : Prop where
  cluster : c ≠ ""
  clusterSlashFree : SlashFree c
  node : n ≠ ""
  nodeTrimmed : trimSpace n = n
  nodeSlashFree : SlashFree n

theorem findNode_listed {nodes : List NodeInfo} (hn : n ≠ "") (htrim : trimSpace n = n)
    (h : ∃ node ∈ nodes, node.id = n) : ∃ node, findNode nodes n = some node ∧ node.id = n := by
  obtain ⟨node, hmem, hid⟩ := h
  unfold findNode
  rw [htrim, if_neg hn]
  cases hfind : nodes.find? fun node => node.id == n with
  | none =>
    have hnot := List.find?_eq_none.mp hfind node hmem
    exact absurd (beq_iff_eq.mpr hid) hnot
  | some found =>
    have hfound := List.find?_some hfind
    exact ⟨found, rfl, eq_of_beq hfound⟩

theorem serveHTTP_opens {item : String} {more : List String} (hlists : Lists H c n)
    (hlinkable : Linkable c n) (hroot : "/clusters/".toList <+: r.path.toList)
    (hpath : pathParts r.path = some (c :: "nodes" :: n :: more))
    (hitem : pageItem (more.head?.getD "docker") = some item) :
    Yields (serveHTTP H r) (Shows c n item) := by
  unfold serveHTTP clustersHandler
  rw [if_pos hroot, hpath]
  dsimp only
  rw [if_neg hlinkable.cluster]
  refine Yields.valueOr (· = true) (fun s => ?_) fun known hknown => ?_
  · rw [hlists.known s]
    rfl
  rw [if_neg (by simp [hknown])]
  have hpage : clusterPage c ("nodes" :: n :: more) = some ("", .cluster, "Cluster: " ++ c) := rfl
  rw [hpage]
  unfold knownCluster
  refine Yields.valueOr (fun nodes => ∃ node ∈ nodes, node.id = n) (fun s => ?_)
    fun nodes hnodes => ?_
  · obtain ⟨nodes, hanswer, hmem⟩ := hlists.listed s
    rw [hanswer]
    exact hmem
  refine Yields.valueOr (fun _ => True) (fun _ => trivial) fun online _ => ?_
  obtain ⟨node, hfind, hid⟩ := findNode_listed hlinkable.node hlinkable.nodeTrimmed hnodes
  dsimp only
  rw [if_neg (not_not.mpr rfl), hfind]
  refine Yields.bind (nodePage_yields r c node _ _) fun response hresponse => ?_
  refine (rendered_yields hresponse).weaken fun response' _ hnodePage => ?_
  rw [NodePage, hitem, hid] at hnodePage
  exact hnodePage

theorem clusters_isPrefix_linkPath (parts : List String) :
    "/clusters/".toList <+: (linkPath parts).toList :=
  ⟨['/'].intercalate (parts.map String.toList), String.toList_ofList.symm⟩

theorem slashFree_trimSpace {s : String} (h : SlashFree s) : SlashFree (trimSpace s) := by
  intro hmem
  rw [trimSpace_toList] at hmem
  have hdrop := (List.rdropWhile_prefix isSpace (s.toList.dropWhile isSpace)).subset hmem
  exact h ((List.dropWhile_suffix isSpace).subset hdrop)

/-- A page of a node is shown for linkable IDs only. -/
theorem Linkable.of_named {item : String} {response : Response} (hnamed : Named r response)
    (hitem : item ≠ "") (h : Shows c n item response) : Linkable c n := by
  obtain ⟨hne, raw, sub, hpath, hraw⟩ := hnamed c n item h hitem
  subst hraw
  have hparts := pathParts_parts hpath
  obtain ⟨id, more, hcons, hid⟩ := hparts.head
  cases hcons
  exact {
    cluster := hid
    clusterSlashFree := hparts.slashFree c (.head _)
    node := hne
    nodeTrimmed := trimSpace_idem raw
    nodeSlashFree := slashFree_trimSpace (hparts.slashFree raw (.tail _ (.tail _ (.head _)))) }

/-- The endings of the links do not get in the way. -/
theorem nodePages_parts : ∀ page ∈ nodePages,
    (∀ part ∈ page.1, part ≠ "" ∧ SlashFree part) ∧ page.1.length ≤ 1 ∧
      pageItem (page.1.head?.getD "docker") = some page.2 := by
  unfold SlashFree
  decide

/-- A link to a page of a node with linkable IDs is taken apart to them. -/
theorem pathParts_nodeLink (h : Linkable c n) {page : List String × String}
    (hpage : page ∈ nodePages) :
    pathParts (linkPath (c :: "nodes" :: n :: page.1)) = some (c :: "nodes" :: n :: page.1) := by
  obtain ⟨hends, hlen, -⟩ := nodePages_parts page hpage
  have hnodes : SlashFree "nodes" := by
    unfold SlashFree
    decide
  have hparts : Parts (c :: "nodes" :: n :: page.1) := by
    refine ⟨fun part hpart => ?_, ⟨c, _, rfl, h.cluster⟩, ?_⟩
    · simp only [List.mem_cons] at hpart
      rcases hpart with rfl | rfl | rfl | hpart
      · exact h.clusterSlashFree
      · exact hnodes
      · exact h.nodeSlashFree
      · exact (hends part hpart).2
    · simp only [List.length_cons]
      omega
  -- the last part is the ID of the node or the name of the page
  rcases List.eq_nil_or_concat page.1 with hnil | ⟨init, last, hlast⟩
  · rw [hnil] at hparts ⊢
    exact pathParts_linkPath [c, "nodes"] hparts h.node
  · rw [List.concat_eq_append] at hlast
    have hne : last ≠ "" := (hends last (by simp [hlast])).1
    rw [hlast] at hparts ⊢
    exact pathParts_linkPath (c :: "nodes" :: n :: init) hparts hne

/-- A link to a page of a node that the store lists opens the page if the two
IDs survive in a path, and only then. -/
theorem links_open_iff (hlists : Lists H c n) (page : List String × String)
    (hpage : page ∈ nodePages) (hlink : r.path = linkPath (c :: "nodes" :: n :: page.1)) (s : σ) :
    (∃ response w, serveHTTP H r { host := s, globals := () } = .ok response w ∧
      Shows c n page.2 response) ↔ Linkable c n := by
  constructor
  · rintro ⟨response, w, hrun, hshows⟩
    have hnamed := (serveHTTP_named (H := H) r).run { host := s, globals := () } trivial
    rw [hrun] at hnamed
    have hitem : ∀ page ∈ nodePages, page.2 ≠ "" := by decide
    exact .of_named hnamed (hitem page hpage) hshows
  · intro h
    have hopens : Yields (serveHTTP H r) (Shows c n page.2) := by
      refine serveHTTP_opens hlists h ?_ ?_ (nodePages_parts page hpage).2.2
      · rw [hlink]
        exact clusters_isPrefix_linkPath _
      · rw [hlink]
        exact pathParts_nodeLink h hpage
    have hrun := hopens.run { host := s, globals := () } trivial
    cases hresult : serveHTTP H r { host := s, globals := () } with
    | ok response w =>
      rw [hresult] at hrun
      exact ⟨response, w, rfl, hrun⟩
    | error stop w =>
      rw [hresult] at hrun
      exact hrun.elim

end

theorem labStore_lists : Lists labStore "lab" "n1" where
  known _ := rfl
  listed _ := ⟨[{ id := "n1" }], rfl, _, List.mem_cons_self, rfl⟩

/-- A link that opens. -/
theorem links_open_lab : ∃ response w,
    serveHTTP labStore
      { method := "GET", path := linkPath ["lab", "nodes", "n1", "virtualization"], form := none }
      { host := (), globals := () } = .ok response w ∧
    Shows "lab" "n1" "virtualization" response := by
  refine (links_open_iff labStore_lists (["virtualization"], "virtualization") (by decide) rfl
    ()).mpr ⟨by decide, ?_, by decide, by decide, ?_⟩
  · unfold SlashFree
    decide
  · unfold SlashFree
    decide

/-! ## IDs of nodes -/

theorem slashFree_encodeToString (b : Bytes) : SlashFree (Base64.encodeToString b) := by
  intro hmem
  rw [Base64.encodeToString, String.toList_ofList] at hmem
  obtain ⟨digit, hdigit, heq⟩ := Base64.mem_encode b _ hmem
  have hall : ∀ digit : Fin 64, Base64.digit digit ≠ '/' := by decide
  exact hall ⟨digit, hdigit⟩ heq.symm

/-- The ID of a key can be linked to in every cluster whose name can. -/
theorem linkable_keyID_iff (C : Crypto) (pubKey : Bytes) (c : String) :
    Linkable c (keyID C pubKey) ↔ c ≠ "" ∧ SlashFree c := by
  constructor
  · intro h
    exact ⟨h.cluster, h.clusterSlashFree⟩
  · rintro ⟨hne, hfree⟩
    exact {
      cluster := hne
      clusterSlashFree := hfree
      node := keyID_ne_empty C pubKey
      nodeTrimmed := trimSpace_keyID C pubKey
      nodeSlashFree := slashFree_encodeToString _ }

/-- An ID with space around it passes for the ID of the key, but has no
page. -/
theorem not_linkable_padded (C : Crypto) (pubKey : Bytes) (c : String) :
    ¬ Linkable c (" " ++ keyID C pubKey) := by
  intro h
  have htrim := h.nodeTrimmed
  rw [trimSpace_space_append, trimSpace_keyID] at htrim
  have hlength := congrArg String.length htrim
  simp at hlength

end Centralisd.Web
