import Mathlib.Data.List.Basic

/-!
# A packet filter

Base chains of the kernel's packet filter at the hook for packets to the
host itself. A rule is a list of expressions, run in order over registers:
a load puts bytes of the packet or of its surroundings into a register, a
comparison goes on to the next expression or leaves the rule, and a verdict
decides. A packet that no rule of a chain decides gets the chain's policy.
A load of bytes that the packet does not have leaves the rule as well.

Rulesets are changed by batches of commands. A batch is taken whole or not
at all (`commit`). What becomes of a comparison without data is a parameter
(`EmptyCmp`): the Linux kernel refuses one when it is added.

The priority and the type of a chain are left out: they order the chains,
and a packet passes if it passes all of them.
-/

namespace Nft

abbrev Bytes := List UInt8

/-! ## Packets -/

inductive Proto where
  | ipv4
  | ipv6
  deriving DecidableEq, Repr

/-- The shortest header. -/
def Proto.headerLen : Proto → Nat
  | .ipv4 => 20
  | .ipv6 => 40

/-- A packet at the input hook. Its network header has been checked to be
complete. -/
structure IPPacket where
  /-- the name of the interface it arrives on -/
  iifname : Bytes
  proto : Proto
  /-- the bytes from the network header on -/
  network : Bytes
  /-- the protocol of the transport header, where it is known -/
  l4proto : Option UInt8
  /-- the bytes from the transport header on; a later fragment has none -/
  transport : Option Bytes
  iifname_short : iifname.length < 16
  iifname_text : 0 ∉ iifname
  header : proto.headerLen ≤ network.length

/-- The `len` bytes at an offset, if there are so many. -/
def bytesAt (offset len : Nat) (bytes : Bytes) : Option Bytes :=
  if offset + len ≤ bytes.length then some ((bytes.drop offset).take len) else none

/-- The source address. -/
def IPPacket.source (p : IPPacket) : Option Bytes :=
  match p.proto with
  | .ipv4 => bytesAt 12 4 p.network
  | .ipv6 => bytesAt 8 16 p.network

/-- The bytes of the destination port, where the packet has one. -/
def IPPacket.dport (p : IPPacket) : Option Bytes := p.transport.bind (bytesAt 2 2)

/-! ## Rules -/

inductive MetaKey where
  | iifname
  | l4proto
  deriving DecidableEq, Repr

inductive PayloadBase where
  | networkHeader
  | transportHeader
  deriving DecidableEq, Repr

inductive Verdict where
  | accept
  | drop
  deriving DecidableEq, Repr

inductive Expr where
  | load (key : MetaKey) (register : Nat)
  | payload (base : PayloadBase) (offset len register : Nat)
  /-- equal, on as many bytes as the data has -/
  | cmpEq (register : Nat) (data : Bytes)
  | verdict (kind : Verdict)
  deriving DecidableEq, Repr

abbrev Rule := List Expr

/-- A comparison without data: it is refused, or it is taken and always
holds (no byte differs) or never does (no bytes are not the loaded ones). -/
inductive EmptyCmp where
  | refused
  | holds
  | fails
  deriving DecidableEq, Repr

abbrev Regs := Nat → Bytes

/-- Loaded bytes overwrite the first bytes of a register. -/
def Regs.write (regs : Regs) (register : Nat) (bytes : Bytes) : Regs :=
  Function.update regs register (bytes ++ (regs register).drop bytes.length)

/-- The name of an interface fills its register up with zeros. -/
def MetaKey.read (p : IPPacket) : MetaKey → Option Bytes
  | .iifname => some (p.iifname ++ List.replicate (16 - p.iifname.length) 0)
  | .l4proto => p.l4proto.map fun n => [n]

def PayloadBase.read (p : IPPacket) : PayloadBase → Option Bytes
  | .networkHeader => some p.network
  | .transportHeader => p.transport

inductive Outcome where
  | next (regs : Regs)
  | leave
  | decided (v : Verdict)

def loaded (regs : Regs) (register : Nat) : Option Bytes → Outcome
  | none => .leave
  | some bytes => .next (regs.write register bytes)

/-- The bytes of a register begin with the data. -/
def EmptyCmp.eq (k : EmptyCmp) (bytes data : Bytes) : Bool :=
  if data = [] then k == .holds else bytes.take data.length == data

def Expr.eval (k : EmptyCmp) (p : IPPacket) (regs : Regs) : Expr → Outcome
  | .load key register => loaded regs register (key.read p)
  | .payload base offset len register =>
    loaded regs register ((base.read p).bind (bytesAt offset len))
  | .cmpEq register data =>
    if k.eq (regs register) data then .next regs else .leave
  | .verdict v => .decided v

/-- A rule: its verdict, if it comes to one, and the registers it leaves. -/
def evalRule (k : EmptyCmp) (p : IPPacket) : Regs → Rule → Regs × Option Verdict
  | regs, [] => (regs, none)
  | regs, e :: es => match e.eval k p regs with
    | .next regs' => evalRule k p regs' es
    | .leave => (regs, none)
    | .decided v => (regs, some v)

def evalRules (k : EmptyCmp) (p : IPPacket) (policy : Verdict) : Regs → List Rule → Verdict
  | _, [] => policy
  | regs, rule :: rules => match evalRule k p regs rule with
    | (regs', none) => evalRules k p policy regs' rules
    | (_, some v) => v

/-! ## Rulesets -/

inductive Family where
  | inet
  | ip
  | ip6
  deriving DecidableEq, Repr

/-- The packets a family's chains see. -/
def Family.sees : Family → Proto → Bool
  | .inet, _ => true
  | .ip, proto => proto == .ipv4
  | .ip6, proto => proto == .ipv6

structure Table where
  name : String
  family : Family
  deriving DecidableEq, Repr

inductive Hook where
  | input
  | forward
  | output
  deriving DecidableEq, Repr

structure Chain where
  name : String
  table : Table
  hooknum : Hook
  policy : Verdict
  rules : List Rule := []
  deriving DecidableEq, Repr

structure Ruleset where
  tables : List Table := []
  chains : List Chain := []
  deriving DecidableEq, Repr

def Chain.accepts (k : EmptyCmp) (c : Chain) (p : IPPacket) : Bool :=
  evalRules k p c.policy (fun _ => List.replicate 16 0) c.rules == .accept

/-- A packet to the host gets through when no chain drops it. -/
def Ruleset.accepts (k : EmptyCmp) (rs : Ruleset) (p : IPPacket) : Bool :=
  (rs.chains.filter fun c => (c.hooknum == .input) && c.table.family.sees p.proto).all
    fun c => c.accepts k p

inductive Command where
  | flushRuleset
  | addTable (t : Table)
  | addChain (c : Chain)
  | addRule (table : Table) (chain : String) (rule : Rule)
  deriving DecidableEq, Repr

/-- The kernel takes an expression: what is compared fits into a register. -/
def Expr.taken (k : EmptyCmp) : Expr → Bool
  | .cmpEq _ data => decide ((data = [] → k ≠ .refused) ∧ data.length ≤ 16)
  | _ => true

def Chain.isNamed (table : Table) (name : String) (c : Chain) : Bool :=
  (c.table == table) && (c.name == name)

def Chain.addRule (table : Table) (name : String) (rule : Rule) (c : Chain) : Chain :=
  if c.isNamed table name then { c with rules := c.rules ++ [rule] } else c

/-- One command of a batch; `none` is an error. -/
def Ruleset.apply (k : EmptyCmp) (rs : Ruleset) : Command → Option Ruleset
  | .flushRuleset => some {}
  | .addTable t => some { rs with tables := rs.tables ++ [t] }
  | .addChain c => if c.table ∈ rs.tables then some { rs with chains := rs.chains ++ [c] } else none
  | .addRule table chain rule =>
    if rs.chains.any (Chain.isNamed table chain) ∧ rule.all (Expr.taken k) then
      some { rs with chains := rs.chains.map (Chain.addRule table chain rule) }
    else none

def Ruleset.applyAll (k : EmptyCmp) : Ruleset → List Command → Option Ruleset
  | rs, [] => some rs
  | rs, c :: cs => (rs.apply k c).bind fun rs' => rs'.applyAll k cs

/-- The ruleset after a batch: the old one if a command fails. -/
def Ruleset.commit (k : EmptyCmp) (rs : Ruleset) (batch : List Command) : Ruleset :=
  (rs.applyAll k batch).getD rs

/-! ## Rules that accept -/

section
variable {k : EmptyCmp} {p : IPPacket} {register : Nat} {data : Bytes} {cond : Prop}

/-- Whatever the registers hold, the rule accepts the packet if the condition
holds, and otherwise leaves it to the next rule. -/
structure AcceptsIff (k : EmptyCmp) (p : IPPacket) (rule : Rule) (cond : Prop) : Prop where
  accept : ∀ regs, cond → (evalRule k p regs rule).2 = some .accept
  leave : ∀ regs, ¬ cond → (evalRule k p regs rule).2 = none

theorem acceptsIff_verdict (k : EmptyCmp) (p : IPPacket) :
    AcceptsIff k p [.verdict .accept] True where
  accept _ _ := rfl
  leave _ h := absurd trivial h

/-- There are bytes to load, and they begin with the data. -/
def Found (k : EmptyCmp) (data : Bytes) (read : Option Bytes) : Prop :=
  ∃ bytes, read = some bytes ∧ k.eq bytes data = true

/-- What a register held before a load does not matter to a comparison of no
more than what is loaded. -/
theorem eq_write {bytes : Bytes} (regs : Regs) (register : Nat)
    (hlen : data.length ≤ bytes.length) :
    k.eq ((regs.write register bytes) register) data = k.eq bytes data := by
  unfold EmptyCmp.eq
  rw [Regs.write, Function.update_self, List.take_append_of_le_length hlen]

/-- A load and a comparison of it before a rule. -/
theorem acceptsIff_cmp {e : Expr} {read : Option Bytes} {rule : Rule}
    (he : ∀ regs : Regs, e.eval k p regs = loaded regs register read)
    (hlen : ∀ bytes, read = some bytes → data.length ≤ bytes.length)
    (h : AcceptsIff k p rule cond) :
    AcceptsIff k p (e :: .cmpEq register data :: rule) (Found k data read ∧ cond) where
  accept := by
    rintro regs ⟨⟨bytes, hread, hdata⟩, hcond⟩
    have hcmp := (eq_write (k := k) regs register (hlen bytes hread)).trans hdata
    rw [evalRule, he, hread, loaded]
    dsimp only
    rw [evalRule, Expr.eval, if_pos hcmp]
    exact h.accept _ hcond
  leave := by
    intro regs hcond
    rw [evalRule, he]
    cases hread : read with
    | none => rfl
    | some bytes =>
      have hcmp := eq_write (k := k) regs register (hlen bytes hread)
      rw [loaded]
      dsimp only
      rw [evalRule, Expr.eval]
      by_cases hdata : k.eq bytes data = true
      · rw [if_pos (hcmp.trans hdata)]
        exact h.leave _ fun hrest => hcond ⟨⟨bytes, hread, hdata⟩, hrest⟩
      · rw [if_neg fun heq => hdata (hcmp.symm.trans heq)]

theorem evalRules_cons {rule : Rule} {rules : List Rule} {rest : Prop}
    (h : AcceptsIff k p rule cond)
    (hrest : ∀ regs, evalRules k p .drop regs rules = .accept ↔ rest) (regs : Regs) :
    evalRules k p .drop regs (rule :: rules) = .accept ↔ cond ∨ rest := by
  rw [evalRules]
  by_cases hcond : cond
  · have hv := h.accept regs hcond
    generalize evalRule k p regs rule = out at hv
    obtain ⟨regs', v⟩ := out
    obtain rfl : v = some .accept := hv
    exact iff_of_true rfl (.inl hcond)
  · have hv := h.leave regs hcond
    generalize evalRule k p regs rule = out at hv
    obtain ⟨regs', v⟩ := out
    obtain rfl : v = none := hv
    rw [or_iff_right hcond]
    exact hrest regs'

/-! ## What is found -/

theorem found_nil {read : Option Bytes} : Found k [] read ↔ read.isSome ∧ k = .holds := by
  constructor
  · rintro ⟨bytes, rfl, hk⟩
    exact ⟨rfl, by simpa [EmptyCmp.eq] using hk⟩
  · rintro ⟨h, rfl⟩
    obtain ⟨bytes, hbytes⟩ := Option.isSome_iff_exists.mp h
    exact ⟨bytes, hbytes, rfl⟩

theorem eq_iff_take {bytes : Bytes} (h : data ≠ []) :
    k.eq bytes data = true ↔ bytes.take data.length = data := by
  rw [EmptyCmp.eq, if_neg h, beq_iff_eq]

theorem length_of_bytesAt {offset len : Nat} {bytes out : Bytes}
    (h : bytesAt offset len bytes = some out) : out.length = len := by
  unfold bytesAt at h
  split at h
  · next hlen =>
    cases h
    rw [List.length_take, List.length_drop]
    omega
  · cases h

/-- A comparison of all that is loaded. -/
theorem found_eq {read : Option Bytes} (hne : data ≠ [])
    (hlen : ∀ bytes, read = some bytes → bytes.length = data.length) :
    Found k data read ↔ read = some data := by
  constructor
  · rintro ⟨bytes, hread, hdata⟩
    rw [eq_iff_take hne, ← hlen bytes hread, List.take_length] at hdata
    rw [hread, hdata]
  · rintro rfl
    exact ⟨data, rfl, (eq_iff_take hne).mpr List.take_length⟩

/-- What stands before the first zero. -/
theorem takeWhile_zero {name : Bytes} (h : 0 ∉ name) (rest : Bytes) :
    (name ++ 0 :: rest).takeWhile (· ≠ 0) = name := by
  have hname : ∀ b ∈ name, decide (b ≠ 0) = true :=
    fun b hb => decide_eq_true fun hzero => h (hzero ▸ hb)
  rw [List.takeWhile_append_of_pos hname, List.takeWhile_cons_of_neg (by decide), List.append_nil]

/-- The name of an interface is compared together with the zero behind it. -/
theorem found_iifname (p : IPPacket) {name : Bytes} (hname : 0 ∉ name) :
    Found k (name ++ [0]) (MetaKey.iifname.read p) ↔ p.iifname = name := by
  have hshort := p.iifname_short
  obtain ⟨n, hn⟩ : ∃ n, 16 - p.iifname.length = n + 1 := ⟨15 - p.iifname.length, by omega⟩
  have hread : MetaKey.iifname.read p = some (p.iifname ++ 0 :: List.replicate n 0) := by
    rw [MetaKey.read, hn, List.replicate_succ]
  have hne : name ++ [0] ≠ [] := List.append_ne_nil_of_right_ne_nil _ (by simp)
  constructor
  · rintro ⟨bytes, hbytes, hdata⟩
    obtain rfl := Option.some.inj (hread.symm.trans hbytes)
    rw [eq_iff_take hne] at hdata
    -- the compared bytes and the rest of the register
    have hsplit := List.take_append_drop (name ++ [0]).length (p.iifname ++ 0 :: List.replicate n 0)
    rw [hdata, List.append_assoc, List.singleton_append] at hsplit
    rw [← takeWhile_zero p.iifname_text (List.replicate n 0), ← hsplit, takeWhile_zero hname]
  · rintro rfl
    refine ⟨_, hread, ?_⟩
    rw [eq_iff_take hne, List.length_append, List.take_length_add_append]
    rfl

/-- The header of a packet at the hook is there to load from. -/
theorem bytesAt_network (p : IPPacket) {offset len : Nat} (h : offset + len ≤ 20) :
    bytesAt offset len p.network = some ((p.network.drop offset).take len) := by
  have hheader := p.header
  have hmin : 20 ≤ p.proto.headerLen := by cases p.proto <;> decide
  rw [bytesAt, if_pos (by omega)]

end

end Nft
