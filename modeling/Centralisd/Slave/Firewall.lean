import Centralisd.Core.Encoding
import Centralisd.Lib.Nftables

/-!
# Centralisd — the slave's firewall

`SetupFirewall` of `src/slave/firewall/firewall.go`: the batch it flushes,
read off the configured address of the master, and what the packet filter
(`Lib/Nftables`) makes of it.

The comparison of the master rule gets the bytes of the second part of the
address. For an address `<ip>:<port>` that is the port, which is no IP, and
`net.ParseIP` returns nil: the comparison has no data
(`firewallCommands_address`). A kernel that takes it lets every packet in
(`inputChain_accepts`), one that refuses it keeps the ruleset it had
(`commit_refused`).
-/

namespace Centralisd.Slave

open Nft

/-! ## The address -/

/-- `strings.Split`. -/
def split (sep : Char) (s : String) : List String := (s.toList.splitOn sep).map String.ofList

/-- A field of a dotted address: a decimal number up to 255, with no leading
zero. -/
def parseOctet (s : String) : Option UInt8 :=
  let ds := s.toList
  let n := ds.foldl (fun n c => n * 10 + (c.toNat - 48)) 0
  if ds ≠ [] ∧ ds.all Char.isDigit ∧ (ds.head? ≠ some '0' ∨ ds.length = 1) ∧ n ≤ 255 then
    some (UInt8.ofNat n)
  else none

/-- `net.ParseIP`, on a text without colons: a dotted address or nil. -/
def parseIP (s : String) : Option Nft.Bytes :=
  match split '.' s with
  | [a, b, c, d] => [a, b, c, d].mapM parseOctet
  | _ => none

/-- `IP.To4` on the result; a nil address has no bytes. -/
def to4 (ip : Option Nft.Bytes) : Nft.Bytes := ip.getD []

/-! ## The rules -/

def filterTable : Table where
  name := "filter"
  family := .inet

def inputChain : Chain where
  name := "input"
  table := filterTable
  hooknum := .input
  policy := .drop

/-- The bytes of `"lo"`, which the rule compares with the zero behind it. -/
def loopback : Nft.Bytes := [108, 111]

def loopbackRule : Rule :=
  [.load .iifname 1, .cmpEq 1 (loopback ++ [0]), .verdict .accept]

def masterRule (data : Nft.Bytes) : Rule :=
  [.payload .networkHeader 12 4 1, .cmpEq 1 data, .verdict .accept]

def sshRule : Rule :=
  [.load .l4proto 1, .cmpEq 1 [6], .payload .transportHeader 2 2 1, .cmpEq 1 [0, 22],
    .verdict .accept]

/-- What is flushed when the master rule compares with these bytes. -/
def commands (data : Nft.Bytes) : List Command :=
  [.flushRuleset, .addTable filterTable, .addChain inputChain,
    .addRule filterTable "input" loopbackRule, .addRule filterTable "input" (masterRule data),
    .addRule filterTable "input" sshRule]

/-- The batch of `SetupFirewall` for `Slave.Master`; `none` where the index
is out of range. -/
def firewallCommands (master : String) : Option (List Command) :=
  (split ':' master)[1]?.map fun part => commands (to4 (parseIP part))

/-- The ruleset after `SetupFirewall`. -/
def setupRuleset (k : EmptyCmp) (master : String) (before : Ruleset) : Ruleset :=
  match firewallCommands master with
  | none => before
  | some batch => before.commit k batch

/-! ## Addresses of masters -/

structure IPv4 where
  a : UInt8
  b : UInt8
  c : UInt8
  d : UInt8
  deriving DecidableEq, Repr

def IPv4.bytes (ip : IPv4) : Nft.Bytes := [ip.a, ip.b, ip.c, ip.d]

def octetText (n : UInt8) : List Char := Nat.toDigits 10 n.toNat

def IPv4.text (ip : IPv4) : List Char :=
  octetText ip.a ++ '.' :: octetText ip.b ++ '.' :: octetText ip.c ++ '.' :: octetText ip.d

/-- A port as `net.Dial` takes it: a number or the name of a service. -/
structure Port where
  text : List Char
  plain : text.all (fun c => c.isAlphanum || c == '-') = true

/-- `<IPv4 address>:<port>`. -/
def address (ip : IPv4) (port : Port) : String := String.ofList (ip.text ++ ':' :: port.text)

def OnLoopback (p : IPPacket) : Prop := p.iifname = loopback

def FromMaster (ip : IPv4) (p : IPPacket) : Prop := p.proto = .ipv4 ∧ p.source = some ip.bytes

/-- TCP to port 22. -/
def ToSSH (p : IPPacket) : Prop := p.l4proto = some 6 ∧ p.dport = some [0, 22]

/-- The packets that are to get through. -/
def Wanted (ip : IPv4) (p : IPPacket) : Prop := OnLoopback p ∨ FromMaster ip p ∨ ToSSH p

instance (p : IPPacket) : Decidable (OnLoopback p) :=
  inferInstanceAs (Decidable (p.iifname = loopback))

instance (ip : IPv4) (p : IPPacket) : Decidable (FromMaster ip p) :=
  inferInstanceAs (Decidable (p.proto = .ipv4 ∧ p.source = some ip.bytes))

instance (p : IPPacket) : Decidable (ToSSH p) :=
  inferInstanceAs (Decidable (p.l4proto = some 6 ∧ p.dport = some [0, 22]))

instance (ip : IPv4) (p : IPPacket) : Decidable (Wanted ip p) :=
  inferInstanceAs (Decidable (OnLoopback p ∨ FromMaster ip p ∨ ToSSH p))

/-! ## What is flushed -/

theorem colon_not_mem_octetText (n : UInt8) : ':' ∉ octetText n := by
  intro h
  have hdigit := Nat.isDigit_of_mem_toDigits (by decide) (by decide) h
  exact absurd hdigit (by decide)

theorem colon_not_mem_text (ip : IPv4) : ':' ∉ ip.text := by
  simp [IPv4.text, colon_not_mem_octetText]

theorem Port.not_mem (port : Port) {c : Char} (h : (c.isAlphanum || c == '-') = false) :
    c ∉ port.text := by
  intro hmem
  have hc := List.all_eq_true.mp port.plain c hmem
  rw [h] at hc
  cases hc

theorem split_address (ip : IPv4) (port : Port) :
    split ':' (address ip port) = [String.ofList ip.text, String.ofList port.text] := by
  rw [split, address, String.toList_ofList,
    List.splitOn_append_cons_self_of_not_mem (colon_not_mem_text ip),
    List.splitOn_eq_singleton (port.not_mem (by decide))]
  rfl

theorem parseIP_port (port : Port) : parseIP (String.ofList port.text) = none := by
  rw [parseIP, split, String.toList_ofList,
    List.splitOn_eq_singleton (port.not_mem (by decide))]
  rfl

/-- The second part of the address is the port, and a port is no IP. -/
theorem firewallCommands_address (ip : IPv4) (port : Port) :
    firewallCommands (address ip port) = some (commands []) := by
  rw [firewallCommands, split_address]
  show some (commands (to4 (parseIP (String.ofList port.text)))) = _
  rw [parseIP_port]
  rfl

theorem commit_refused (before : Ruleset) : before.commit .refused (commands []) = before := rfl

/-- A batch that is taken replaces the ruleset. -/
theorem commit_taken {k : EmptyCmp} (hk : k ≠ .refused) (before : Ruleset) :
    before.commit k (commands []) =
      { tables := [filterTable]
        chains := [{ inputChain with rules := [loopbackRule, masterRule [], sshRule] }] } := by
  cases k with
  | refused => exact absurd rfl hk
  | holds => rfl
  | fails => rfl

/-! ## What the rules let in -/

section
variable (k : EmptyCmp) (p : IPPacket)

theorem loopbackRule_acceptsIff : AcceptsIff k p loopbackRule (OnLoopback p) := by
  rw [OnLoopback, ← found_iifname (k := k) p (by decide : 0 ∉ loopback),
    ← and_true (Found k _ _)]
  refine acceptsIff_cmp (fun _ => rfl) (fun bytes hbytes => ?_) (acceptsIff_verdict k p)
  have hshort := p.iifname_short
  have hregister : (p.iifname ++ List.replicate (16 - p.iifname.length) 0).length = 16 := by
    rw [List.length_append, List.length_replicate]
    omega
  cases hbytes
  rw [hregister]
  decide

/-- The rule loads four bytes of the header, whatever the protocol, and
compares them with its data. -/
theorem masterRule_acceptsIff {data : Nft.Bytes} (hlen : data.length ≤ 4) :
    AcceptsIff k p (masterRule data) (Found k data (bytesAt 12 4 p.network)) := by
  rw [← and_true (Found k _ _)]
  refine acceptsIff_cmp (fun _ => rfl) (fun bytes hbytes => ?_) (acceptsIff_verdict k p)
  rw [length_of_bytesAt hbytes]
  exact hlen

theorem sshRule_acceptsIff : AcceptsIff k p sshRule (ToSSH p) := by
  have hproto : ∀ bytes, MetaKey.l4proto.read p = some bytes → bytes.length = 1 := by
    intro bytes hbytes
    obtain ⟨n, -, rfl⟩ := Option.map_eq_some_iff.mp hbytes
    rfl
  have hport : ∀ bytes, p.dport = some bytes → bytes.length = 2 := by
    intro bytes hbytes
    obtain ⟨t, -, ht⟩ := Option.bind_eq_some_iff.mp hbytes
    exact length_of_bytesAt ht
  have hcond : ToSSH p ↔
      Found k [6] (MetaKey.l4proto.read p) ∧ Found k [0, 22] p.dport ∧ True := by
    rw [ToSSH, found_eq (by decide) hproto, found_eq (by decide) hport, and_true, MetaKey.read]
    refine and_congr_left fun _ => ?_
    cases p.l4proto with
    | none => simp
    | some n => simp
  rw [hcond]
  refine acceptsIff_cmp (fun _ => rfl) (fun bytes hbytes => (hproto bytes hbytes).ge) ?_
  exact acceptsIff_cmp (fun _ => rfl) (fun bytes hbytes => (hport bytes hbytes).ge)
    (acceptsIff_verdict k p)

/-- The three rules before the policy. -/
theorem inputChain_accepts {data : Nft.Bytes} (hlen : data.length ≤ 4) :
    Chain.accepts k { inputChain with rules := [loopbackRule, masterRule data, sshRule] } p = true ↔
      OnLoopback p ∨ Found k data (bytesAt 12 4 p.network) ∨ ToSSH p := by
  have hpolicy : ∀ regs, evalRules k p .drop regs [] = .accept ↔ False :=
    fun _ => iff_of_false (by simp [evalRules]) id
  have hssh := evalRules_cons (sshRule_acceptsIff k p) hpolicy
  have hmaster := evalRules_cons (masterRule_acceptsIff k p hlen) hssh
  have hloopback := evalRules_cons (loopbackRule_acceptsIff k p) hmaster
  rw [Chain.accepts, beq_iff_eq]
  refine (hloopback _).trans ?_
  rw [or_false]

end

/-- What gets through after `SetupFirewall`. -/
theorem setupRuleset_accepts (k : EmptyCmp) (before : Ruleset) (ip : IPv4) (port : Port)
    (p : IPPacket) :
    (setupRuleset k (address ip port) before).accepts k p = true ↔
      match k with
      | .refused => before.accepts .refused p = true
      | .holds => True
      | .fails => OnLoopback p ∨ ToSSH p := by
  rw [setupRuleset, firewallCommands_address]
  dsimp only
  have hfound : Found k [] (bytesAt 12 4 p.network) ↔ k = .holds := by
    rw [found_nil, bytesAt_network p (by decide)]
    exact and_iff_right rfl
  have htaken : k ≠ .refused → ((before.commit k (commands [])).accepts k p = true ↔
      OnLoopback p ∨ k = .holds ∨ ToSSH p) := by
    intro hk
    rw [commit_taken hk, Ruleset.accepts, ← hfound, ← inputChain_accepts k p (by decide)]
    simp [inputChain, filterTable, Family.sees]
  cases k with
  | refused => rw [commit_refused]
  | holds =>
    rw [htaken (by decide)]
    simp
  | fails =>
    rw [htaken (by decide)]
    simp

/-- The firewall decides as it should exactly where the rules that were there
before do, if its own are refused; a master rule that always holds lets
everything in, and one that never does locks the master out. -/
theorem firewall_exact_iff (k : EmptyCmp) (before : Ruleset) (ip : IPv4) (port : Port)
    (p : IPPacket) :
    ((setupRuleset k (address ip port) before).accepts k p = true ↔ Wanted ip p) ↔
      match k with
      | .refused => (before.accepts .refused p = true ↔ Wanted ip p)
      | .holds => Wanted ip p
      | .fails => FromMaster ip p → OnLoopback p ∨ ToSSH p := by
  rw [setupRuleset_accepts]
  cases k with
  | refused => exact Iff.rfl
  | holds =>
    dsimp only
    rw [true_iff]
  | fails =>
    dsimp only
    rw [Wanted]
    constructor
    · exact fun h hmaster => h.mpr (.inr (.inl hmaster))
    · intro h
      constructor
      · exact fun hrules => hrules.imp_right .inr
      · rintro (hlo | hmaster | hssh)
        · exact .inl hlo
        · exact h hmaster
        · exact .inr hssh

/-- A header of a packet from the address, as far as it is read. -/
def headerFrom (ip : IPv4) : Nft.Bytes := List.replicate 12 0 ++ ip.bytes ++ [0, 0, 0, 0]

/-- A packet that arrives from outside. -/
def packetFrom (ip : IPv4) (l4proto : UInt8) (dport : UInt8 × UInt8) : IPPacket where
  iifname := [101, 116, 104, 48] -- "eth0"
  proto := .ipv4
  network := headerFrom ip
  l4proto := some l4proto
  transport := some [0, 53, dport.1, dport.2]
  iifname_short := by decide
  iifname_text := by decide
  header := Nat.le_refl 20

def demoMaster : IPv4 := ⟨10, 0, 0, 1⟩

/-- "49149" -/
def demoPort : Port where
  text := ['4', '9', '1', '4', '9']
  plain := by decide

/-- With the master at 10.0.0.1:49149 and no rules before, a datagram of a
stranger gets in; if the empty comparison never holds, the master does not. -/
theorem firewall_misjudges :
    ((setupRuleset .refused (address demoMaster demoPort) {}).accepts .refused
        (packetFrom ⟨192, 0, 2, 9⟩ 17 (0, 53)) = true ∧
      ¬ Wanted demoMaster (packetFrom ⟨192, 0, 2, 9⟩ 17 (0, 53))) ∧
    (setupRuleset .holds (address demoMaster demoPort) {}).accepts .holds
        (packetFrom ⟨192, 0, 2, 9⟩ 17 (0, 53)) = true ∧
    (setupRuleset .fails (address demoMaster demoPort) {}).accepts .fails
        (packetFrom demoMaster 6 (156, 64)) = false ∧
      Wanted demoMaster (packetFrom demoMaster 6 (156, 64)) := by
  refine ⟨⟨(setupRuleset_accepts ..).mpr rfl, by decide⟩, (setupRuleset_accepts ..).mpr trivial,
    ?_, by decide⟩
  rw [Bool.eq_false_iff, Ne, setupRuleset_accepts]
  dsimp only
  decide

end Centralisd.Slave
