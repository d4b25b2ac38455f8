import Ztunnel.Firewall.Ipt
import Ztunnel.Firewall.NftCorrect
import Ztunnel.Lib.NextFit

/-!
# The iptables backend decides as the rule set

The meaning of a rendered script: `iptables-restore --noflush` runs its lines on the table as it
was before, and the chains that result filter IPv4 packets. A packet is decided as the rule set
decides it, whatever the table held before.

The clause expansion is `Expansion.any_expand` again, here with a refinement that multiplies
addresses and port chunks out; the chains are evaluated by `twoStage_decision`, as for nftables. The
two backends therefore agree on IPv4 packets wherever the nft script means its rule set exactly.

The loop that cuts a port list into chunks is next-fit packing into bins of fifteen entries
(`chunkLoop_eq`), which is why the chunks have the ranges of the list and no chunk is too long.
-/

namespace Ztunnel.Firewall.Ipt

open Netfilter DecisionList NextFit

/-! ### The meaning of a script -/

def ProtoFlag.holds : ProtoFlag → Packet → Bool
  | .notTcp, pkt => !pkt.isTcp
  | .udp, pkt => pkt.l4proto == L4Proto.udp
  | .sctp, pkt => pkt.l4proto == L4Proto.sctp
  | .icmp, pkt => pkt.l4proto == L4Proto.icmp

def PortSuffix.holds : PortSuffix → UInt16 → Bool
  | .empty, _ => true
  | .dport range, port => range.contains port
  | .multiport ranges, port => ranges.any (·.contains port)

def Cond.holds : Cond → Skb → Bool
  | .ctEstablishedRelated, skb => skb.established
  | .inLo, skb => skb.loopback
  | .outLo, skb => skb.loopback
  | .mark value, skb => skb.mark == value
  | .uidOwner uid, skb => skb.skuid == some uid
  | .gidOwner gid, skb => skb.skgid == some gid
  | .ctOrigDstPort port, skb => skb.ctOrigDport == port && skb.ctDirOriginal
  | .source net, skb => net.contains skb.packet.src
  | .dest net, skb => net.contains skb.packet.dst
  | .proto flag, skb => flag.holds skb.packet
  | .ports suffix, skb => suffix.holds skb.packet.dport

/-- A line holds when all its conditions do. -/
def Line.holds (line : Line) (skb : Skb) : Bool := line.conds.all (·.holds skb)

/-- The chains of the table. A chain that is not there yet is empty. -/
abbrev Table := ChainName → List Line

/-- What a line of the script does to the table. Declaring a chain that exists empties it. -/
def exec (table : Table) : Command → Table
  | .declare chain => Function.update table chain []
  | .flush chain => Function.update table chain []
  | .append chain line => Function.update table chain (table chain ++ [line])
  | .filterTable => table
  | .commit => table

/-- `iptables-restore --noflush`. -/
def restore (table : Table) (script : List Command) : Table := script.foldl exec table

/-- How deep jumps can nest: a table has room for each of its chains. -/
def jumpDepth : ℕ := 4

/-- What the table decides about a packet at the hook of a direction. -/
def Table.decision (table : Table) (direction : Direction) (skb : Skb) : RuleAction :=
  actionOf (chainVerdict Line.holds Line.target table jumpDepth (filterChain direction) skb)

/-! ### Port lists -/

/-- The ranges of a suffix. -/
def PortSuffix.ranges : PortSuffix → List PortRange
  | .empty => []
  | .dport range => [range]
  | .multiport ranges => ranges

theorem ranges_formatPortSuffix (ranges : List PortRange) :
    (formatPortSuffix ranges).ranges = ranges := by
  rcases ranges with - | ⟨range, - | ⟨range', ranges⟩⟩ <;> rfl

theorem holds_formatPortSuffix {ranges : List PortRange} (port : UInt16) :
    (formatPortSuffix ranges).holds port = ranges.any (·.contains port) := by
  rcases ranges with - | ⟨range, - | ⟨range', ranges⟩⟩
  · rfl
  · simp [formatPortSuffix, PortSuffix.holds]
  · rfl

theorem portWeight_le (range : PortRange) : portWeight range ≤ 2 := by
  unfold portWeight
  split <;> decide

/-- The loop packs the ranges into suffixes. -/
theorem chunkLoop_eq (ranges chunk : List PortRange) :
    chunkLoop ranges chunk (load portWeight chunk) =
      (nextFit portWeight 15 ranges chunk).map formatPortSuffix := by
  induction ranges generalizing chunk with
  | nil =>
    rw [chunkLoop, nextFit]
    simp only [List.isEmpty_iff]
    split_ifs
    · rfl
    · rfl
  | cons range ranges ih =>
    rw [chunkLoop, nextFit]
    have hfull : (!chunk.isEmpty && load portWeight chunk + portWeight range > 15) = true ↔
        chunk ≠ [] ∧ 15 < load portWeight chunk + portWeight range := by
      rw [Bool.and_eq_true, Bool.not_eq_true', List.isEmpty_eq_false_iff, decide_eq_true_eq]
    by_cases h : chunk ≠ [] ∧ 15 < load portWeight chunk + portWeight range
    · rw [if_pos (hfull.2 h), if_pos h, List.map_cons, ← ih, load_singleton]
    · rw [if_neg (hfull.not.2 h), if_neg h, ← ih, load_concat]

theorem renderPortSuffixes_eq {ports : List PortRange} (h : 2 ≤ ports.length) :
    renderPortSuffixes ports = (nextFit portWeight 15 ports []).map formatPortSuffix := by
  rcases ports with - | ⟨range, - | ⟨range', ports⟩⟩
  · exact absurd h (by decide)
  · exact absurd h (Nat.not_succ_le_self 1)
  · exact chunkLoop_eq (range :: range' :: ports) []

/-- **Cutting a port list into chunks loses nothing.** -/
theorem any_renderPortSuffixes (port : UInt16) (ports : List PortRange) :
    (renderPortSuffixes ports).any (·.holds port) = matchesPorts ports port := by
  rcases ports with - | ⟨range, - | ⟨range', ports⟩⟩
  · rfl
  · simp [renderPortSuffixes, PortSuffix.holds, matchesPorts]
  · have hlength : 2 ≤ (range :: range' :: ports).length := by
      rw [List.length_cons, List.length_cons]
      omega
    rw [renderPortSuffixes_eq hlength, List.any_map]
    simp only [Function.comp_def, holds_formatPortSuffix]
    rw [← List.any_flatten, flatten_nextFit, List.nil_append]
    rfl

/-- **Multiport chunking.** The suffixes for at least two ranges have exactly these ranges, each in
one piece and in their order. A suffix has a range at least, and the ranges of one suffix take at
most the fifteen entries of a multiport match, where a single port counts once and a range twice. -/
theorem port_suffixes_chunked {ports : List PortRange} (h : 2 ≤ ports.length) :
    (renderPortSuffixes ports).flatMap PortSuffix.ranges = ports ∧
    ∀ suffix ∈ renderPortSuffixes ports, suffix.ranges ≠ [] ∧
      (suffix.ranges.map fun range ↦ if range.start = range.stop then 1 else 2).sum ≤ 15 := by
  rw [renderPortSuffixes_eq h]
  refine ⟨?_, fun suffix hsuffix ↦ ?_⟩
  · rw [List.flatMap_def, List.map_map]
    simp only [Function.comp_def, ranges_formatPortSuffix, List.map_id']
    exact flatten_nextFit ports []
  · obtain ⟨chunk, hchunk, rfl⟩ := List.mem_map.1 hsuffix
    rw [ranges_formatPortSuffix]
    have hweight : (fun range : PortRange ↦ if range.start = range.stop then 1 else 2) =
        portWeight := by
      funext range
      simp only [portWeight, beq_iff_eq]
    rw [hweight]
    have hranges : ∀ range ∈ ports, portWeight range ≤ 15 := fun range _ ↦
      (portWeight_le range).trans (by decide)
    have hopen : load portWeight [] ≤ 15 := Nat.zero_le 15
    exact ⟨ne_nil_of_mem_nextFit hchunk, load_le_of_mem_nextFit hranges hopen hchunk⟩

/-- Nine ranges, of which the eighth does not fit any more. -/
def wideRanges : List PortRange := (List.range 9).map fun i ↦
  ⟨UInt16.ofNat (1000 * i), UInt16.ofNat (1000 * i + 5)⟩

theorem port_suffixes_chunked_wideRanges :
    (renderPortSuffixes wideRanges).map (·.ranges.length) = [7, 2] ∧
    (renderPortSuffixes wideRanges).flatMap PortSuffix.ranges = wideRanges :=
  ⟨by decide, (@port_suffixes_chunked wideRanges (by decide)).1⟩

/-- A protocol flag with a port suffix. -/
def pairHolds (pkt : Packet) (p : ProtoFlag × PortSuffix) : Bool :=
  p.1.holds pkt && p.2.holds pkt.dport

theorem any_map_pairHolds (pkt : Packet) (flag : ProtoFlag) (ports : List PortRange) :
    ((renderPortSuffixes ports).map (flag, ·)).any (pairHolds pkt) =
      (flag.holds pkt && matchesPorts ports pkt.dport) := by
  rw [List.any_map, ← any_renderPortSuffixes]
  cases h : flag.holds pkt <;> simp [pairHolds, h, Function.comp_def]

/-- The pairs of a port group hold where the group does, on IPv4 packets. -/
theorem any_expandPortGroup (group : PortGroup) {pkt : Packet} (h4 : pkt.isIpv4 = true) :
    (expandPortGroup group).any (pairHolds pkt) = group.matchesPacket pkt := by
  obtain ⟨protocol, ports⟩ := group
  cases protocol with
  | nonTcp =>
    rcases ports with - | ⟨range, ports⟩
    · simp [expandPortGroup, PortGroup.matchesPacket, pairHolds, ProtoFlag.holds, PortSuffix.holds]
    · simp only [expandPortGroup, List.isEmpty_cons, Bool.false_eq_true, if_false, List.any_append,
        any_map_pairHolds, ProtoFlag.holds, PortGroup.matchesPacket, matchesPorts, Bool.false_or,
        Bool.and_or_distrib_right]
  | udp | sctp =>
    simp only [expandPortGroup, any_map_pairHolds, PortGroup.matchesPacket, ProtoFlag.holds]
  | icmp =>
    simp [expandPortGroup, PortGroup.matchesPacket, pairHolds, ProtoFlag.holds, PortSuffix.holds,
      Packet.isIcmp, Packet.familyIcmp, h4]

theorem any_expandPortGroups (groups : List PortGroup) {pkt : Packet} (h4 : pkt.isIpv4 = true) :
    (expandPortGroups groups).any (pairHolds pkt) = groups.any (·.matchesPacket pkt) := by
  rw [expandPortGroups, List.any_flatMap]
  exact Expansion.any_congr_mem fun group _ ↦ any_expandPortGroup group h4

/-! ### Combinations and rules -/

/-- What a combination asks of a packet. -/
def FlatMatch.matchesPacket (flat : FlatMatch) (pkt : Packet) : Bool :=
  flat.source.all (·.contains pkt.src) &&
    (flat.dest.all (·.contains pkt.dst) && pairHolds pkt (flat.proto, flat.suffix))

/-- A match is free in a combination when it replaces nothing there. -/
structure FlatMatch.Free (existing : FlatMatch) (m : FirewallMatch) : Prop where
  source : m.sourceIps = [] ∨ existing.source = none
  dest : m.destIps = [] ∨ existing.dest = none
  ports : m.noPortRestriction = true ∨ (existing.proto, existing.suffix) = (.notTcp, .empty)

/-- Multiplying a combination with addresses, where it has none or none come in. -/
theorem any_expandIps {ips : List IpNet} {existing : Option IpNet} (h : ips = [] ∨ existing = none)
    (ip : IpAddr) :
    ((expandIps ips existing).any fun net ↦ net.all (·.contains ip)) =
      (existing.all (·.contains ip) && matchesIps ips ip) := by
  rcases h with rfl | rfl
  · simp [expandIps, matchesIps]
  · rcases ips with - | ⟨net, ips⟩ <;> simp [expandIps, matchesIps, Function.comp_def]

/-- Adding a match that is free is a conjunction, on IPv4 packets other than TCP. -/
theorem FlatMatch.any_add {existing : FlatMatch} {m : FirewallMatch} {pkt : Packet}
    (hfree : existing.Free m) (htcp : pkt.isTcp = false) (h4 : pkt.isIpv4 = true) :
    (existing.add m).any (·.matchesPacket pkt) =
      (existing.matchesPacket pkt && m.matchesPacket pkt) := by
  have hports : ((if m.noPortRestriction then [(existing.proto, existing.suffix)]
      else expandPortGroups m.portGroups).any (pairHolds pkt)) =
      (pairHolds pkt (existing.proto, existing.suffix) && matchesGroups m.portGroups pkt) := by
    rcases hm : m.noPortRestriction
    · rcases hfree.ports with h | h
      · simp [hm] at h
      · rw [if_neg (by simp), any_expandPortGroups _ h4, h, matchesGroups_of_portRestriction hm]
        simp [pairHolds, ProtoFlag.holds, PortSuffix.holds, htcp]
    · simp [matchesGroups_of_noPortRestriction hm, htcp]
  -- the three loops multiply out
  have hloops : (existing.add m).any (·.matchesPacket pkt) =
      ((expandIps m.sourceIps existing.source).any (·.all (·.contains pkt.src)) &&
        ((expandIps m.destIps existing.dest).any (·.all (·.contains pkt.dst)) &&
          (if m.noPortRestriction then [(existing.proto, existing.suffix)]
            else expandPortGroups m.portGroups).any (pairHolds pkt))) := by
    rw [← Expansion.any_any_and]
    simp only [add, List.any_flatMap, List.any_map]
    refine Expansion.any_congr_mem fun src _ ↦ Expansion.any_congr_mem fun dst _ ↦ ?_
    rw [Expansion.and_any, Expansion.and_any]
    rfl
  rw [hloops, any_expandIps hfree.source, any_expandIps hfree.dest, hports, matchesPacket,
    FirewallMatch.matchesPacket]
  ac_rfl

/-- What is independent of an added match stays free. -/
theorem FlatMatch.Free.add {existing : FlatMatch} {m m' : FirewallMatch}
    (hfree : existing.Free m') (hindep : m.Independent m') :
    ∀ flat ∈ existing.add m, flat.Free m' := by
  intro flat hflat
  simp only [FlatMatch.add, List.mem_flatMap, List.mem_map] at hflat
  obtain ⟨src, hsrc, dst, hdst, ⟨proto, suffix⟩, hpair, rfl⟩ := hflat
  refine ⟨?_, ?_, ?_⟩
  · rcases hfree.source with h | h
    · exact .inl h
    · refine hindep.source.symm.imp_right fun hm ↦ ?_
      simpa [expandIps, hm, h] using hsrc
  · rcases hfree.dest with h | h
    · exact .inl h
    · refine hindep.dest.symm.imp_right fun hm ↦ ?_
      simpa [expandIps, hm, h] using hdst
  · rcases hfree.ports with h | h
    · exact .inl h
    · refine hindep.ports.symm.imp_right fun hm ↦ ?_
      simpa only [hm, if_true, h, List.mem_singleton] using hpair

theorem FlatMatch.matchesPacket_of_isTcp {flat : FlatMatch} {pkt : Packet} (h : pkt.isTcp = true) :
    flat.matchesPacket pkt = false := by
  have hproto : pkt.l4proto = L4Proto.tcp := by simpa [Packet.isTcp] using h
  have hflag : flat.proto.holds pkt = false := by
    cases flat.proto
    · simp [ProtoFlag.holds, h]
    all_goals
      rw [ProtoFlag.holds, hproto]
      decide
  simp [matchesPacket, pairHolds, hflag]

/-- **The combinations of a rule together mean the rule**, on IPv4 packets. -/
theorem any_flattenClauses {rule : FirewallRule} (hindep : rule.Independent) {skb : Skb}
    (h4 : skb.packet.isIpv4 = true) :
    (flattenClauses rule.clauses).any (·.matchesPacket skb.packet) = fires rule skb := by
  rcases htcp : skb.packet.isTcp
  · have hstart : FlatMatch.start.matchesPacket skb.packet = true := by
      simp [FlatMatch.matchesPacket, FlatMatch.start, pairHolds, ProtoFlag.holds, PortSuffix.holds,
        htcp]
    rw [flattenClauses, Expansion.any_expand (·.matchesPacket skb.packet)
      (·.matchesPacket skb.packet) FlatMatch.Free FirewallMatch.Independent ?_ ?_ ?_ hindep, hstart,
      fires, htcp]
    · rfl
    · exact fun existing m hfree ↦ FlatMatch.any_add hfree htcp h4
    · exact fun existing m m' hfree hm ↦ hfree.add hm
    · exact fun m ↦ ⟨.inr rfl, .inr rfl, .inr rfl⟩
  · rw [fires, htcp]
    exact List.any_eq_false.2 fun flat _ ↦ by simp [FlatMatch.matchesPacket_of_isTcp htcp]

/-- A combination that is skipped matches no IPv4 packet. -/
theorem FlatMatch.not_isIpv6 {flat : FlatMatch} {pkt : Packet} (h4 : pkt.isIpv4 = true)
    (h : flat.matchesPacket pkt = true) : flat.isIpv6 = false := by
  have hdst : pkt.dst.isIpv4 = true := pkt.sameFamily ▸ h4
  simp only [matchesPacket, Bool.and_eq_true] at h
  rw [isIpv6, Bool.or_eq_false_iff]
  constructor
  · rcases hs : flat.source with - | net
    · rfl
    · have := IpNet.isIpv4_eq_of_contains (n := net) (by simpa [hs] using h.1)
      simp [this, show pkt.src.isIpv4 = true from h4]
  · rcases hd : flat.dest with - | net
    · rfl
    · have := IpNet.isIpv4_eq_of_contains (n := net) (by simpa [hd] using h.2.1)
      simp [this, hdst]

theorem FlatMatch.holds_line (flat : FlatMatch) (target : Target ChainName) (skb : Skb) :
    (flat.line target).holds skb = flat.matchesPacket skb.packet := by
  obtain ⟨source, dest, proto, suffix⟩ := flat
  have hsuffix : ((if suffix = .empty then [] else [Cond.ports suffix]).all (·.holds skb)) =
      suffix.holds skb.packet.dport := by
    split
    · next h => simp [h, PortSuffix.holds]
    · simp [Cond.holds]
  simp only [Line.holds, line, List.all_append, hsuffix, matchesPacket, pairHolds, Bool.and_assoc]
  rcases source with - | src <;> rcases dest with - | dst <;> simp [Cond.holds]

/-- **The lines of a rule mean the rule.** -/
theorem linesFor_renderRuleInChain {rule : FirewallRule} (hindep : rule.Independent) {skb : Skb}
    (h4 : skb.packet.isIpv4 = true) (t : Target ChainName) :
    LinesFor Line.holds Line.target t skb (fires rule skb) (renderRuleInChain rule t) where
  target_eq := by
    intro line hline
    obtain ⟨flat, -, rfl⟩ := List.mem_map.1 hline
    rfl
  any_holds := by
    rw [← any_flattenClauses hindep h4, renderRuleInChain, List.any_map, List.any_filter]
    refine Expansion.any_congr_mem fun flat _ ↦ ?_
    rw [Function.comp_apply, flat.holds_line]
    rcases h : flat.matchesPacket skb.packet
    · simp
    · simp [FlatMatch.not_isIpv6 h4 h]

/-- A block of rules in order. -/
theorem decides_flatMap {rules : List FirewallRule} {skb : Skb}
    {toTarget : RuleAction → Target ChainName} (hjump : ∀ a c, toTarget a ≠ .jump c)
    (hindep : ∀ rule ∈ rules, rule.Independent) (h4 : skb.packet.isIpv4 = true) :
    Decides Line.holds Line.target toTarget skb rules
      (rules.flatMap fun rule ↦ renderRuleInChain rule (toTarget rule.action)) := by
  induction rules with
  | nil => exact .nil
  | cons rule rules ih =>
    have hrule := linesFor_renderRuleInChain (hindep rule List.mem_cons_self) h4
      (toTarget rule.action)
    exact .cons hjump hrule (ih fun rule hr ↦ hindep rule (List.mem_cons_of_mem _ hr))

/-! ### Chains -/

/-- The lines that go to a chain. -/
def linesOf (chain : ChainName) (appends : List (ChainName × Line)) : List Line :=
  (appends.filter (·.1 == chain)).map Prod.snd

theorem linesOf_append (chain : ChainName) (as bs : List (ChainName × Line)) :
    linesOf chain (as ++ bs) = linesOf chain as ++ linesOf chain bs := by
  simp [linesOf]

/-- Rules that each go to a chain of their own: a chain gets the lines of its rules. -/
theorem linesOf_flatMap (chain : ChainName) (chainOf : FirewallRule → ChainName)
    (lines : FirewallRule → List Line) (rules : List FirewallRule) :
    linesOf chain (rules.flatMap fun rule ↦ (lines rule).map (chainOf rule, ·)) =
      (rules.filter (chainOf · == chain)).flatMap lines := by
  induction rules with
  | nil => rfl
  | cons rule rules ih =>
    rw [List.flatMap_cons, linesOf_append, ih]
    rcases h : chainOf rule == chain
    · simp [linesOf, List.filter_map, Function.comp_def, h]
    · simp [linesOf, List.filter_map, Function.comp_def, h]

theorem restore_concat (table : Table) (script script' : List Command) :
    restore table (script ++ script') = restore (restore table script) script' :=
  List.foldl_append

theorem restore_append (appends : List (ChainName × Line)) (table : Table) (chain : ChainName) :
    restore table (appends.map fun (chain, line) ↦ .append chain line) chain =
      table chain ++ linesOf chain appends := by
  induction appends generalizing table with
  | nil => simp [restore, linesOf]
  | cons a appends ih =>
    obtain ⟨chain', line⟩ := a
    rw [List.map_cons, restore, List.foldl_cons, ← restore, ih]
    by_cases h : chain' = chain
    · subst h
      simp [exec, linesOf]
    · have hne : chain ≠ chain' := Ne.symm h
      simp [exec, linesOf, h, hne]

/-- What the script leaves in a chain that it empties first is what it appends there. -/
theorem restore_script (backend : IptBackend) (ruleset : RuleSet) (table : Table)
    {chain : ChainName} (hchain : chain = .filterIn ∨ chain = .filterOut ∨
      ruleset.inlineRules.isEmpty = false) :
    restore table (backend.script ruleset) chain =
      linesOf chain (backend.appends ruleset) := by
  rw [IptBackend.script, restore_concat, restore_concat,
    show ∀ table, restore table [.commit] = table from fun _ ↦ rfl, restore_append]
  rcases hempty : ruleset.inlineRules.isEmpty
  · cases chain <;> simp [restore, exec]
  · rcases hchain with rfl | rfl | h
    · simp [restore, exec]
    · simp [restore, exec]
    · simp [hempty] at h

/-- The lines in front of the inline jump of a policy chain. -/
def IptBackend.bypassLines (backend : IptBackend) (direction : Direction) : List Line :=
  match direction with
  | .inbound => [⟨[.ctEstablishedRelated], .accept⟩, ⟨[.inLo], .accept⟩]
  | .outbound => [⟨[.ctEstablishedRelated], .accept⟩, ⟨[.outLo], .accept⟩] ++
      linesOf .filterOut backend.proxyLines

theorem filterChain_beq (rule : FirewallRule) (direction : Direction) :
    (filterChain rule.direction == filterChain direction) = (rule.direction == direction) := by
  cases rule.direction <;> cases direction <;> rfl

theorem inlineChain_beq (rule : FirewallRule) (direction : Direction) :
    (inlineChain rule.direction == inlineChain direction) = (rule.direction == direction) := by
  cases rule.direction <;> cases direction <;> rfl

theorem filterChain_ne_inlineChain (d d' : Direction) :
    (filterChain d == inlineChain d') = false ∧ (inlineChain d' == filterChain d) = false := by
  cases d <;> cases d' <;> exact ⟨rfl, rfl⟩

/-- The policy chain of a direction, in the form of `twoStage_decision`. -/
theorem linesOf_filterChain (backend : IptBackend) (ruleset : RuleSet) (direction : Direction) :
    linesOf (filterChain direction) (backend.appends ruleset) =
      backend.bypassLines direction ++
        (if ruleset.inlineRules.isEmpty then []
          else [⟨[.proto .notTcp], .jump (inlineChain direction)⟩]) ++
        ((ordered ruleset.rules direction).flatMap fun rule ↦
          renderRuleInChain rule (workloadTarget rule.action)) ++
        (if ruleset.policyAttached then [⟨[.proto .notTcp], .reject⟩] else []) := by
  have hworkload : linesOf (filterChain direction)
      ((sortByKey FirewallRule.priority ruleset.rules).flatMap renderRule) =
      (ordered ruleset.rules direction).flatMap fun rule ↦
        renderRuleInChain rule (workloadTarget rule.action) := by
    unfold renderRule
    rw [linesOf_flatMap, ordered, ← filter_sortByKey]
    simp only [filterChain_beq]
  have hinline : linesOf (filterChain direction)
      ((sortByKey FirewallRule.priority ruleset.inlineRules).flatMap renderInlineRule) = [] := by
    unfold renderInlineRule
    rw [linesOf_flatMap]
    simp [filterChain_ne_inlineChain]
  rw [IptBackend.appends, linesOf_append, linesOf_append, linesOf_append, linesOf_append, hworkload]
  congr 1
  · congr 1
    congr 1
    · cases direction
      · rcases hmark : backend.proxyMark with - | mark
        · simp [IptBackend.bypassLines, IptBackend.proxyLines, hmark, linesOf, filterChain]
        · rcases hdns : backend.dnsProxy <;>
            simp [IptBackend.bypassLines, IptBackend.proxyLines, hmark, hdns, linesOf, filterChain]
      · simp [IptBackend.bypassLines, linesOf, filterChain]
    · split
      · rfl
      · rw [linesOf_append, hinline]
        cases direction <;> rfl
  · split
    · cases direction <;> rfl
    · rfl

theorem linesOf_inlineChain (backend : IptBackend) {ruleset : RuleSet} (direction : Direction)
    (hne : ruleset.inlineRules.isEmpty = false) :
    linesOf (inlineChain direction) (backend.appends ruleset) =
      (ordered ruleset.inlineRules direction).flatMap fun rule ↦
        renderRuleInChain rule (inlineTarget rule.action) := by
  have hinline : linesOf (inlineChain direction)
      ((sortByKey FirewallRule.priority ruleset.inlineRules).flatMap renderInlineRule) =
      (ordered ruleset.inlineRules direction).flatMap fun rule ↦
        renderRuleInChain rule (inlineTarget rule.action) := by
    unfold renderInlineRule
    rw [linesOf_flatMap, ordered, ← filter_sortByKey]
    simp only [inlineChain_beq]
  have hworkload : linesOf (inlineChain direction)
      ((sortByKey FirewallRule.priority ruleset.rules).flatMap renderRule) = [] := by
    unfold renderRule
    rw [linesOf_flatMap]
    simp [filterChain_ne_inlineChain]
  have hproxy : linesOf (inlineChain direction) backend.proxyLines = [] := by
    unfold IptBackend.proxyLines
    rcases backend.proxyMark with - | mark
    · cases direction <;> rfl
    · rcases backend.dnsProxy <;> cases direction <;> rfl
  have htail : linesOf (inlineChain direction) (if ruleset.policyAttached then
      [(.filterIn, ⟨[.proto .notTcp], .reject⟩), (.filterOut, ⟨[.proto .notTcp], .reject⟩)]
      else []) = [] := by
    rcases ruleset.policyAttached <;> cases direction <;> rfl
  rw [IptBackend.appends, linesOf_append, linesOf_append, linesOf_append, linesOf_append, hworkload,
    hproxy, htail, hne, if_neg (by simp), linesOf_append, hinline]
  cases direction <;> simp [linesOf, inlineChain]

/-- None of the exemptions of a policy chain holds on a filtered packet, with the DNS bypass
off. -/
theorem holds_bypassLines {backend : IptBackend} {direction : Direction} {skb : Skb}
    (hdns : backend.dnsProxy = false) (h : skb.Filtered backend.proxyMark direction) :
    ∀ line ∈ backend.bypassLines direction, line.holds skb = false := by
  intro line hline
  cases direction with
  | inbound =>
    simp only [IptBackend.bypassLines, List.mem_cons, List.not_mem_nil, or_false] at hline
    rcases hline with rfl | rfl
    · simp [Line.holds, Cond.holds, h.new]
    · simp [Line.holds, Cond.holds, h.remote]
  | outbound =>
    have hproxy := h.notProxy rfl
    simp only [IptBackend.bypassLines, List.cons_append, List.nil_append, List.mem_cons] at hline
    rcases hline with rfl | rfl | hline
    · simp [Line.holds, Cond.holds, h.new]
    · simp [Line.holds, Cond.holds, h.remote]
    · rcases hmark : backend.proxyMark with - | mark
      · simp only [hmark, Skb.sentByProxy, Bool.or_eq_false_iff] at hproxy
        simp only [IptBackend.proxyLines, hmark, linesOf, List.mem_map, List.mem_filter] at hline
        obtain ⟨⟨chain, l⟩, ⟨hmem, -⟩, rfl⟩ := hline
        simp only [List.mem_cons, Prod.mk.injEq, List.not_mem_nil, or_false] at hmem
        rcases hmem with ⟨-, rfl⟩ | ⟨-, rfl⟩
        · simp [Line.holds, Cond.holds, hproxy.1]
        · simp [Line.holds, Cond.holds, hproxy.2]
      · simp only [hmark, Skb.sentByProxy] at hproxy
        simp only [IptBackend.proxyLines, hmark, hdns, linesOf, List.mem_map,
          List.mem_filter] at hline
        obtain ⟨⟨chain, l⟩, ⟨hmem, -⟩, rfl⟩ := hline
        simp only [Bool.false_eq_true, if_false, List.append_nil, List.mem_singleton,
          Prod.mk.injEq] at hmem
        obtain ⟨-, rfl⟩ := hmem
        simp [Line.holds, Cond.holds, hproxy]

/-- **The restored table decides as the rule set**, whatever the table held before. -/
theorem decision_restore {backend : IptBackend} {ruleset : RuleSet} {direction : Direction}
    {skb : Skb} (table : Table) (hdns : backend.dnsProxy = false) (hindep : ruleset.Independent)
    (hfiltered : skb.Filtered backend.proxyMark direction) (h4 : skb.packet.isIpv4 = true) :
    Table.decision (restore table (backend.script ruleset)) direction skb =
      ruleset.decision direction skb.packet := by
  have hpolicy : restore table (backend.script ruleset) (filterChain direction) = _ :=
    (restore_script backend ruleset table (by cases direction <;> simp [filterChain])).trans
      (linesOf_filterChain backend ruleset direction)
  have hnotTcp : ∀ target, Line.holds ⟨[.proto .notTcp], target⟩ skb = !skb.packet.isTcp := by
    intro target
    simp [Line.holds, Cond.holds, ProtoFlag.holds]
  have hmem : ∀ {rules : List FirewallRule}, (∀ rule ∈ rules, rule.Independent) →
      ∀ rule ∈ ordered rules direction, rule.Independent :=
    fun h rule hr ↦ h rule (List.mem_of_mem_filter (mem_sortByKey.1 hr))
  refine twoStage_decision 2 hpolicy (fun hne ↦ ?_) (holds_bypassLines hdns hfiltered)
    ⟨hnotTcp _, rfl⟩ ⟨hnotTcp _, rfl⟩
    (decides_flatMap workloadTarget_ne_jump (hmem hindep.workload) h4)
    (decides_flatMap inlineTarget_ne_jump (hmem hindep.inline) h4)
  rw [restore_script backend ruleset table (.inr (.inr hne)),
    linesOf_inlineChain backend direction hne]

/-! ### The rendered firewall -/

/-- **iptables rendering preserves the firewall.** For a rule set whose rules have independent
clauses and with the DNS bypass off, the restored table decides every filtered IPv4 packet by the
two stages of the rule set; and it decides as the nft script does, except for a packet that carries
the number of ICMPv6 where a combination lists ICMP without an address. -/
theorem ipt_script_preserves_ruleset {backend : IptBackend} {ruleset : RuleSet}
    {direction : Direction} {skb : Skb} (table : Table) (hdns : backend.dnsProxy = false)
    (hindep : ruleset.Independent) (hfiltered : skb.Filtered backend.proxyMark direction)
    (h4 : skb.packet.isIpv4 = true) :
    Table.decision (restore table (backend.script ruleset)) direction skb =
        (if skb.packet.isTcp then .allow
        else if stageVerdict ruleset.inlineRules direction skb.packet = some .deny then .deny
        else (stageVerdict ruleset.rules direction skb.packet).getD
          (if ruleset.policyAttached then .deny else .allow)) ∧
      (Nft.IcmpExact (ruleset.inlineRules ++ ruleset.rules) skb.packet →
        Table.decision (restore table (backend.script ruleset)) direction skb =
          ((Nft.NftBackend.mk backend.proxyMark).script ruleset).decision direction skb) := by
  rw [decision_restore table hdns hindep hfiltered h4]
  refine ⟨ruleset.decision_eq direction skb.packet, fun hicmp ↦ ?_⟩
  exact (Nft.decision_script hfiltered (hicmp.renderable_rules hindep)
    (hicmp.renderable_inlineRules hindep)).symm

/-- The backends differ on ICMPv6 inside IPv4 under a rule that denies ICMP. -/
theorem ipt_script_accepts_foreign_icmp :
    Nft.denyIcmp.Independent ∧ Nft.icmpv6InIpv4.Filtered none .inbound ∧
      Nft.icmpv6InIpv4.packet.isIpv4 = true ∧
      Table.decision (restore (fun _ ↦ []) ((IptBackend.mk none false).script Nft.denyIcmp))
        .inbound Nft.icmpv6InIpv4 = .allow ∧
      ((Nft.NftBackend.mk none).script Nft.denyIcmp).decision .inbound Nft.icmpv6InIpv4 =
        .deny := by
  refine ⟨⟨by simp [Nft.denyIcmp], ?_⟩, ⟨rfl, rfl, by simp⟩, rfl, by decide, by decide⟩
  simp [Nft.denyIcmp, FirewallRule.Independent]

/-- The rules of two clauses and the inline stage, on a packet that only the default rejects. -/
theorem ipt_script_preserves_mixedRules :
    Table.decision (restore (fun _ ↦ []) ((IptBackend.mk none false).script Nft.mixedRules))
      .inbound Nft.icmpv6InIpv4 = .deny := by
  rw [(ipt_script_preserves_ruleset _ rfl Nft.mixedRules_independent ⟨rfl, rfl, by simp⟩ rfl).1]
  decide

end Ztunnel.Firewall.Ipt
