import Mathlib.Data.List.Infix
import Ztunnel.Firewall.Nft

/-!
# The nftables backend decides as the rule set

The meaning of a rendered script under nft's rules, and the proof that it decides every filtered
packet as the rule set it was rendered from.

The argument goes through the layers of the renderer. `Renders` is the contract of a rendering
computation: it declares sets under new names only, and what it returns has its meaning in *every*
later table of sets, so that the pieces compose without reopening the naming argument. On top of it
stand the meanings of an address match, of a port group, of one pair of families, of one
combination and of one rule; the clause expansion itself is `Expansion.any_expand`. The chains are
then evaluated with `Netfilter.walk_append`.

One expression does not mean what the rule does: for a combination without addresses ICMP is
rendered as `meta l4proto { icmp, ipv6-icmp }`, which also holds on a packet that carries the ICMP
number of the other family. `IcmpAddressed` excludes it.
-/

namespace Ztunnel.Firewall.Nft

open Netfilter DecisionList

/-! ### The meaning of a script -/

def Proto.number : Proto → L4Proto
  | .tcp => L4Proto.tcp
  | .udp => L4Proto.udp
  | .sctp => L4Proto.sctp
  | .icmp => L4Proto.icmp
  | .ipv6Icmp => L4Proto.ipv6Icmp

/-- The elements of a named set. -/
def lookup (sets : List NamedSet) (name : String) : List IpNet :=
  ((sets.find? (·.name == name)).map (·.elements)).getD []

def AddrSet.contains (sets : List NamedSet) : AddrSet → IpAddr → Bool
  | .single net, ip => net.contains ip
  | .anonymous nets, ip => nets.any (·.contains ip)
  | .named name, ip => (lookup sets name).any (·.contains ip)

def AddrField.read : AddrField → Packet → IpAddr
  | .saddr, pkt => pkt.src
  | .daddr, pkt => pkt.dst

/-- An expression holds on a packet. In a table of family `inet` an `ip` or `ip6` expression holds
on packets of its family only, and `udp dport` and `sctp dport` on packets of that protocol. -/
def Expr.holds (sets : List NamedSet) : Expr → Skb → Bool
  | .ctStateEstablishedRelated, skb => skb.established
  | .iifLo, skb => skb.loopback
  | .oifLo, skb => skb.loopback
  | .metaMark mark, skb => skb.mark == mark
  | .metaSkuid uid, skb => skb.skuid == some uid
  | .metaSkgid gid, skb => skb.skgid == some gid
  | .metaL4protoNe proto, skb => skb.packet.l4proto != proto.number
  | .metaL4proto protos, skb => protos.any fun proto ↦ skb.packet.l4proto == proto.number
  | .ipProtocol proto, skb => skb.packet.isIpv4 && skb.packet.l4proto == proto.number
  | .addr isV4 field nets, skb =>
    skb.packet.isIpv4 == isV4 && nets.contains sets (field.read skb.packet)
  | .dport .th ports, skb => ports.any (·.contains skb.packet.dport)
  | .dport .udp ports, skb =>
    skb.packet.l4proto == L4Proto.udp && ports.any (·.contains skb.packet.dport)
  | .dport .sctp ports, skb =>
    skb.packet.l4proto == L4Proto.sctp && ports.any (·.contains skb.packet.dport)

/-- A line holds when all its expressions do. -/
def Line.holds (sets : List NamedSet) (line : Line) (skb : Skb) : Bool :=
  line.exprs.all (·.holds sets skb)

/-- How many nested jumps the kernel follows. -/
def jumpStackSize : ℕ := 16

/-- The chain hooked for a direction. -/
def policyChainName : Direction → ChainName
  | .inbound => .policyInput
  | .outbound => .policyOutput

/-- What the table decides about a packet at the hook of a direction. -/
def Script.decision (script : Script) (direction : Direction) (skb : Skb) : RuleAction :=
  actionOf (chainVerdict (Line.holds script.sets) Line.target script.chain jumpStackSize
    (policyChainName direction) skb)

/-! ### Set names -/

/-- Sets declared at different counters have different names. -/
theorem setName_injective {m n : ℕ} {b b' : Bool} (h : setName m b = setName n b') : m = n := by
  have hlist := congrArg String.toList h
  simp only [setName, String.toList_append, List.append_assoc] at hlist
  have htail := List.append_cancel_left hlist
  have hdigits : Nat.toDigits 10 m = Nat.toDigits 10 n := by
    rw [← Nat.toList_repr, ← Nat.toList_repr]
    refine List.append_inj_left' htail ?_
    cases b <;> cases b' <;> simp
  simpa using congrArg (Nat.ofDigitChars 10 · 0) hdigits

/-- Every declared set is named after a counter that has been used. -/
def RenderState.WellNumbered (st : RenderState) : Prop :=
  ∀ set ∈ st.sets, ∃ n < st.counter, set.name = setName n set.isV4

theorem RenderState.WellNumbered.find?_next {st : RenderState} (hst : st.WellNumbered)
    (isV4 : Bool) : st.sets.find? (·.name == setName st.counter isV4) = none := by
  rw [List.find?_eq_none]
  intro set hset hname
  obtain ⟨n, hn, hset⟩ := hst set hset
  have := setName_injective (hset.symm.trans (beq_iff_eq.1 hname))
  omega

/-- A set declared under the next name is found in every later table. -/
theorem RenderState.WellNumbered.lookup_next {st : RenderState} (hst : st.WellNumbered)
    {isV4 : Bool} {cidrs : List IpNet} {sets : List NamedSet}
    (hsets : st.sets ++ [⟨setName st.counter isV4, isV4, cidrs⟩] <+: sets) :
    lookup sets (setName st.counter isV4) = cidrs := by
  obtain ⟨more, rfl⟩ := hsets
  simp [lookup, List.find?_append, hst.find?_next]

/-! ### The contract of a rendering computation -/

/-- `r` declares its sets under new names, and what it returns satisfies `Q` in every later table
of sets. -/
def Renders {α : Type} (r : Render α) (Q : List NamedSet → α → Prop) : Prop :=
  ∀ st : RenderState, st.WellNumbered → (r st).2.WellNumbered ∧ st.sets <+: (r st).2.sets ∧
    ∀ sets, (r st).2.sets <+: sets → Q sets (r st).1

namespace Renders

variable {α β : Type} {Q : List NamedSet → α → Prop} {Q' : List NamedSet → β → Prop}

protected theorem pure {a : α} (h : ∀ sets, Q sets a) : Renders (pure a : Render α) Q :=
  fun _ hst ↦ ⟨hst, List.prefix_rfl, fun sets _ ↦ h sets⟩

protected theorem bind {r : Render α} {f : α → Render β} (hr : Renders r Q)
    (hf : ∀ a, Renders (f a) fun sets b ↦ Q sets a → Q' sets b) : Renders (r >>= f) Q' := by
  intro st hst
  obtain ⟨hst₁, hext₁, hQ₁⟩ := hr st hst
  obtain ⟨hst₂, hext₂, hQ₂⟩ := hf (r st).1 (r st).2 hst₁
  exact ⟨hst₂, hext₁.trans hext₂, fun sets hsets ↦ hQ₂ sets hsets (hQ₁ sets (hext₂.trans hsets))⟩

end Renders

/-! ### Addresses -/

theorem AddrField.isIpv4_read (field : AddrField) (pkt : Packet) :
    (field.read pkt).isIpv4 = pkt.isIpv4 := by
  cases field
  · rfl
  · exact pkt.sameFamily.symm

/-- The family test of an address expression is implied by its networks, which are of that
family. -/
theorem family_and_any_contains {nets : List IpNet} {isV4 : Bool}
    (hnets : ∀ net ∈ nets, net.isIpv4 = isV4) (field : AddrField) (pkt : Packet) :
    (pkt.isIpv4 == isV4 && nets.any (·.contains (field.read pkt))) =
      nets.any (·.contains (field.read pkt)) := by
  rw [Bool.eq_iff_iff, Bool.and_eq_true, and_iff_right_iff_imp]
  intro h
  obtain ⟨net, hnet, hc⟩ := List.any_eq_true.1 h
  rw [beq_iff_eq, ← field.isIpv4_read, ← IpNet.isIpv4_eq_of_contains hc, hnets net hnet]

/-- The part of a line that an address group contributes holds where the group matches. -/
theorem renders_renderIpMatch {cidrs : List IpNet} {isV4 : Bool}
    (hcidrs : ∀ net ∈ cidrs, net.isIpv4 = isV4) (field : AddrField) (skb : Skb) :
    Renders (renderIpMatch cidrs field isV4) fun sets part ↦
      part.toList.all (·.holds sets skb) = matchesIps cidrs (field.read skb.packet) := by
  -- whatever set the expression names, it has the elements of the group
  have hexpr : ∀ (sets : List NamedSet) (nets : AddrSet), cidrs ≠ [] →
      nets.contains sets (field.read skb.packet) =
        cidrs.any (·.contains (field.read skb.packet)) →
      [Expr.addr isV4 field nets].all (·.holds sets skb) =
        matchesIps cidrs (field.read skb.packet) := by
    intro sets nets hne hnets
    simp only [List.all_cons, List.all_nil, Bool.and_true, Expr.holds, hnets,
      family_and_any_contains hcidrs]
    simp [matchesIps, hne]
  unfold renderIpMatch
  split
  · exact Renders.pure fun _ ↦ rfl
  · exact Renders.pure fun sets ↦ hexpr sets _ (List.cons_ne_nil _ _) (by simp [AddrSet.contains])
  · next hnil _ =>
    split
    · intro st hst
      refine ⟨?_, List.prefix_append _ _, fun sets hsets ↦ hexpr sets _ hnil ?_⟩
      · intro set hset
        rcases List.mem_append.1 hset with hset | hset
        · obtain ⟨n, hn, hname⟩ := hst set hset
          exact ⟨n, Nat.lt_succ_of_lt hn, hname⟩
        · rw [List.mem_singleton.1 hset]
          exact ⟨st.counter, Nat.lt_succ_self _, rfl⟩
      · rw [AddrSet.contains, hst.lookup_next hsets]
    · exact Renders.pure fun sets ↦ hexpr sets _ hnil rfl

/-- The networks of a family group are of its family. -/
theorem isIpv4_of_mem_familyGroups {cidrs : List IpNet} {g : Bool × List IpNet}
    (hg : g ∈ familyGroups cidrs) : ∀ net ∈ g.2, net.isIpv4 = g.1 := by
  unfold familyGroups groupByFamily at hg
  intro net hnet
  split at hg
  · rw [List.mem_singleton.1 hg] at hnet
    simp at hnet
  · simp only [List.mem_append, List.mem_ite_nil_left, List.mem_singleton] at hg
    rcases hg with ⟨-, rfl⟩ | ⟨-, rfl⟩
    · exact (List.mem_filter.1 hnet).2
    · simpa using (List.mem_filter.1 hnet).2

/-- **The split into families loses nothing.** -/
theorem any_familyGroups (cidrs : List IpNet) (ip : IpAddr) :
    ((familyGroups cidrs).any fun g ↦ matchesIps g.2 ip) = matchesIps cidrs ip := by
  unfold familyGroups groupByFamily
  rcases cidrs with - | ⟨net, nets⟩
  · rfl
  · generalize hcidrs : net :: nets = cidrs
    have hne : cidrs.isEmpty = false := by simp [← hcidrs]
    have hgroup : ∀ (isV4 : Bool) (group : List IpNet),
        ((if group.isEmpty then [] else [(isV4, group)]).any
          fun g : Bool × List IpNet ↦ matchesIps g.2 ip) = group.any (·.contains ip) := by
      intro isV4 group
      rcases group with - | ⟨net, nets⟩ <;> simp [matchesIps]
    simp only [hne, Bool.false_eq_true, if_false, List.any_append, hgroup, List.any_filter]
    rw [matchesIps, hne, Bool.false_or, Bool.eq_iff_iff]
    simp only [Bool.or_eq_true, List.any_eq_true, Bool.and_eq_true]
    constructor
    · rintro (⟨n, hn, -, hc⟩ | ⟨n, hn, -, hc⟩) <;> exact ⟨n, hn, hc⟩
    · rintro ⟨n, hn, hc⟩
      rcases hf : n.isIpv4
      · exact .inr ⟨n, hn, by simp [hf], hc⟩
      · exact .inl ⟨n, hn, hf, hc⟩

/-! ### Port groups -/

/-- **The expressions of a port group mean the group**, for a packet of the family the addresses
ask for and, where there are no addresses, unless ICMP meets the ICMP number of the other
family. -/
theorem all_renderPortGroup {group : PortGroup} {effectiveIsV4 : Option Bool}
    {sets : List NamedSet} {skb : Skb}
    (hfamily : ∀ isV4, effectiveIsV4 = some isV4 → skb.packet.isIpv4 = isV4)
    (hicmp : effectiveIsV4 = none → group.protocol = .icmp → skb.packet.isForeignIcmp = false) :
    (renderPortGroup group effectiveIsV4).all (·.holds sets skb) =
      group.matchesPacket skb.packet := by
  obtain ⟨protocol, ports⟩ := group
  cases protocol with
  | nonTcp =>
    rcases ports with - | ⟨range, ports⟩
    · simp [renderPortGroup, PortGroup.matchesPacket, Expr.holds, Packet.isTcp, Proto.number, bne]
    · simp [renderPortGroup, PortGroup.matchesPacket, Expr.holds, Proto.number]
  | udp | sctp =>
    rcases ports with - | ⟨range, ports⟩ <;>
      simp [renderPortGroup, PortGroup.matchesPacket, Expr.holds, Proto.number, matchesPorts]
  | icmp =>
    rcases effectiveIsV4 with - | (_ | _)
    · have hforeign := hicmp rfl rfl
      unfold Packet.isForeignIcmp at hforeign
      cases h4 : skb.packet.isIpv4 <;> simp_all [renderPortGroup, PortGroup.matchesPacket,
        Expr.holds, Proto.number, Packet.isIcmp, Packet.familyIcmp]
    · simp [renderPortGroup, PortGroup.matchesPacket, Expr.holds, Proto.number, Packet.isIcmp,
        Packet.familyIcmp, hfamily false rfl]
    · simp [renderPortGroup, PortGroup.matchesPacket, Expr.holds, Proto.number, Packet.isIcmp,
        Packet.familyIcmp, hfamily true rfl]

/-! ### Lines of a rule -/

/-- Lines that stand for a condition, in a table of sets. -/
abbrev LinesIn (t : Target ChainName) (skb : Skb) (b : Bool) (sets : List NamedSet)
    (lines : List Line) : Prop :=
  LinesFor (Line.holds sets) Line.target t skb b lines

section Lines

variable {t : Target ChainName} {skb : Skb}

/-- A loop renders the disjunction of what its rounds render. -/
theorem renders_renderAll {α : Type} {f : α → Render (List Line)} {b : α → Bool} {as : List α}
    (h : ∀ a ∈ as, Renders (f a) (LinesIn t skb (b a))) :
    Renders (renderAll f as) (LinesIn t skb (as.any b)) := by
  induction as with
  | nil => exact Renders.pure fun _ ↦ ⟨by simp, rfl⟩
  | cons a as ih =>
    have ih := ih fun a ha ↦ h a (List.mem_cons_of_mem _ ha)
    refine (h a List.mem_cons_self).bind fun lines ↦ ih.bind fun rest ↦ Renders.pure ?_
    intro sets hrest hlines
    exact hlines.append hrest

/-- A non-empty group of networks that matches fixes the family of the packet. -/
theorem isIpv4_of_matchesIps {nets : List IpNet} {isV4 : Bool} (field : AddrField) {pkt : Packet}
    (hnets : ∀ net ∈ nets, net.isIpv4 = isV4) (hne : nets ≠ [])
    (h : matchesIps nets (field.read pkt) = true) : pkt.isIpv4 = isV4 := by
  simp only [matchesIps, List.isEmpty_eq_false_iff.2 hne, Bool.false_or] at h
  rw [← family_and_any_contains hnets, Bool.and_eq_true] at h
  exact beq_iff_eq.1 h.1

/-- One pair of address groups. A pair of different families is skipped, and no packet is of
both. -/
theorem renders_renderFamilyPair {comment : String} {groups : List PortGroup}
    {src dst : Bool × List IpNet} (hsrc : ∀ net ∈ src.2, net.isIpv4 = src.1)
    (hdst : ∀ net ∈ dst.2, net.isIpv4 = dst.1)
    (hicmp : src.2 = [] → dst.2 = [] → ∀ group ∈ groups, group.protocol = .icmp →
      skb.packet.isForeignIcmp = false) :
    Renders (renderFamilyPair t comment groups src dst) (LinesIn t skb
      (matchesIps src.2 skb.packet.src &&
        (matchesIps dst.2 skb.packet.dst && groups.any (·.matchesPacket skb.packet)))) := by
  have hsrc4 : src.2 ≠ [] → matchesIps src.2 skb.packet.src = true →
      skb.packet.isIpv4 = src.1 :=
    fun hne h ↦ isIpv4_of_matchesIps .saddr hsrc hne h
  have hdst4 : dst.2 ≠ [] → matchesIps dst.2 skb.packet.dst = true →
      skb.packet.isIpv4 = dst.1 :=
    fun hne h ↦ isIpv4_of_matchesIps .daddr hdst hne h
  unfold renderFamilyPair
  split
  · next hskip =>
    simp only [Bool.and_eq_true, Bool.not_eq_true', List.isEmpty_eq_false_iff, bne_iff_ne] at hskip
    obtain ⟨⟨hs, hd⟩, hne⟩ := hskip
    refine Renders.pure fun sets ↦ ⟨by simp, ?_⟩
    rcases hms : matchesIps src.2 skb.packet.src
    · rfl
    rcases hmd : matchesIps dst.2 skb.packet.dst
    · rfl
    exact absurd ((hsrc4 hs hms).symm.trans (hdst4 hd hmd)) hne
  · refine (renders_renderIpMatch hsrc .saddr skb).bind fun srcPart ↦
      (renders_renderIpMatch hdst .daddr skb).bind fun dstPart ↦ Renders.pure ?_
    intro sets hdstPart hsrcPart
    refine ⟨fun line hline ↦ ?_, ?_⟩
    · obtain ⟨group, -, rfl⟩ := List.mem_map.1 hline
      rfl
    · rw [List.any_map, ← Bool.and_assoc]
      simp only [Function.comp_def, Line.holds, List.all_append, hsrcPart, hdstPart,
        AddrField.read]
      rcases hms : matchesIps src.2 skb.packet.src
      · simp
      rcases hmd : matchesIps dst.2 skb.packet.dst
      · simp
      -- both address groups match: the port groups decide, for the family they fix
      simp only [Bool.true_and]
      refine Expansion.any_congr_mem fun group hgroup ↦ all_renderPortGroup ?_ ?_
      · intro isV4 heff
        by_cases hs : src.2 = []
        · by_cases hd : dst.2 = []
          · simp [hs, hd] at heff
          · rw [hdst4 hd hmd]
            simpa [hs, hd] using heff
        · rw [hsrc4 hs hms]
          simpa [hs] using heff
      · intro heff hproto
        have hs : src.2 = [] := by
          by_contra hs
          simp [hs] at heff
        have hd : dst.2 = [] := by
          by_contra hd
          simp [hs, hd] at heff
        exact hicmp hs hd group hgroup hproto

end Lines

/-! ### Combinations and rules -/

/-- What a combination asks of a packet. -/
def NftFlatMatch.matchesPacket (flat : NftFlatMatch) (pkt : Packet) : Bool :=
  matchesIps flat.sourceIps pkt.src &&
    (matchesIps flat.destIps pkt.dst && flat.portGroups.any (·.matchesPacket pkt))

/-- A combination that lists ICMP has an address. -/
def NftFlatMatch.IcmpAddressed (flat : NftFlatMatch) : Prop :=
  (∃ group ∈ flat.portGroups, group.protocol = .icmp) → flat.sourceIps ≠ [] ∨ flat.destIps ≠ []

theorem familyGroups_eq_nil {cidrs : List IpNet} {g : Bool × List IpNet}
    (hg : g ∈ familyGroups cidrs) (h : g.2 = []) : cidrs = [] := by
  unfold familyGroups groupByFamily at hg
  split at hg
  · next hempty => exact List.isEmpty_iff.1 hempty
  · simp only [List.mem_append, List.mem_ite_nil_left, List.mem_singleton] at hg
    rcases hg with ⟨hne, rfl⟩ | ⟨hne, rfl⟩ <;> exact absurd (List.isEmpty_iff.2 h) hne

/-- A match is free in a combination when it replaces nothing there. -/
structure NftFlatMatch.Free (existing : NftFlatMatch) (m : FirewallMatch) : Prop where
  source : m.sourceIps = [] ∨ existing.sourceIps = []
  dest : m.destIps = [] ∨ existing.destIps = []
  ports : m.noPortRestriction = true ∨ existing.portGroups = NftFlatMatch.start.portGroups

/-- Where one of two address lists is empty, the list that is kept asks for both. -/
theorem matchesIps_ite {nets nets' : List IpNet} (h : nets = [] ∨ nets' = []) (ip : IpAddr) :
    matchesIps (if nets.isEmpty then nets' else nets) ip =
      (matchesIps nets' ip && matchesIps nets ip) := by
  rcases h with rfl | rfl
  · simp [matchesIps]
  · rcases nets with - | ⟨net, nets⟩ <;> simp [matchesIps]

/-- Adding a match that is free is a conjunction, on packets other than TCP. -/
theorem NftFlatMatch.matchesPacket_add {existing : NftFlatMatch} {m : FirewallMatch} {pkt : Packet}
    (hfree : existing.Free m) (htcp : pkt.isTcp = false) :
    (existing.add m).matchesPacket pkt =
      (existing.matchesPacket pkt && m.matchesPacket pkt) := by
  have hports : (existing.add m).portGroups.any (·.matchesPacket pkt) =
      (existing.portGroups.any (·.matchesPacket pkt) && matchesGroups m.portGroups pkt) := by
    rcases hm : m.noPortRestriction
    · rcases hfree.ports with h | h
      · simp [hm] at h
      · simp [add, hm, h, matchesGroups_of_portRestriction hm, start, PortGroup.matchesPacket, htcp]
    · simp [add, hm, matchesGroups_of_noPortRestriction hm, htcp]
  rw [matchesPacket, hports, add, matchesIps_ite hfree.source, matchesIps_ite hfree.dest,
    matchesPacket, FirewallMatch.matchesPacket]
  ac_rfl

/-- What is independent of an added match stays free. -/
theorem NftFlatMatch.Free.add {existing : NftFlatMatch} {m m' : FirewallMatch}
    (hfree : existing.Free m') (hindep : m.Independent m') : (existing.add m).Free m' where
  source := by
    rcases hfree.source with h | h
    · exact .inl h
    · refine hindep.source.symm.imp_right fun hm ↦ ?_
      simp [NftFlatMatch.add, hm, h]
  dest := by
    rcases hfree.dest with h | h
    · exact .inl h
    · refine hindep.dest.symm.imp_right fun hm ↦ ?_
      simp [NftFlatMatch.add, hm, h]
  ports := by
    rcases hfree.ports with h | h
    · exact .inl h
    · refine hindep.ports.symm.imp_right fun hm ↦ ?_
      simp [NftFlatMatch.add, hm, h]

theorem NftFlatMatch.matchesPacket_of_isTcp (flat : NftFlatMatch) {pkt : Packet}
    (h : pkt.isTcp = true) : flat.matchesPacket pkt = false := by
  have hgroups : flat.portGroups.any (·.matchesPacket pkt) = false :=
    List.any_eq_false.2 fun group _ ↦ by simp [group.matchesPacket_of_isTcp h]
  simp [matchesPacket, hgroups]

/-- **The combinations of a rule together mean the rule**, and never a TCP packet. -/
theorem any_flattenClauses {rule : FirewallRule} (hindep : rule.Independent) (pkt : Packet) :
    (flattenClauses rule.clauses).any (·.matchesPacket pkt) =
      (!pkt.isTcp && rule.matchesPacket pkt) := by
  rcases htcp : pkt.isTcp
  · have hstart : NftFlatMatch.start.matchesPacket pkt = true := by
      simp [NftFlatMatch.matchesPacket, NftFlatMatch.start, matchesIps, PortGroup.matchesPacket,
        htcp]
    rw [flattenClauses, Expansion.any_expand (·.matchesPacket pkt) (·.matchesPacket pkt)
      NftFlatMatch.Free FirewallMatch.Independent ?_ ?_ ?_ hindep, hstart]
    · rfl
    · intro existing m hfree
      simp [NftFlatMatch.matchesPacket_add hfree htcp]
    · intro existing m m' hfree hm f' hf'
      rw [List.mem_singleton.1 hf']
      exact hfree.add hm
    · exact fun m ↦ ⟨.inr rfl, .inr rfl, .inr rfl⟩
  · exact List.any_eq_false.2 fun flat _ ↦ by simp [flat.matchesPacket_of_isTcp htcp]

section Rule

variable {t : Target ChainName} {skb : Skb} {comment : String}

theorem renders_renderFlatMatch {flat : NftFlatMatch}
    (hicmp : skb.packet.isForeignIcmp = false ∨ flat.IcmpAddressed) :
    Renders (renderFlatMatch t comment flat)
      (LinesIn t skb (flat.matchesPacket skb.packet)) := by
  have hpair : ∀ src ∈ familyGroups flat.sourceIps, ∀ dst ∈ familyGroups flat.destIps,
      src.2 = [] → dst.2 = [] → ∀ group ∈ flat.portGroups, group.protocol = .icmp →
      skb.packet.isForeignIcmp = false := by
    intro src hsrc dst hdst hs hd group hgroup hproto
    rcases hicmp with h | h
    · exact h
    · rcases h ⟨group, hgroup, hproto⟩ with h | h
      · exact absurd (familyGroups_eq_nil hsrc hs) h
      · exact absurd (familyGroups_eq_nil hdst hd) h
  have hany : flat.matchesPacket skb.packet =
      (familyGroups flat.sourceIps).any fun src ↦ (familyGroups flat.destIps).any fun dst ↦
        matchesIps src.2 skb.packet.src && (matchesIps dst.2 skb.packet.dst &&
          flat.portGroups.any (·.matchesPacket skb.packet)) := by
    rw [Expansion.any_any_and, any_familyGroups, any_familyGroups, NftFlatMatch.matchesPacket]
  rw [hany]
  exact renders_renderAll fun src hsrc ↦ renders_renderAll fun dst hdst ↦
    renders_renderFamilyPair (isIpv4_of_mem_familyGroups hsrc) (isIpv4_of_mem_familyGroups hdst)
      (hpair src hsrc dst hdst)

/-- **The lines of a rule mean the rule.** -/
theorem renders_renderRuleWithAction {rule : FirewallRule} (hindep : rule.Independent)
    (hicmp : skb.packet.isForeignIcmp = false ∨
      ∀ flat ∈ flattenClauses rule.clauses, flat.IcmpAddressed) :
    Renders (renderRuleWithAction rule t)
      (LinesIn t skb (fires rule skb)) := by
  rw [fires, ← any_flattenClauses hindep]
  exact renders_renderAll fun flat hflat ↦
    renders_renderFlatMatch (hicmp.imp_right fun h ↦ h flat hflat)

end Rule

/-! ### Chains -/

/-- A packet for which the rules mean what their lines do: it does not carry the ICMP number of the
other family, or every combination that lists ICMP has an address. -/
def IcmpExact (rules : List FirewallRule) (pkt : Packet) : Prop :=
  pkt.isForeignIcmp = false ∨
    ∀ rule ∈ rules, ∀ flat ∈ flattenClauses rule.clauses, flat.IcmpAddressed

/-- Lines that decide as rules do, in a table of sets. -/
abbrev DecidesIn (toTarget : RuleAction → Target ChainName) (skb : Skb) (rules : List FirewallRule)
    (sets : List NamedSet) (lines : List Line) : Prop :=
  Decides (Line.holds sets) Line.target toTarget skb rules lines

section Chains

variable {skb : Skb} {pkt : Packet} {ruleset : RuleSet}

/-- A list of rules with the promise of the control plane, and a packet they mean exactly. -/
structure Renderable (rules : List FirewallRule) (pkt : Packet) : Prop where
  independent : ∀ rule ∈ rules, rule.Independent
  icmp : IcmpExact rules pkt

theorem Renderable.head {rule : FirewallRule} {rules : List FirewallRule}
    (h : Renderable (rule :: rules) pkt) : rule.Independent ∧ (pkt.isForeignIcmp = false ∨
      ∀ flat ∈ flattenClauses rule.clauses, flat.IcmpAddressed) :=
  ⟨h.independent rule List.mem_cons_self, h.icmp.imp_right fun h ↦ h rule List.mem_cons_self⟩

theorem Renderable.of_mem {rules rules' : List FirewallRule} (h : Renderable rules pkt)
    (hsub : ∀ rule ∈ rules', rule ∈ rules) : Renderable rules' pkt :=
  ⟨fun rule hr ↦ h.independent rule (hsub rule hr),
    h.icmp.imp_right fun h rule hr ↦ h rule (hsub rule hr)⟩

theorem IcmpExact.renderable_rules (h : IcmpExact (ruleset.inlineRules ++ ruleset.rules) pkt)
    (hindep : ruleset.Independent) : Renderable ruleset.rules pkt :=
  ⟨hindep.workload, h.imp_right fun h rule hr ↦ h rule (List.mem_append_right _ hr)⟩

theorem IcmpExact.renderable_inlineRules (h : IcmpExact (ruleset.inlineRules ++ ruleset.rules) pkt)
    (hindep : ruleset.Independent) : Renderable ruleset.inlineRules pkt :=
  ⟨hindep.inline, h.imp_right fun h rule hr ↦ h rule (List.mem_append_left _ hr)⟩

theorem renders_renderAll_renderRule {rules : List FirewallRule}
    (h : Renderable rules skb.packet) :
    Renders (renderAll renderRule rules) (DecidesIn workloadTarget skb rules) := by
  induction rules with
  | nil => exact Renders.pure fun _ ↦ .nil
  | cons rule rules ih =>
    have ih := ih (h.of_mem fun _ ↦ List.mem_cons_of_mem _)
    exact (renders_renderRuleWithAction h.head.1 h.head.2).bind fun lines ↦
      ih.bind fun rest ↦ Renders.pure fun sets hrest hlines ↦
        .cons workloadTarget_ne_jump hlines hrest

/-- The inline rules: each chain gets the lines of the rules of its direction. -/
theorem renders_renderInline {rules : List FirewallRule} (h : Renderable rules skb.packet) :
    Renders (renderInline rules) fun sets lines ↦
      DecidesIn inlineTarget skb (rules.filter (·.direction == .inbound)) sets lines.1 ∧
      DecidesIn inlineTarget skb (rules.filter (·.direction == .outbound)) sets lines.2 := by
  induction rules with
  | nil => exact Renders.pure fun _ ↦ ⟨.nil, .nil⟩
  | cons rule rules ih =>
    have ih := ih (h.of_mem fun _ ↦ List.mem_cons_of_mem _)
    refine (renders_renderRuleWithAction h.head.1 h.head.2).bind fun lines ↦
      ih.bind fun rest ↦ Renders.pure fun sets hrest hlines ↦ ?_
    cases hdir : rule.direction
    · rw [List.filter_cons_of_pos (by simp [hdir]), List.filter_cons_of_neg (by simp [hdir])]
      exact ⟨.cons inlineTarget_ne_jump hlines hrest.1, hrest.2⟩
    · rw [List.filter_cons_of_neg (by simp [hdir]), List.filter_cons_of_pos (by simp [hdir])]
      exact ⟨hrest.1, .cons inlineTarget_ne_jump hlines hrest.2⟩

/-- The lines of all four chains, each for the rules of its stage and direction. -/
theorem renders_renderRules (hrules : Renderable ruleset.rules skb.packet)
    (hinline : Renderable ruleset.inlineRules skb.packet) :
    Renders (renderRules ruleset) fun sets lines ↦
      DecidesIn workloadTarget skb (ordered ruleset.rules .inbound) sets lines.1 ∧
      DecidesIn workloadTarget skb (ordered ruleset.rules .outbound) sets lines.2.1 ∧
      DecidesIn inlineTarget skb (ordered ruleset.inlineRules .inbound) sets lines.2.2.1 ∧
      DecidesIn inlineTarget skb (ordered ruleset.inlineRules .outbound) sets lines.2.2.2 := by
  have hordered : ∀ direction, Renderable (ordered ruleset.rules direction) skb.packet :=
    fun direction ↦ hrules.of_mem fun rule hr ↦
      List.mem_of_mem_filter (mem_sortByKey.1 hr)
  have hsorted := hinline.of_mem
    fun rule (hr : rule ∈ sortByKey FirewallRule.priority ruleset.inlineRules) ↦ mem_sortByKey.1 hr
  refine (renders_renderAll_renderRule (hordered .inbound)).bind fun inbound ↦
    (renders_renderAll_renderRule (hordered .outbound)).bind fun outbound ↦
    (renders_renderInline hsorted).bind fun inline ↦ Renders.pure ?_
  intro sets hinl hout hin
  rw [filter_sortByKey, filter_sortByKey] at hinl
  exact ⟨hin, hout, hinl.1, hinl.2⟩

/-- None of the exemptions of a policy chain holds on a filtered packet. -/
theorem holds_bypassLines {backend : NftBackend} {direction : Direction} {sets : List NamedSet}
    (h : skb.Filtered backend.proxyMark direction) :
    ∀ line ∈ backend.bypassLines direction, line.holds sets skb = false := by
  intro line hline
  cases direction with
  | inbound =>
    simp only [NftBackend.bypassLines, List.mem_cons, List.not_mem_nil, or_false] at hline
    rcases hline with rfl | rfl
    · simp [Line.holds, Expr.holds, h.new]
    · simp [Line.holds, Expr.holds, h.remote]
  | outbound =>
    have hproxy := h.notProxy rfl
    simp only [NftBackend.bypassLines, List.cons_append, List.nil_append, List.mem_cons] at hline
    rcases hline with rfl | rfl | hline
    · simp [Line.holds, Expr.holds, h.new]
    · simp [Line.holds, Expr.holds, h.remote]
    · rcases hmark : backend.proxyMark with - | mark
      · simp only [hmark, Skb.sentByProxy, Bool.or_eq_false_iff] at hproxy
        simp only [hmark, List.mem_cons, List.not_mem_nil, or_false] at hline
        rcases hline with rfl | rfl
        · simp [Line.holds, Expr.holds, hproxy.1]
        · simp [Line.holds, Expr.holds, hproxy.2]
      · simp only [hmark, Skb.sentByProxy] at hproxy
        simp only [hmark, List.mem_singleton] at hline
        simp [hline, Line.holds, Expr.holds, hproxy]

/-- **The script decides as the rule set.** -/
theorem decision_script {backend : NftBackend} {direction : Direction}
    (hfiltered : skb.Filtered backend.proxyMark direction)
    (hrules : Renderable ruleset.rules skb.packet)
    (hinline : Renderable ruleset.inlineRules skb.packet) :
    (backend.script ruleset).decision direction skb =
      ruleset.decision direction skb.packet := by
  have hempty : RenderState.WellNumbered { counter := 0, sets := [] } := by
    simp [RenderState.WellNumbered]
  obtain ⟨-, -, hlines⟩ := renders_renderRules hrules hinline _ hempty
  obtain ⟨hin, hout, hinlineIn, hinlineOut⟩ := hlines _ List.prefix_rfl
  have hne : ∀ sets target, Line.holds sets ⟨[.metaL4protoNe .tcp], target, none⟩ skb =
      !skb.packet.isTcp := by
    intro sets target
    simp [Line.holds, Expr.holds, Proto.number, Packet.isTcp, bne]
  cases direction with
  | inbound =>
    refine twoStage_decision 14 rfl (fun h ↦ ?_) (holds_bypassLines hfiltered) ⟨hne _ _, rfl⟩
      ⟨hne _ _, rfl⟩ hin hinlineIn
    simp only [NftBackend.script, Script.chain, inlineChain, h]
    rfl
  | outbound =>
    refine twoStage_decision 14 rfl (fun h ↦ ?_) (holds_bypassLines hfiltered) ⟨hne _ _, rfl⟩
      ⟨hne _ _, rfl⟩ hout hinlineOut
    simp only [NftBackend.script, Script.chain, inlineChain, h]
    rfl

end Chains

/-! ### The rendered firewall -/

/-- **nft rendering preserves the firewall.** For a rule set whose rules have independent clauses,
the script decides every filtered packet by two stages of first match in stable priority order, and
never rejects TCP; a packet that carries the ICMP number of the other family is excepted where a
combination lists ICMP without an address. -/
theorem nft_script_preserves_ruleset {backend : NftBackend} {ruleset : RuleSet}
    {direction : Direction} {skb : Skb} (hindep : ruleset.Independent)
    (hfiltered : skb.Filtered backend.proxyMark direction)
    (hicmp : IcmpExact (ruleset.inlineRules ++ ruleset.rules) skb.packet) :
    (backend.script ruleset).decision direction skb =
      if skb.packet.isTcp then .allow
      else if stageVerdict ruleset.inlineRules direction skb.packet = some .deny then .deny
      else (stageVerdict ruleset.rules direction skb.packet).getD
        (if ruleset.policyAttached then .deny else .allow) := by
  rw [decision_script hfiltered (hicmp.renderable_rules hindep)
    (hicmp.renderable_inlineRules hindep), RuleSet.decision_eq]

/-- A workload rule that denies inbound ICMP from anywhere. -/
def denyIcmp : RuleSet where
  inlineRules := []
  rules := [⟨"deny-icmp", .deny, .inbound, 0, [[⟨[], [], [⟨.icmp, []⟩]⟩]]⟩]
  policyAttached := false

/-- An IPv4 packet that carries the protocol number of ICMPv6. -/
def icmpv6InIpv4 : Skb where
  packet := ⟨.v4 0x0a000001, .v4 0x0a000002, rfl, L4Proto.ipv6Icmp, 0⟩
  established := false
  loopback := false
  mark := 0
  skuid := none
  skgid := none
  ctOrigDport := 0
  ctDirOriginal := true

/-- The script rejects ICMPv6 inside IPv4 under a rule that denies ICMP. -/
theorem nft_script_rejects_foreign_icmp :
    denyIcmp.Independent ∧ icmpv6InIpv4.Filtered none .inbound ∧
      ((NftBackend.mk none).script denyIcmp).decision .inbound icmpv6InIpv4 = .deny ∧
      denyIcmp.decision .inbound icmpv6InIpv4.packet = .allow := by
  refine ⟨⟨by simp [denyIcmp], ?_⟩, ⟨rfl, rfl, by simp⟩, by decide, by decide⟩
  simp [denyIcmp, FirewallRule.Independent]

/-- DNS passes the inline stage; of one network, ICMP is denied and UDP allowed, the latter by two
clauses. -/
def mixedRules : RuleSet where
  inlineRules := [⟨"inline", .allow, .inbound, 0, [[⟨[], [], [⟨.nonTcp, [⟨53, 53⟩]⟩]⟩]]⟩]
  rules := [⟨"deny-icmp", .deny, .inbound, 1, [[⟨[.v4 0x0a000000 8], [], [⟨.icmp, []⟩]⟩]]⟩,
    ⟨"dns", .allow, .inbound, 0, [[⟨[.v4 0x0a000000 8], [], []⟩], [⟨[], [], [⟨.udp, []⟩]⟩]]⟩]
  policyAttached := true

theorem mixedRules_independent : mixedRules.Independent := by
  constructor
  · simp [mixedRules, FirewallRule.Independent]
  · intro rule hr
    simp only [mixedRules, List.mem_cons, List.not_mem_nil, or_false] at hr
    rcases hr with rfl | rfl
    · simp [FirewallRule.Independent]
    · simp only [FirewallRule.Independent, List.pairwise_cons, List.mem_singleton, forall_eq,
        List.not_mem_nil, false_imp_iff, implies_true, List.Pairwise.nil, and_true]
      exact ⟨.inr rfl, .inl rfl, .inl rfl⟩

/-- A rule set with an ICMP rule, on ICMP of the other family: the script rejects by default. -/
theorem nft_script_preserves_mixedRules :
    ((NftBackend.mk none).script mixedRules).decision .inbound icmpv6InIpv4 = .deny := by
  have hicmp : IcmpExact (mixedRules.inlineRules ++ mixedRules.rules) icmpv6InIpv4.packet := by
    refine .inr ?_
    simp only [mixedRules, List.cons_append, List.nil_append, List.forall_mem_cons,
      NftFlatMatch.IcmpAddressed]
    decide
  rw [nft_script_preserves_ruleset mixedRules_independent ⟨rfl, rfl, by simp⟩ hicmp]
  decide

end Ztunnel.Firewall.Nft
