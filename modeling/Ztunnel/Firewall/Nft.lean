import Ztunnel.Firewall.Backend

/-!
# The nftables backend

`NftBackend::render_ruleset`: a rule set is rendered as the script of a dedicated table with two
policy chains, two chains for the inline rules when there are any, and named sets for long address
lists.

The script is built as a syntax tree, one constructor for each form of expression the backend
writes, and `Script.text` prints it as the backend does. What differs from the source is only that
the lists of networks inside a script are printed at the end instead of at once; how a network is
printed (`Display` of `ipnet::IpNet`) is a parameter of the printer.

The counter that names the sets is a mutable argument of the source functions, and the declared
sets are collected along with it; both are the state of a state monad here.
-/

namespace Ztunnel.Firewall.Nft

open Netfilter DecisionList

/-! ### Syntax of a script -/

/-- The protocols a script names. -/
inductive Proto where
  | tcp
  | udp
  | sctp
  | icmp
  | ipv6Icmp
deriving DecidableEq, Repr

/-- The address field a match expression reads. -/
inductive AddrField where
  | saddr
  | daddr
deriving DecidableEq, Repr

/-- The right-hand side of an address match. -/
inductive AddrSet where
  | single (net : IpNet)
  | anonymous (nets : List IpNet)
  | named (name : String)
deriving DecidableEq, Repr

/-- The header a `dport` expression reads: any transport header, or that of one protocol. -/
inductive PortHeader where
  | th
  | udp
  | sctp
deriving DecidableEq, Repr

/-- A match expression. -/
inductive Expr where
  | ctStateEstablishedRelated
  | iifLo
  | oifLo
  | metaMark (mark : UInt32)
  | metaSkuid (uid : UInt32)
  | metaSkgid (gid : UInt32)
  | metaL4protoNe (proto : Proto)
  | metaL4proto (protos : List Proto)
  | ipProtocol (proto : Proto)
  | addr (isV4 : Bool) (field : AddrField) (nets : AddrSet)
  | dport (header : PortHeader) (ports : List PortRange)
deriving DecidableEq, Repr

/-- The chains of the table. -/
inductive ChainName where
  | inlineInput
  | inlineOutput
  | policyInput
  | policyOutput
deriving DecidableEq, Repr

/-- One rule of a chain. -/
structure Line where
  exprs : List Expr
  target : Target ChainName
  comment : Option String
deriving DecidableEq, Repr

/-- `NamedSet`. -/
structure NamedSet where
  name : String
  isV4 : Bool
  elements : List IpNet
deriving DecidableEq, Repr

/-- A whole script. The inline chains are there iff there are inline rules. -/
structure Script where
  sets : List NamedSet
  inlineChains : Option (List Line × List Line)
  policyInput : List Line
  policyOutput : List Line
deriving DecidableEq, Repr

/-- The lines of a chain; a chain that is not declared has none. -/
def Script.chain (script : Script) : ChainName → List Line
  | .inlineInput => (script.inlineChains.map Prod.fst).getD []
  | .inlineOutput => (script.inlineChains.map Prod.snd).getD []
  | .policyInput => script.policyInput
  | .policyOutput => script.policyOutput

/-! ### Rendering of one rule -/

/-- `group_by_family`. -/
def groupByFamily (cidrs : List IpNet) : List IpNet × List IpNet :=
  (cidrs.filter (·.isIpv4), cidrs.filter (!·.isIpv4))

/-- `NAMED_SET_THRESHOLD`. -/
def namedSetThreshold : ℕ := 128

/-- `NftFlatMatch`: the conditions of one combination of matches. -/
structure NftFlatMatch where
  sourceIps : List IpNet
  destIps : List IpNet
  portGroups : List PortGroup
deriving DecidableEq, Repr

/-- The combination that the expansion starts from, with the default port group. -/
def NftFlatMatch.start : NftFlatMatch := ⟨[], [], [⟨.nonTcp, []⟩]⟩

/-- Add a match to a combination: a field the match specifies replaces the existing one. -/
def NftFlatMatch.add (existing : NftFlatMatch) (m : FirewallMatch) : NftFlatMatch where
  sourceIps := if m.sourceIps.isEmpty then existing.sourceIps else m.sourceIps
  destIps := if m.destIps.isEmpty then existing.destIps else m.destIps
  portGroups := if m.noPortRestriction then existing.portGroups else m.portGroups

/-- `flatten_clauses`. -/
def flattenClauses (clauses : List (List FirewallMatch)) : List NftFlatMatch :=
  Expansion.expand (fun existing m ↦ [existing.add m]) .start clauses

/-- The counter that names sets, and the sets declared so far. -/
structure RenderState where
  counter : ℕ
  sets : List NamedSet
deriving DecidableEq, Repr

abbrev Render := StateM RenderState

/-- The name of the set declared at counter `n`. -/
def setName (n : ℕ) (isV4 : Bool) : String :=
  "zt_" ++ n.repr ++ "_" ++ if isV4 then "v4" else "v6"

/-- `render_ip_match`. -/
def renderIpMatch (cidrs : List IpNet) (direction : AddrField) (isV4 : Bool) :
    Render (Option Expr) :=
  match cidrs with
  | [] => pure none
  | [net] => pure (some (.addr isV4 direction (.single net)))
  | _ =>
    if cidrs.length > namedSetThreshold then
      fun st ↦
        let name := setName st.counter isV4
        (some (.addr isV4 direction (.named name)),
          { counter := st.counter + 1, sets := st.sets ++ [⟨name, isV4, cidrs⟩] })
    else pure (some (.addr isV4 direction (.anonymous cidrs)))

/-- `render_port_group`: the expressions a port group appends. -/
def renderPortGroup (group : PortGroup) (effectiveIsV4 : Option Bool) : List Expr :=
  match group.protocol with
  | .nonTcp =>
    if group.ports.isEmpty then [.metaL4protoNe .tcp]
    else [.metaL4proto [.udp, .sctp], .dport .th group.ports]
  | .udp => if group.ports.isEmpty then [.metaL4proto [.udp]] else [.dport .udp group.ports]
  | .sctp => if group.ports.isEmpty then [.metaL4proto [.sctp]] else [.dport .sctp group.ports]
  | .icmp =>
    match effectiveIsV4 with
    | some true => [.ipProtocol .icmp]
    | some false => [.metaL4proto [.ipv6Icmp]]
    | none => [.metaL4proto [.icmp, .ipv6Icmp]]

/-- The `src_groups` and `dst_groups` of a combination: its networks by family, and one empty IPv4
group when there are none. -/
def familyGroups (cidrs : List IpNet) : List (Bool × List IpNet) :=
  if cidrs.isEmpty then [(true, [])]
  else
    let (v4, v6) := groupByFamily cidrs
    (if v4.isEmpty then [] else [(true, v4)]) ++ (if v6.isEmpty then [] else [(false, v6)])

/-- `lines.extend(..)` over a loop. -/
def renderAll {α : Type} (f : α → Render (List Line)) : List α → Render (List Line)
  | [] => pure []
  | a :: as => do
    let lines ← f a
    let rest ← renderAll f as
    pure (lines ++ rest)

/-- `escape_comment`: control characters are dropped, backslashes and quotes escaped. -/
def escapeComment (s : String) : String :=
  let isControl (c : Char) : Bool := c.val < 0x20 || (0x7f ≤ c.val && c.val ≤ 0x9f)
  String.ofList ((s.toList.filter (!isControl ·)).flatMap fun c ↦
    if c = '\\' then ['\\', '\\'] else if c = '"' then ['\\', '"'] else [c])

/-- The body of the two family loops: the lines of one combination for one pair of address groups,
one for each port group. A pair of different families is skipped. -/
def renderFamilyPair (target : Target ChainName) (comment : String) (groups : List PortGroup)
    (src dst : Bool × List IpNet) : Render (List Line) :=
  if !src.2.isEmpty && !dst.2.isEmpty && src.1 != dst.1 then pure []
  else do
    let effectiveIsV4 :=
      if !src.2.isEmpty then some src.1 else if !dst.2.isEmpty then some dst.1 else none
    let srcPart ← renderIpMatch src.2 .saddr src.1
    let dstPart ← renderIpMatch dst.2 .daddr dst.1
    pure (groups.map fun group ↦
      ⟨srcPart.toList ++ dstPart.toList ++ renderPortGroup group effectiveIsV4, target,
        some comment⟩)

/-- The lines of one combination. -/
def renderFlatMatch (target : Target ChainName) (comment : String) (flat : NftFlatMatch) :
    Render (List Line) :=
  renderAll (fun src ↦
    renderAll (renderFamilyPair target comment flat.portGroups src) (familyGroups flat.destIps))
    (familyGroups flat.sourceIps)

/-- `render_rule_with_action`. -/
def renderRuleWithAction (rule : FirewallRule) (target : Target ChainName) : Render (List Line) :=
  renderAll (renderFlatMatch target (escapeComment rule.name)) (flattenClauses rule.clauses)

/-- `render_rule`. -/
def renderRule (rule : FirewallRule) : Render (List Line) :=
  renderRuleWithAction rule (workloadTarget rule.action)

/-- The loop over the inline rules, which sends the lines of a rule to the chain of its
direction. -/
def renderInline : List FirewallRule → Render (List Line × List Line)
  | [] => pure ([], [])
  | rule :: rules => do
    let lines ← renderRuleWithAction rule (inlineTarget rule.action)
    let (input, output) ← renderInline rules
    pure (match rule.direction with
      | .inbound => (lines ++ input, output)
      | .outbound => (input, lines ++ output))

/-! ### Rendering of a rule set -/

/-- `NftBackend`, as far as rendering reads it. -/
structure NftBackend where
  proxyMark : Option UInt32
deriving DecidableEq, Repr

/-- The first lines of a policy chain: tracked connections and loopback pass, and at the output hook
the proxy's own packets return. -/
def NftBackend.bypassLines (backend : NftBackend) : Direction → List Line
  | .inbound => [⟨[.ctStateEstablishedRelated], .accept, none⟩, ⟨[.iifLo], .accept, none⟩]
  | .outbound =>
    [⟨[.ctStateEstablishedRelated], .accept, none⟩, ⟨[.oifLo], .accept, none⟩] ++
      match backend.proxyMark with
      | some mark => [⟨[.metaMark mark], .ret, none⟩]
      | none => [⟨[.metaSkuid proxyOwner], .ret, none⟩, ⟨[.metaSkgid proxyOwner], .ret, none⟩]

/-- The inline chain of a direction. -/
def inlineChain : Direction → ChainName
  | .inbound => .inlineInput
  | .outbound => .inlineOutput

/-- A policy chain around the lines of its workload rules. -/
def NftBackend.policyChain (backend : NftBackend) (ruleset : RuleSet) (direction : Direction)
    (lines : List Line) : List Line :=
  backend.bypassLines direction ++
    (if ruleset.inlineRules.isEmpty then []
      else [⟨[.metaL4protoNe .tcp], .jump (inlineChain direction), none⟩]) ++
    lines ++
    (if ruleset.policyAttached then [⟨[.metaL4protoNe .tcp], .reject, none⟩] else [])

/-- The rendering of all rules, in the order in which the source numbers their sets: the inbound
and the outbound workload rules, then the inline rules of both directions. -/
def renderRules (ruleset : RuleSet) :
    Render (List Line × List Line × List Line × List Line) := do
  let inboundLines ← renderAll renderRule (ordered ruleset.rules .inbound)
  let outboundLines ← renderAll renderRule (ordered ruleset.rules .outbound)
  let (inlineInput, inlineOutput) ←
    renderInline (sortByKey FirewallRule.priority ruleset.inlineRules)
  pure (inboundLines, outboundLines, inlineInput, inlineOutput)

/-- `render_ruleset`, before printing. -/
def NftBackend.script (backend : NftBackend) (ruleset : RuleSet) : Script :=
  let ((inboundLines, outboundLines, inlineInput, inlineOutput), final) :=
    renderRules ruleset { counter := 0, sets := [] }
  { sets := final.sets
    inlineChains := if ruleset.inlineRules.isEmpty then none else some (inlineInput, inlineOutput)
    policyInput := backend.policyChain ruleset .inbound inboundLines
    policyOutput := backend.policyChain ruleset .outbound outboundLines }

/-! ### Printing -/

section Print

variable (showNet : IpNet → String)

def Proto.text : Proto → String
  | .tcp => "tcp"
  | .udp => "udp"
  | .sctp => "sctp"
  | .icmp => "icmp"
  | .ipv6Icmp => "ipv6-icmp"

def AddrField.text : AddrField → String
  | .saddr => "saddr"
  | .daddr => "daddr"

def PortHeader.text : PortHeader → String
  | .th => "th"
  | .udp => "udp"
  | .sctp => "sctp"

/-- A list of alternatives, printed as an anonymous set. -/
def setText (items : List String) : String :=
  "\x7b " ++ ", ".intercalate items ++ " \x7d"

/-- One port range. -/
def portText (range : PortRange) : String :=
  if range.start == range.stop then toString range.start
  else toString range.start ++ "-" ++ toString range.stop

/-- `format_nft_ports`. -/
def formatNftPorts (protoOrTh : String) (ports : List PortRange) : String :=
  match ports with
  | [range] => protoOrTh ++ " dport " ++ portText range
  | _ => protoOrTh ++ " dport " ++ setText (ports.map portText)

def AddrSet.text : AddrSet → String
  | .single net => showNet net
  | .anonymous nets => setText (nets.map showNet)
  | .named name => "@" ++ name

def Expr.text : Expr → String
  | .ctStateEstablishedRelated => "ct state established,related"
  | .iifLo => "iif lo"
  | .oifLo => "oif lo"
  | .metaMark mark => "meta mark " ++ toString mark
  | .metaSkuid uid => "meta skuid " ++ toString uid
  | .metaSkgid gid => "meta skgid " ++ toString gid
  | .metaL4protoNe proto => "meta l4proto != " ++ proto.text
  | .metaL4proto [proto] => "meta l4proto " ++ proto.text
  | .metaL4proto protos => "meta l4proto " ++ setText (protos.map Proto.text)
  | .ipProtocol proto => "ip protocol " ++ proto.text
  | .addr isV4 field nets =>
    (if isV4 then "ip" else "ip6") ++ " " ++ field.text ++ " " ++ nets.text showNet
  | .dport header ports => formatNftPorts header.text ports

def ChainName.text : ChainName → String
  | .inlineInput => "zt_inline_input"
  | .inlineOutput => "zt_inline_output"
  | .policyInput => "zt_policy_input"
  | .policyOutput => "zt_policy_output"

def targetText : Target ChainName → String
  | .accept => "accept"
  | .reject => "reject"
  | .ret => "return"
  | .jump chain => "jump " ++ chain.text

def Line.text (line : Line) : String :=
  " ".intercalate (line.exprs.map (·.text showNet) ++ [targetText line.target] ++
    (line.comment.map fun comment ↦ "comment \"" ++ comment ++ "\"").toList)

/-- The declaration of a named set. -/
def NamedSet.text (set : NamedSet) : String :=
  "  set " ++ set.name ++ " \x7b\n" ++
  "    type " ++ (if set.isV4 then "ipv4_addr" else "ipv6_addr") ++ "\n" ++
  "    flags interval\n" ++
  "    elements = " ++ setText (set.elements.map showNet) ++ "\n" ++
  "  \x7d\n"

/-- A chain with an optional hook line in front. -/
def chainText (name : ChainName) (hook : Option String) (lines : List Line) : String :=
  "  chain " ++ name.text ++ " \x7b\n" ++
  String.join ((hook.toList ++ lines.map (·.text showNet)).map fun line ↦ "    " ++ line ++ "\n") ++
  "  \x7d\n"

def Script.text (script : Script) : String :=
  "add table inet ztunnel\n" ++
  "delete table inet ztunnel\n" ++
  "table inet ztunnel \x7b\n" ++
  String.join (script.sets.map (·.text showNet)) ++
  (match script.inlineChains with
    | none => ""
    | some (input, output) =>
      chainText showNet .inlineInput none input ++ chainText showNet .inlineOutput none output) ++
  chainText showNet .policyInput
    (some "type filter hook input priority -150; policy accept;") script.policyInput ++
  chainText showNet .policyOutput
    (some "type filter hook output priority -150; policy accept;") script.policyOutput ++
  "\x7d\n"

/-- `NftBackend::render_ruleset`. -/
def NftBackend.renderRuleset (backend : NftBackend) (ruleset : RuleSet) : String :=
  (backend.script ruleset).text showNet

end Print

end Ztunnel.Firewall.Nft
