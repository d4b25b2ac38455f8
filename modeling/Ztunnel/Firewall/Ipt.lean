import Ztunnel.Firewall.Backend

/-!
# The iptables backend

`IptBackend::render_ruleset`: a rule set is rendered as input of `iptables-restore --noflush` for
the `filter` table. The two policy chains exist already, created and hooked by `init`; the chains of
the inline rules are declared when there are any.

iptables takes one value for each field of a rule, so the sources, destinations, protocols and port
lists of a rule are multiplied out, and lines with an IPv6 network are left out. A list of ports is
cut into chunks of at most fifteen entries, where a range counts twice.

As for nftables the script is built as a syntax tree, printed by `Command.text`.
-/

namespace Ztunnel.Firewall.Ipt

open Netfilter DecisionList

/-! ### Syntax of a script -/

/-- The chains of the table. -/
inductive ChainName where
  | filterIn
  | filterOut
  | inlineIn
  | inlineOut
deriving DecidableEq, Repr

/-- The `proto_str` of a line. -/
inductive ProtoFlag where
  | notTcp
  | udp
  | sctp
  | icmp
deriving DecidableEq, Repr

/-- The `port_suffix` of a line. -/
inductive PortSuffix where
  | empty
  | dport (range : PortRange)
  | multiport (ranges : List PortRange)
deriving DecidableEq, Repr

/-- A condition of a line. -/
inductive Cond where
  | ctEstablishedRelated
  | inLo
  | outLo
  | mark (value : UInt32)
  | uidOwner (uid : UInt32)
  | gidOwner (gid : UInt32)
  | ctOrigDstPort (port : UInt16)
  | source (net : IpNet)
  | dest (net : IpNet)
  | proto (flag : ProtoFlag)
  | ports (suffix : PortSuffix)
deriving DecidableEq, Repr

/-- What a line appends to its chain. -/
structure Line where
  conds : List Cond
  target : Target ChainName
deriving DecidableEq, Repr

/-- A line of the script. -/
inductive Command where
  | filterTable
  | declare (chain : ChainName)
  | flush (chain : ChainName)
  | append (chain : ChainName) (line : Line)
  | commit
deriving DecidableEq, Repr

/-! ### Port lists -/

/-- How many of the fifteen entries of a multiport match a range takes. -/
def portWeight (range : PortRange) : ℕ := if range.start == range.stop then 1 else 2

/-- `format_port_suffix`. -/
def formatPortSuffix : List PortRange → PortSuffix
  | [range] => .dport range
  | ranges => .multiport ranges

/-- The chunk loop of `render_port_suffixes`, with the open chunk and its weight. -/
def chunkLoop : List PortRange → List PortRange → ℕ → List PortSuffix
  | [], chunk, _ => if chunk.isEmpty then [] else [formatPortSuffix chunk]
  | range :: ranges, chunk, chunkWeight =>
    if !chunk.isEmpty && chunkWeight + portWeight range > 15 then
      formatPortSuffix chunk :: chunkLoop ranges [range] (portWeight range)
    else chunkLoop ranges (chunk ++ [range]) (chunkWeight + portWeight range)

/-- `render_port_suffixes`. -/
def renderPortSuffixes : List PortRange → List PortSuffix
  | [] => [.empty]
  | [range] => [.dport range]
  | ports => chunkLoop ports [] 0

/-- One group of `expand_port_groups`. -/
def expandPortGroup (group : PortGroup) : List (ProtoFlag × PortSuffix) :=
  match group.protocol with
  | .nonTcp =>
    if group.ports.isEmpty then [(.notTcp, .empty)]
    else
      let suffixes := renderPortSuffixes group.ports
      suffixes.map (ProtoFlag.udp, ·) ++ suffixes.map (ProtoFlag.sctp, ·)
  | .udp => (renderPortSuffixes group.ports).map (ProtoFlag.udp, ·)
  | .sctp => (renderPortSuffixes group.ports).map (ProtoFlag.sctp, ·)
  | .icmp => [(.icmp, .empty)]

/-- `expand_port_groups`. -/
def expandPortGroups (groups : List PortGroup) : List (ProtoFlag × PortSuffix) :=
  groups.flatMap expandPortGroup

/-! ### Rendering of one rule -/

/-- `FlatMatch`. -/
structure FlatMatch where
  source : Option IpNet
  dest : Option IpNet
  proto : ProtoFlag
  suffix : PortSuffix
deriving DecidableEq, Repr

/-- The combination that the expansion starts from. -/
def FlatMatch.start : FlatMatch := ⟨none, none, .notTcp, .empty⟩

/-- The addresses a match multiplies a combination with. -/
def expandIps (ips : List IpNet) (existing : Option IpNet) : List (Option IpNet) :=
  if ips.isEmpty then [existing] else ips.map some

/-- The combinations that a match makes of an existing one. -/
def FlatMatch.add (existing : FlatMatch) (m : FirewallMatch) : List FlatMatch :=
  let protoPorts :=
    if m.noPortRestriction then [(existing.proto, existing.suffix)]
    else expandPortGroups m.portGroups
  (expandIps m.sourceIps existing.source).flatMap fun src ↦
    (expandIps m.destIps existing.dest).flatMap fun dst ↦
      protoPorts.map fun (proto, suffix) ↦ ⟨src, dst, proto, suffix⟩

/-- `flatten_clauses`. -/
def flattenClauses (clauses : List (List FirewallMatch)) : List FlatMatch :=
  Expansion.expand FlatMatch.add .start clauses

/-- A combination with an IPv6 network is skipped. -/
def FlatMatch.isIpv6 (flat : FlatMatch) : Bool :=
  flat.source.any (!·.isIpv4) || flat.dest.any (!·.isIpv4)

/-- The line of a combination. -/
def FlatMatch.line (flat : FlatMatch) (target : Target ChainName) : Line where
  conds := (flat.source.map Cond.source).toList ++ (flat.dest.map Cond.dest).toList ++
    [.proto flat.proto] ++ if flat.suffix = .empty then [] else [.ports flat.suffix]
  target := target

/-- `render_rule_in_chain`, without the chain that all its lines go to. -/
def renderRuleInChain (rule : FirewallRule) (target : Target ChainName) : List Line :=
  ((flattenClauses rule.clauses).filter (!·.isIpv6)).map (·.line target)

/-- The policy chain of a direction. -/
def filterChain : Direction → ChainName
  | .inbound => .filterIn
  | .outbound => .filterOut

/-- The inline chain of a direction. -/
def inlineChain : Direction → ChainName
  | .inbound => .inlineIn
  | .outbound => .inlineOut

/-- `render_rule`: the lines of a workload rule, with their chain. -/
def renderRule (rule : FirewallRule) : List (ChainName × Line) :=
  (renderRuleInChain rule (workloadTarget rule.action)).map (filterChain rule.direction, ·)

/-- The lines of an inline rule, with their chain. -/
def renderInlineRule (rule : FirewallRule) : List (ChainName × Line) :=
  (renderRuleInChain rule (inlineTarget rule.action)).map (inlineChain rule.direction, ·)

/-! ### Rendering of a rule set -/

/-- `IptBackend`, as far as rendering reads it. -/
structure IptBackend where
  proxyMark : Option UInt32
  dnsProxy : Bool
deriving DecidableEq, Repr

/-- The lines that let the proxy's own packets pass, and redirected DNS where the proxy answers
it. -/
def IptBackend.proxyLines (backend : IptBackend) : List (ChainName × Line) :=
  match backend.proxyMark with
  | some mark =>
    [(.filterOut, ⟨[.mark mark], .ret⟩)] ++
      if backend.dnsProxy then [(.filterOut, ⟨[.proto .udp, .ctOrigDstPort 53], .accept⟩)] else []
  | none =>
    [(.filterOut, ⟨[.uidOwner proxyOwner], .ret⟩), (.filterOut, ⟨[.gidOwner proxyOwner], .ret⟩)]

/-- What the script appends, in its order: exemptions, inline rules, workload rules, default
rejects. -/
def IptBackend.appends (backend : IptBackend) (ruleset : RuleSet) : List (ChainName × Line) :=
  ([(.filterIn, ⟨[.ctEstablishedRelated], .accept⟩),
    (.filterOut, ⟨[.ctEstablishedRelated], .accept⟩),
    (.filterIn, ⟨[.inLo], .accept⟩), (.filterOut, ⟨[.outLo], .accept⟩)] :
    List (ChainName × Line)) ++
  backend.proxyLines ++
  (if ruleset.inlineRules.isEmpty then []
    else ([(.filterIn, ⟨[.proto .notTcp], .jump .inlineIn⟩),
        (.filterOut, ⟨[.proto .notTcp], .jump .inlineOut⟩)] : List (ChainName × Line)) ++
      (sortByKey FirewallRule.priority ruleset.inlineRules).flatMap renderInlineRule) ++
  (sortByKey FirewallRule.priority ruleset.rules).flatMap renderRule ++
  if ruleset.policyAttached then
    [(.filterIn, ⟨[.proto .notTcp], .reject⟩), (.filterOut, ⟨[.proto .notTcp], .reject⟩)]
  else []

/-- `render_ruleset`, before printing. -/
def IptBackend.script (backend : IptBackend) (ruleset : RuleSet) : List Command :=
  [Command.filterTable] ++
  (if ruleset.inlineRules.isEmpty then []
    else [Command.declare .inlineIn, .declare .inlineOut, .flush .inlineIn, .flush .inlineOut]) ++
  [Command.flush .filterIn, .flush .filterOut] ++
  (backend.appends ruleset).map (fun (chain, line) ↦ Command.append chain line) ++
  [Command.commit]

/-! ### Printing -/

section Print

variable (showNet : IpNet → String)

def ChainName.text : ChainName → String
  | .filterIn => "ISTIO_FW_FILTER_IN"
  | .filterOut => "ISTIO_FW_FILTER_OUT"
  | .inlineIn => "ISTIO_FW_INLINE_IN"
  | .inlineOut => "ISTIO_FW_INLINE_OUT"

def ProtoFlag.text : ProtoFlag → String
  | .notTcp => "! -p tcp"
  | .udp => "-p udp"
  | .sctp => "-p sctp"
  | .icmp => "-p icmp"

/-- One port range. -/
def portText (range : PortRange) : String :=
  if range.start == range.stop then toString range.start
  else toString range.start ++ ":" ++ toString range.stop

def PortSuffix.text : PortSuffix → String
  | .empty => ""
  | .dport range => "--dport " ++ portText range
  | .multiport ranges => "-m multiport --dports " ++ ",".intercalate (ranges.map portText)

def Cond.text : Cond → String
  | .ctEstablishedRelated => "-m conntrack --ctstate ESTABLISHED,RELATED"
  | .inLo => "-i lo"
  | .outLo => "-o lo"
  | .mark value => "-m mark --mark " ++ toString value
  | .uidOwner uid => "-m owner --uid-owner " ++ toString uid
  | .gidOwner gid => "-m owner --gid-owner " ++ toString gid
  | .ctOrigDstPort port =>
    "-m conntrack --ctorigdstport " ++ toString port ++ " --ctdir ORIGINAL"
  | .source net => "-s " ++ showNet net
  | .dest net => "-d " ++ showNet net
  | .proto flag => flag.text
  | .ports suffix => suffix.text

def targetText : Target ChainName → String
  | .accept => "ACCEPT"
  | .reject => "REJECT"
  | .ret => "RETURN"
  | .jump chain => chain.text

def Command.text : Command → String
  | .filterTable => "*filter"
  | .declare chain => ":" ++ chain.text ++ " - [0:0]"
  | .flush chain => "-F " ++ chain.text
  | .append chain line =>
    " ".intercalate (["-A " ++ chain.text] ++ line.conds.map (·.text showNet) ++
      ["-j " ++ targetText line.target])
  | .commit => "COMMIT"

/-- `IptBackend::render_ruleset`. -/
def IptBackend.renderRuleset (backend : IptBackend) (ruleset : RuleSet) : String :=
  "\n".intercalate ((backend.script ruleset).map (·.text showNet))

end Print

end Ztunnel.Firewall.Ipt
