import Ztunnel.Firewall.NftCorrect

/-!
# The named sets of a script

Every group of more than `namedSetThreshold` networks is declared as a named set, and the lines of
its rule refer to it. The counter that names the sets only goes up, so what a rendering computation
declares is written in closed form from the groups it meets (`declare`), and `Declares` is the
contract that composes: the sets are the declarations of the groups, and the references of the
result are those of the new sets, no more and no fewer.

What the script does not ensure is that the elements of a set are disjoint. The sets are declared
with `flags interval` and without `auto-merge`, and the networks of a group are the ones the rule
has, in its order; a long list in which one network overlaps another is declared as it is
(`not_setsWellFormed_overlapping`). Everything else holds of every rule set, so the script is well
formed iff the long groups of its rules are (`setsWellFormed_script_iff`).
-/

namespace Ztunnel.IpNet

/-- Some address is in both networks. -/
def Overlaps (net net' : IpNet) : Prop :=
  ∃ ip, net.contains ip = true ∧ net'.contains ip = true

/-- No two entries of a list of networks overlap. -/
def Disjoint (nets : List IpNet) : Prop :=
  nets.Pairwise fun net net' ↦ ¬ net.Overlaps net'

end Ztunnel.IpNet

namespace Ztunnel.Firewall.Nft

open Netfilter DecisionList

/-! ### References and declarations -/

/-- A reference to a named set, from an expression of a family. -/
structure SetRef where
  name : String
  isV4 : Bool
deriving DecidableEq, Repr

/-- The set that an expression refers to. -/
def Expr.setRef : Expr → Option SetRef
  | .addr isV4 _ (.named name) => some ⟨name, isV4⟩
  | _ => none

def Line.setRefs (line : Line) : List SetRef :=
  line.exprs.filterMap Expr.setRef

/-- Some line of some chain refers to the set. -/
def Script.Refers (script : Script) (ref : SetRef) : Prop :=
  ∃ chain, ∃ line ∈ script.chain chain, ref ∈ line.setRefs

/-- The reference that a declaration serves. -/
def NamedSet.ref (set : NamedSet) : SetRef := ⟨set.name, set.isV4⟩

/-- **Well-formed sets**: names are unique, references and declarations agree with their families,
and the elements of a set do not overlap. -/
structure Script.SetsWellFormed (script : Script) : Prop where
  unique : (script.sets.map NamedSet.name).Nodup
  declared : ∀ ref, script.Refers ref → ref ∈ script.sets.map NamedSet.ref
  referenced : ∀ set ∈ script.sets, script.Refers set.ref
  disjoint : ∀ set ∈ script.sets, IpNet.Disjoint set.elements

/-! ### The groups that are named -/

/-- The group itself if it is long enough for a named set. -/
def longGroup (group : Bool × List IpNet) : List (Bool × List IpNet) :=
  if group.2.length > namedSetThreshold then [group] else []

/-- The long groups of a pair of address groups, unless the pair is skipped. -/
def pairGroups (src dst : Bool × List IpNet) : List (Bool × List IpNet) :=
  if !src.2.isEmpty && !dst.2.isEmpty && src.1 != dst.1 then []
  else longGroup src ++ longGroup dst

/-- The long groups of a combination, in the order in which they are rendered. -/
def NftFlatMatch.longGroups (flat : NftFlatMatch) : List (Bool × List IpNet) :=
  (familyGroups flat.sourceIps).flatMap fun src ↦
    (familyGroups flat.destIps).flatMap (pairGroups src)

/-- The long groups of all combinations of a rule. -/
def longGroups (rule : FirewallRule) : List (Bool × List IpNet) :=
  (flattenClauses rule.clauses).flatMap NftFlatMatch.longGroups

/-- The long groups of a rule set, in the order of `renderRules`. -/
def setGroups (ruleset : RuleSet) : List (Bool × List IpNet) :=
  (ordered ruleset.rules .inbound).flatMap longGroups ++
    ((ordered ruleset.rules .outbound).flatMap longGroups ++
      (sortByKey FirewallRule.priority ruleset.inlineRules).flatMap longGroups)

theorem mem_setGroups {ruleset : RuleSet} {group : Bool × List IpNet} :
    group ∈ setGroups ruleset ↔
      ∃ rule ∈ ruleset.rules ++ ruleset.inlineRules, group ∈ longGroups rule := by
  simp only [setGroups, ordered, List.mem_append, List.mem_flatMap, mem_sortByKey, List.mem_filter,
    beq_iff_eq]
  constructor
  · rintro (⟨rule, ⟨hrule, -⟩, hgroup⟩ | ⟨rule, ⟨hrule, -⟩, hgroup⟩ | ⟨rule, hrule, hgroup⟩)
    · exact ⟨rule, .inl hrule, hgroup⟩
    · exact ⟨rule, .inl hrule, hgroup⟩
    · exact ⟨rule, .inr hrule, hgroup⟩
  · rintro ⟨rule, hrule | hrule, hgroup⟩
    · cases hdirection : rule.direction with
      | inbound => exact .inl ⟨rule, ⟨hrule, hdirection⟩, hgroup⟩
      | outbound => exact .inr (.inl ⟨rule, ⟨hrule, hdirection⟩, hgroup⟩)
    · exact .inr (.inr ⟨rule, hrule, hgroup⟩)

/-- The sets that groups are declared as, from a counter on. -/
def declare (n : ℕ) : List (Bool × List IpNet) → List NamedSet
  | [] => []
  | group :: groups => ⟨setName n group.1, group.1, group.2⟩ :: declare (n + 1) groups

theorem declare_append (n : ℕ) (groups groups' : List (Bool × List IpNet)) :
    declare n (groups ++ groups') = declare n groups ++ declare (n + groups.length) groups' := by
  induction groups generalizing n with
  | nil => rfl
  | cons group groups ih =>
    rw [List.cons_append, declare, declare, ih, List.length_cons, List.cons_append,
      Nat.add_right_comm, Nat.add_assoc]

theorem elements_declare (n : ℕ) (groups : List (Bool × List IpNet)) :
    (declare n groups).map NamedSet.elements = groups.map Prod.snd := by
  induction groups generalizing n with
  | nil => rfl
  | cons group groups ih => rw [declare, List.map_cons, List.map_cons, ih]

/-- A declared set is named after a counter from the first on. -/
theorem exists_setName_of_mem_declare {n : ℕ} {groups : List (Bool × List IpNet)} {set : NamedSet}
    (hset : set ∈ declare n groups) : ∃ k, n ≤ k ∧ set.name = setName k set.isV4 := by
  induction groups generalizing n with
  | nil => cases hset
  | cons group groups ih =>
    obtain rfl | hset := List.mem_cons.1 hset
    · exact ⟨n, Nat.le_refl n, rfl⟩
    · obtain ⟨k, hk, hname⟩ := ih hset
      exact ⟨k, Nat.le_of_succ_le hk, hname⟩

theorem nodup_name_declare (n : ℕ) (groups : List (Bool × List IpNet)) :
    ((declare n groups).map NamedSet.name).Nodup := by
  induction groups generalizing n with
  | nil => exact List.nodup_nil
  | cons group groups ih =>
    refine List.nodup_cons.2 ⟨?_, ih (n + 1)⟩
    intro hmem
    obtain ⟨set, hset, hname⟩ := List.mem_map.1 hmem
    obtain ⟨k, hk, hk'⟩ := exists_setName_of_mem_declare hset
    have := setName_injective (hk'.symm.trans hname)
    omega

/-! ### The contract of a rendering computation -/

/-- `r` declares the groups from the present counter on, and what it returns stands in the relation
`Q` to the references of the new sets. -/
def Declares {α : Type} (r : Render α) (groups : List (Bool × List IpNet))
    (Q : List SetRef → α → Prop) : Prop :=
  ∀ st : RenderState,
    (r st).2 = ⟨st.counter + groups.length, st.sets ++ declare st.counter groups⟩ ∧
      Q ((declare st.counter groups).map NamedSet.ref) (r st).1

namespace Declares

variable {α β : Type} {groups groups' : List (Bool × List IpNet)} {Q : List SetRef → α → Prop}
  {Q' : List SetRef → β → Prop}

protected theorem pure {a : α} (h : Q [] a) : Declares (pure a : Render α) [] Q := by
  intro st
  refine ⟨?_, h⟩
  rw [declare, List.append_nil]
  rfl

protected theorem bind {r : Render α} {f : α → Render β} (hr : Declares r groups Q)
    (hf : ∀ a, Declares (f a) groups' fun new b ↦ ∀ old, Q old a → Q' (old ++ new) b) :
    Declares (r >>= f) (groups ++ groups') Q' := by
  intro st
  obtain ⟨hst, hQ⟩ := hr st
  obtain ⟨hst', hQ'⟩ := hf (r st).1 (r st).2
  rw [hst] at hst' hQ'
  have hrun : (r >>= f) st = f (r st).1 (r st).2 := rfl
  rw [hrun, hst, declare_append]
  refine ⟨?_, ?_⟩
  · rw [hst', List.length_append, List.append_assoc, Nat.add_assoc]
  · rw [List.map_append]
    exact hQ' _ hQ

end Declares

/-- The lines refer to the given sets, no more and no fewer. -/
def LinesRefer (refs : List SetRef) (lines : List Line) : Prop :=
  ∀ ref, (∃ line ∈ lines, ref ∈ line.setRefs) ↔ ref ∈ refs

theorem LinesRefer.nil : LinesRefer [] [] := by
  intro ref
  simp

theorem LinesRefer.append {refs refs' : List SetRef} {lines lines' : List Line}
    (h : LinesRefer refs lines) (h' : LinesRefer refs' lines') :
    LinesRefer (refs ++ refs') (lines ++ lines') := by
  intro ref
  rw [List.mem_append, ← h ref, ← h' ref]
  simp only [List.mem_append, or_and_right, exists_or]

/-- The references of lines do not depend on their order. -/
theorem LinesRefer.of_mem {refs : List SetRef} {lines lines' : List Line}
    (h : LinesRefer refs lines) (hmem : ∀ line, line ∈ lines' ↔ line ∈ lines) :
    LinesRefer refs lines' := by
  intro ref
  rw [← h ref]
  simp only [hmem]

/-! ### What the layers of the renderer declare -/

theorem declares_renderIpMatch (cidrs : List IpNet) (field : AddrField) (isV4 : Bool) :
    Declares (renderIpMatch cidrs field isV4) (longGroup (isV4, cidrs)) fun refs part ↦
      part.toList.filterMap Expr.setRef = refs := by
  have hshort : ∀ part : Option Expr, ¬ cidrs.length > namedSetThreshold →
      part.toList.filterMap Expr.setRef = [] →
      Declares (pure part) (longGroup (isV4, cidrs)) fun refs part ↦
        part.toList.filterMap Expr.setRef = refs := by
    intro part hlen hpart
    rw [longGroup, if_neg hlen]
    exact Declares.pure hpart
  unfold renderIpMatch
  split
  · exact hshort none (Nat.not_lt_zero _) rfl
  · exact hshort _ (by simp [namedSetThreshold]) rfl
  · split
    · next hlen =>
      rw [longGroup, if_pos hlen]
      exact fun st ↦ ⟨rfl, rfl⟩
    · next hlen => exact hshort _ hlen rfl

theorem setRef_renderPortGroup (group : PortGroup) (effectiveIsV4 : Option Bool) :
    (renderPortGroup group effectiveIsV4).filterMap Expr.setRef = [] := by
  obtain ⟨protocol, ports⟩ := group
  cases protocol with
  | icmp => rcases effectiveIsV4 with - | (_ | _) <;> rfl
  | nonTcp | udp | sctp => cases ports <;> rfl

/-- Every port group gives a line with the addresses of the pair, and there is at least one. -/
theorem declares_renderFamilyPair {t : Target ChainName} {comment : String}
    {groups : List PortGroup} (hgroups : groups ≠ []) (src dst : Bool × List IpNet) :
    Declares (renderFamilyPair t comment groups src dst) (pairGroups src dst) LinesRefer := by
  unfold renderFamilyPair pairGroups
  split
  · exact Declares.pure LinesRefer.nil
  · have hdst := declares_renderIpMatch dst.2 .daddr dst.1
    rw [← List.append_nil (longGroup dst)]
    refine (declares_renderIpMatch src.2 .saddr src.1).bind fun srcPart ↦ hdst.bind fun dstPart ↦
      Declares.pure ?_
    intro dstRefs hdstRefs srcRefs hsrcRefs ref
    rw [List.append_nil, ← hsrcRefs, ← hdstRefs]
    have hline : ∀ group effective, Line.setRefs ⟨srcPart.toList ++ dstPart.toList ++
        renderPortGroup group effective, t, some comment⟩ =
        srcPart.toList.filterMap Expr.setRef ++ dstPart.toList.filterMap Expr.setRef := by
      intro group effective
      rw [Line.setRefs, List.filterMap_append, List.filterMap_append, setRef_renderPortGroup,
        List.append_nil]
    constructor
    · rintro ⟨line, hmem, href⟩
      obtain ⟨group, -, rfl⟩ := List.mem_map.1 hmem
      rwa [hline] at href
    · intro href
      obtain ⟨group, hgroup⟩ := List.exists_mem_of_ne_nil groups hgroups
      refine ⟨_, List.mem_map_of_mem hgroup, ?_⟩
      rwa [hline]

theorem declares_renderAll {α : Type} {f : α → Render (List Line)}
    {groups : α → List (Bool × List IpNet)} {as : List α}
    (h : ∀ a ∈ as, Declares (f a) (groups a) LinesRefer) :
    Declares (renderAll f as) (as.flatMap groups) LinesRefer := by
  induction as with
  | nil => exact Declares.pure LinesRefer.nil
  | cons a as ih =>
    have ih := ih fun a ha ↦ h a (List.mem_cons_of_mem _ ha)
    rw [List.flatMap_cons, ← List.append_nil (as.flatMap groups)]
    refine (h a List.mem_cons_self).bind fun lines ↦ ih.bind fun rest ↦ Declares.pure ?_
    intro new hrest old hlines
    rw [List.append_nil]
    exact hlines.append hrest

/-- A combination keeps a port group: what replaces the default is not empty. -/
theorem portGroups_ne_nil {clauses : List (List FirewallMatch)} {flat : NftFlatMatch}
    (hflat : flat ∈ flattenClauses clauses) : flat.portGroups ≠ [] := by
  refine Expansion.forall_mem_expand (P := fun flat ↦ flat.portGroups ≠ []) ?_ ?_ flat hflat
  · exact List.cons_ne_nil _ _
  · intro existing m hne f hf
    rw [List.mem_singleton.1 hf]
    show (if m.noPortRestriction then existing.portGroups else m.portGroups) ≠ []
    split
    · exact hne
    · next hrestricts =>
      intro hnil
      exact hrestricts (by rw [FirewallMatch.noPortRestriction, hnil])

theorem declares_renderRuleWithAction (rule : FirewallRule) (t : Target ChainName) :
    Declares (renderRuleWithAction rule t) (longGroups rule) LinesRefer := by
  refine declares_renderAll fun flat hflat ↦ ?_
  refine declares_renderAll fun src _ ↦ declares_renderAll fun dst _ ↦ ?_
  exact declares_renderFamilyPair (portGroups_ne_nil hflat) src dst

theorem declares_renderInline (rules : List FirewallRule) :
    Declares (renderInline rules) (rules.flatMap longGroups) fun refs lines ↦
      LinesRefer refs (lines.1 ++ lines.2) := by
  induction rules with
  | nil => exact Declares.pure LinesRefer.nil
  | cons rule rules ih =>
    rw [List.flatMap_cons, ← List.append_nil (rules.flatMap longGroups)]
    refine (declares_renderRuleWithAction rule _).bind fun lines ↦ ih.bind fun rest ↦
      Declares.pure ?_
    intro new hrest old hlines
    rw [List.append_nil]
    refine (hlines.append hrest).of_mem fun line ↦ ?_
    -- the lines go to the chain of the rule's direction, in front of the rest
    cases rule.direction <;> simp only [List.mem_append] <;> tauto

theorem declares_renderRules (ruleset : RuleSet) :
    Declares (renderRules ruleset) (setGroups ruleset) fun refs lines ↦
      LinesRefer refs (lines.1 ++ (lines.2.1 ++ (lines.2.2.1 ++ lines.2.2.2))) := by
  have hrules : ∀ direction, Declares (renderAll renderRule (ordered ruleset.rules direction))
      ((ordered ruleset.rules direction).flatMap longGroups) LinesRefer :=
    fun direction ↦ declares_renderAll fun rule _ ↦ declares_renderRuleWithAction rule _
  unfold setGroups
  rw [← List.append_nil ((sortByKey FirewallRule.priority ruleset.inlineRules).flatMap longGroups)]
  refine (hrules .inbound).bind fun inbound ↦ (hrules .outbound).bind fun outbound ↦
    (declares_renderInline _).bind fun inline ↦ Declares.pure ?_
  intro inlineRefs hinline outboundRefs houtbound inboundRefs hinbound
  rw [List.append_nil]
  exact hinbound.append (houtbound.append hinline)

/-! ### The sets of a script -/

theorem sets_script (backend : NftBackend) (ruleset : RuleSet) :
    (backend.script ruleset).sets = declare 0 (setGroups ruleset) :=
  congrArg RenderState.sets (declares_renderRules ruleset ⟨0, []⟩).1

/-- The lines around those of the rules refer to no set. -/
theorem mem_setRefs_policyChain {backend : NftBackend} {ruleset : RuleSet} {direction : Direction}
    {lines : List Line} {ref : SetRef} :
    (∃ line ∈ backend.policyChain ruleset direction lines, ref ∈ line.setRefs) ↔
      ∃ line ∈ lines, ref ∈ line.setRefs := by
  have hbypass : ∀ line ∈ backend.bypassLines direction, line.setRefs = [] := by
    intro line hline
    cases direction with
    | inbound =>
      simp only [NftBackend.bypassLines, List.mem_cons, List.not_mem_nil, or_false] at hline
      rcases hline with rfl | rfl <;> rfl
    | outbound =>
      rcases hmark : backend.proxyMark with - | mark
      · simp only [NftBackend.bypassLines, hmark, List.cons_append, List.nil_append, List.mem_cons,
          List.not_mem_nil, or_false] at hline
        rcases hline with rfl | rfl | rfl | rfl <;> rfl
      · simp only [NftBackend.bypassLines, hmark, List.cons_append, List.nil_append, List.mem_cons,
          List.not_mem_nil, or_false] at hline
        rcases hline with rfl | rfl | rfl <;> rfl
  constructor
  · rintro ⟨line, hline, href⟩
    simp only [NftBackend.policyChain, List.mem_append, List.mem_ite_nil_left,
      List.mem_ite_nil_right, List.mem_singleton] at hline
    rcases hline with ((hline | ⟨-, rfl⟩) | hline) | ⟨-, rfl⟩
    · rw [hbypass line hline] at href
      cases href
    · cases href
    · exact ⟨line, hline, href⟩
    · cases href
  · rintro ⟨line, hline, href⟩
    refine ⟨line, ?_, href⟩
    exact List.mem_append_left _ (List.mem_append_right _ hline)

/-- The inline chains have the lines of the inline rules, also where they are not declared. -/
theorem inlineChains_script (backend : NftBackend) (ruleset : RuleSet) :
    (backend.script ruleset).chain .inlineInput = (renderRules ruleset ⟨0, []⟩).1.2.2.1 ∧
      (backend.script ruleset).chain .inlineOutput = (renderRules ruleset ⟨0, []⟩).1.2.2.2 := by
  obtain ⟨inlineRules, rules, policyAttached⟩ := ruleset
  cases inlineRules with
  | nil => exact ⟨rfl, rfl⟩
  | cons rule inlineRules => exact ⟨rfl, rfl⟩

theorem refers_script {backend : NftBackend} {ruleset : RuleSet} {ref : SetRef} :
    (backend.script ruleset).Refers ref ↔
      ref ∈ (backend.script ruleset).sets.map NamedSet.ref := by
  obtain ⟨hinput, houtput⟩ := inlineChains_script backend ruleset
  have hrefs := (declares_renderRules ruleset ⟨0, []⟩).2 ref
  simp only [List.mem_append, or_and_right, exists_or] at hrefs
  rw [sets_script, ← hrefs, ← hinput, ← houtput]
  constructor
  · rintro ⟨chain, hchain⟩
    cases chain with
    | policyInput => exact .inl (mem_setRefs_policyChain.1 hchain)
    | policyOutput => exact .inr (.inl (mem_setRefs_policyChain.1 hchain))
    | inlineInput => exact .inr (.inr (.inl hchain))
    | inlineOutput => exact .inr (.inr (.inr hchain))
  · rintro (hin | hout | hin | hout)
    · exact ⟨.policyInput, mem_setRefs_policyChain.2 hin⟩
    · exact ⟨.policyOutput, mem_setRefs_policyChain.2 hout⟩
    · exact ⟨.inlineInput, hin⟩
    · exact ⟨.inlineOutput, hout⟩

/-- **The sets of a script are well formed iff the networks of every long group are disjoint.** -/
theorem setsWellFormed_script_iff (backend : NftBackend) (ruleset : RuleSet) :
    (backend.script ruleset).SetsWellFormed ↔
      ∀ rule ∈ ruleset.rules ++ ruleset.inlineRules, ∀ group ∈ longGroups rule,
        IpNet.Disjoint group.2 := by
  have helements : ∀ nets, (∃ set ∈ (backend.script ruleset).sets, set.elements = nets) ↔
      ∃ rule ∈ ruleset.rules ++ ruleset.inlineRules, ∃ group ∈ longGroups rule, group.2 = nets := by
    intro nets
    rw [sets_script, ← List.mem_map, elements_declare, List.mem_map]
    simp only [mem_setGroups]
    constructor
    · rintro ⟨group, ⟨rule, hrule, hgroup⟩, rfl⟩
      exact ⟨rule, hrule, group, hgroup, rfl⟩
    · rintro ⟨rule, hrule, group, hgroup, rfl⟩
      exact ⟨group, ⟨rule, hrule, hgroup⟩, rfl⟩
  constructor
  · intro h rule hrule group hgroup
    obtain ⟨set, hset, heq⟩ := (helements group.2).2 ⟨rule, hrule, group, hgroup, rfl⟩
    rw [← heq]
    exact h.disjoint set hset
  · intro h
    refine ⟨?_, fun ref ↦ refers_script.1, ?_, ?_⟩
    · rw [sets_script]
      exact nodup_name_declare 0 _
    · intro set hset
      exact refers_script.2 (List.mem_map_of_mem hset)
    · intro set hset
      obtain ⟨rule, hrule, group, hgroup, heq⟩ := (helements set.elements).1 ⟨set, hset, rfl⟩
      rw [← heq]
      exact h rule hrule group hgroup

/-- `10.0.0.0/8` and the networks `10.0.i.0/24` for the first 128 `i`. -/
def overlappingNets : List IpNet :=
  .v4 0x0a000000 8 :: (List.range 128).map fun i ↦ .v4 (0x0a000000 + BitVec.ofNat 32 (256 * i)) 24

/-- A rule with one match, on source addresses. -/
def sourceRule (nets : List IpNet) : FirewallRule where
  name := "overlapping/rule-0"
  action := .deny
  direction := .inbound
  priority := 0
  clauses := [[⟨nets, [], []⟩]]

/-- A long list of IPv4 sources is one group. -/
theorem setGroups_sourceRule {nets : List IpNet} (hv4 : ∀ net ∈ nets, net.isIpv4 = true)
    (hlen : namedSetThreshold < nets.length) :
    setGroups ⟨[], [sourceRule nets], true⟩ = [(true, nets)] := by
  have hne : nets.isEmpty = false := by
    cases nets with
    | nil => cases hlen
    | cons net nets => rfl
  have hflat : flattenClauses (sourceRule nets).clauses = [⟨nets, [], [⟨.nonTcp, []⟩]⟩] := by
    show [NftFlatMatch.start.add ⟨nets, [], []⟩] = _
    rw [NftFlatMatch.add, hne]
    rfl
  have hv6 : nets.filter (fun net ↦ !net.isIpv4) = [] :=
    List.filter_eq_nil_iff.2 fun net hnet ↦ by simp [hv4 net hnet]
  have hfamily : familyGroups nets = [(true, nets)] := by
    simp [familyGroups, groupByFamily, List.filter_eq_self.2 hv4, hv6, hne]
  have hpair : pairGroups (true, nets) (true, []) = [(true, nets)] := by
    simp [pairGroups, longGroup, hlen]
  have hgroups : longGroups (sourceRule nets) = [(true, nets)] := by
    rw [longGroups, hflat, List.flatMap_singleton, NftFlatMatch.longGroups, hfamily,
      List.flatMap_singleton, ← hpair]
    exact List.flatMap_singleton _ _
  rw [← hgroups]
  exact (List.append_nil _).trans (List.flatMap_singleton _ _)

/-- The set of 129 networks has two that overlap. -/
theorem not_setsWellFormed_overlapping :
    ¬ (NftBackend.script ⟨none⟩ ⟨[], [sourceRule overlappingNets], true⟩).SetsWellFormed := by
  have hv4 : ∀ net ∈ overlappingNets, net.isIpv4 = true := by
    intro net hnet
    obtain rfl | hnet := List.mem_cons.1 hnet
    · rfl
    · obtain ⟨i, -, rfl⟩ := List.mem_map.1 hnet
      rfl
  have hlen : namedSetThreshold < overlappingNets.length := by
    rw [overlappingNets, List.length_cons, List.length_map, List.length_range]
    decide
  have hgroups : setGroups ⟨[], [sourceRule overlappingNets], true⟩ = [(true, overlappingNets)] :=
    setGroups_sourceRule hv4 hlen
  intro h
  have hset : (⟨setName 0 true, true, overlappingNets⟩ : NamedSet) ∈
      (NftBackend.script ⟨none⟩ ⟨[], [sourceRule overlappingNets], true⟩).sets := by
    rw [sets_script, hgroups]
    exact List.mem_singleton_self _
  have hnarrow : IpNet.v4 0x0a000000 24 ∈ (List.range 128).map fun i ↦
      IpNet.v4 (0x0a000000 + BitVec.ofNat 32 (256 * i)) 24 :=
    List.mem_map.2 ⟨0, List.mem_range.2 (by decide), rfl⟩
  exact List.rel_of_pairwise_cons (h.disjoint _ hset) hnarrow
    ⟨.v4 0x0a000000, by decide, by decide⟩

end Ztunnel.Firewall.Nft
