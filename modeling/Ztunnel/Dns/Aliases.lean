import Ztunnel.Dns.PlainName
import Ztunnel.Dns.Server

/-!
# The aliases of a name

`get_aliases` appends names in three places: the service domain to the namespace of the client, and
domains to the requested name and to what is left of it without a search domain. Each of these
panics if the result is too long. Which domains are appended depends on the number of labels only,
and on whether the last one is `svc`, so that it can be said by lengths when there is a panic
(`Fits`): a name of one or two labels is put before the namespace and the service domain, one of
three before the service domain, and one of four that ends in `svc` before the domain.

The aliases themselves are the first of each kind (`KeepFirst`) of a list that is written down in
`IsAliases`.
-/

namespace Ztunnel.Dns

open State

variable {N : Type}

/-! ### Partial results -/

theorem mapM_eq_some_iff {α β : Type} {f : α → Option β} {l : List α} {l' : List β} :
    l.mapM f = some l' ↔ List.Forall₂ (fun a b ↦ f a = some b) l l' := by
  induction l generalizing l' with
  | nil =>
    rw [List.mapM_nil, List.forall₂_nil_left_iff]
    exact ⟨fun h ↦ (Option.some.inj h).symm, fun h ↦ h ▸ rfl⟩
  | cons a l ih =>
    rw [List.mapM_cons, List.forall₂_cons_left_iff]
    refine ⟨fun h ↦ ?_, ?_⟩
    · obtain ⟨b, hb, h⟩ := Option.bind_eq_some_iff.1 h
      obtain ⟨rest, hrest, h⟩ := Option.bind_eq_some_iff.1 h
      exact ⟨b, rest, hb, ih.1 hrest, (Option.some.inj h).symm⟩
    · rintro ⟨b, rest, hb, hrest, rfl⟩
      exact Option.bind_eq_some_iff.2 ⟨b, hb, Option.bind_eq_some_iff.2 ⟨rest, ih.2 hrest, rfl⟩⟩

theorem exists_mapM_iff {α β : Type} {f : α → Option β} {l : List α} :
    (∃ l', l.mapM f = some l') ↔ ∀ a ∈ l, ∃ b, f a = some b := by
  simp only [mapM_eq_some_iff]
  refine ⟨?_, fun h ↦ ?_⟩
  · rintro ⟨l', h⟩ a ha
    induction h with
    | nil => cases ha
    | cons hb _ ih =>
      obtain rfl | ha := List.mem_cons.1 ha
      · exact ⟨_, hb⟩
      · exact ih ha
  · induction l with
    | nil => exact ⟨[], .nil⟩
    | cons a l ih =>
      obtain ⟨b, hb⟩ := h a List.mem_cons_self
      obtain ⟨l', hl'⟩ := ih fun a ha ↦ h a (List.mem_cons_of_mem _ ha)
      exact ⟨b :: l', .cons hb hl'⟩

/-! ### Kubernetes names -/

/-- The labels that a name may be short for. -/
def expansions (domain ns labels : List Label) : List (List Label) :=
  match labels.length with
  | 1 => [labels ++ (ns ++ svcLabel :: domain)]
  | 2 => [labels ++ svcLabel :: domain, labels ++ (ns ++ svcLabel :: domain)]
  | 3 =>
    (if labels.getLast? = some svcLabel then [labels ++ domain] else []) ++
      [labels ++ svcLabel :: domain]
  | 4 => if labels.getLast? = some svcLabel then [labels ++ domain] else []
  | _ => []

/-- The labels that a name may be short for are not too many, by lengths. -/
def Expandable (domain ns labels : List Label) : Prop :=
  match labels.length with
  | 1 => octets labels + octets ns + octets domain + 2 ≤ maxLength
  | 2 => octets labels + octets ns + octets domain + 2 ≤ maxLength
  | 3 => octets labels + octets domain + 3 ≤ maxLength
  | 4 => labels.getLast? = some svcLabel → octets labels + octets domain ≤ maxLength + 1
  | _ => True

theorem octets_svcDomain (domain : List Label) :
    octets (svcLabel :: domain) = octets domain + 4 := by
  rw [octets_cons, Nat.add_comm]
  rfl

/-- **The lengths are right.** -/
theorem expandable_iff {domain ns labels : List Label} :
    Expandable domain ns labels ↔
      ∀ expansion ∈ expansions domain ns labels, octets expansion ≤ maxLength := by
  have hdomain := octets_append labels domain
  have hsvc := octets_append labels (svcLabel :: domain)
  have hns := octets_append ns (svcLabel :: domain)
  have hnamespaced := octets_append labels (ns ++ svcLabel :: domain)
  have hpos := octets_pos ns
  rw [octets_svcDomain] at hsvc hns
  unfold Expandable expansions
  split
  · rw [List.forall_mem_singleton]
    omega
  · rw [List.forall_mem_cons, List.forall_mem_singleton]
    omega
  · split_ifs
    · rw [List.singleton_append, List.forall_mem_cons, List.forall_mem_singleton]
      omega
    · rw [List.nil_append, List.forall_mem_singleton]
      omega
  · split_ifs with hlast
    · rw [List.forall_mem_singleton]
      simp only [hlast, true_imp_iff]
      omega
    · exact iff_of_true (fun h ↦ absurd h hlast) (List.forall_mem_nil _)
  · exact iff_of_true trivial (List.forall_mem_nil _)

theorem isWildcard_svc (lib : NameLib N) : lib.isWildcard lib.svc = false := by
  refine eq_false_of_ne_true fun h ↦ ?_
  rw [lib.isWildcard_iff, lib.labels_svc] at h
  exact absurd h (by decide)

/-- With so many labels, the `*` that is not counted makes no difference. -/
theorem hasDomain_svc_iff {lib : NameLib N} {name : N} (h : 3 ≤ (lib.labels name).length) :
    lib.hasDomain name lib.svc = true ↔ (lib.labels name).getLast? = some svcLabel := by
  have hcount := lib.le_numLabels name
  have hsvc := NameLib.numLabels_of_not_isWildcard (isWildcard_svc lib)
  rw [lib.labels_svc] at hsvc
  rw [NameLib.hasDomain_iff, hsvc, lib.labels_svc, List.getLast?_eq_some_iff]
  refine ⟨fun ⟨_, _, before, hbefore⟩ ↦ ⟨before, hbefore.symm⟩, fun ⟨before, hbefore⟩ ↦ ?_⟩
  refine ⟨isWildcard_svc lib, ?_, before, hbefore.symm⟩
  rw [List.length_singleton]
  omega

namespace Store

variable {lib : NameLib N} (store : Store lib)

/-- The domains that `to_kube_fqdns` appends to a name. -/
def kubeDomains (name namespacedDomain : N) : List N :=
  match (lib.labels name).length with
  | 1 => [namespacedDomain]
  | 2 => [store.svcDomain, namespacedDomain]
  | 3 => (if lib.hasDomain name lib.svc then [store.domain] else []) ++ [store.svcDomain]
  | 4 => if lib.hasDomain name lib.svc then [store.domain] else []
  | _ => []

theorem toKubeFqdns_eq (name namespacedDomain : N) :
    store.toKubeFqdns name namespacedDomain =
      (store.kubeDomains name namespacedDomain).mapM (lib.appendDomain name) := by
  have hsingle : ∀ domain, [domain].mapM (lib.appendDomain name) =
      (lib.appendDomain name domain).map fun fqdn ↦ [fqdn] := by
    intro domain
    rw [List.mapM_cons, List.mapM_nil]
    cases lib.appendDomain name domain <;> rfl
  unfold toKubeFqdns kubeDomains
  generalize (lib.labels name).length = count
  rcases count with - | - | - | - | - | count
  · rfl
  · change _ = [namespacedDomain].mapM _
    rw [hsingle]
    cases lib.appendDomain name namespacedDomain <;> rfl
  · change _ = [store.svcDomain, namespacedDomain].mapM _
    rw [List.mapM_cons, hsingle]
    cases lib.appendDomain name store.svcDomain <;>
      cases lib.appendDomain name namespacedDomain <;> rfl
  · split_ifs
    · change _ = [store.domain, store.svcDomain].mapM _
      rw [List.mapM_cons, hsingle]
      cases lib.appendDomain name store.domain <;>
        cases lib.appendDomain name store.svcDomain <;> rfl
    · change _ = [store.svcDomain].mapM _
      rw [hsingle]
      cases lib.appendDomain name store.svcDomain <;> rfl
  · split_ifs
    · exact (hsingle store.domain).symm
    · rfl
  · rfl

variable {store} {ns name namespacedDomain : N}

theorem labels_namespacedDomain (h : lib.appendDomain ns store.svcDomain = some namespacedDomain) :
    lib.labels namespacedDomain = lib.labels ns ++ svcLabel :: lib.labels store.domain := by
  rw [(lib.appendDomain_eq_some _ _ _ h).1, store.labels_svcDomain]

theorem map_labels_kubeDomains
    (h : lib.appendDomain ns store.svcDomain = some namespacedDomain) :
    (store.kubeDomains name namespacedDomain).map (lib.labels name ++ lib.labels ·) =
      expansions (lib.labels store.domain) (lib.labels ns) (lib.labels name) := by
  unfold kubeDomains expansions
  split
  · rw [List.map_singleton, labels_namespacedDomain h]
  · rw [List.map_cons, List.map_singleton, labels_namespacedDomain h, store.labels_svcDomain]
  · next hlength =>
    simp only [hasDomain_svc_iff hlength.ge]
    split_ifs
    · rw [List.map_append, List.map_singleton, List.map_singleton, store.labels_svcDomain]
    · rw [List.nil_append, List.nil_append, List.map_singleton, store.labels_svcDomain]
  · next hlength =>
    have hmany : 3 ≤ (lib.labels name).length := hlength ▸ Nat.le_succ 3
    simp only [hasDomain_svc_iff hmany]
    split_ifs
    · rw [List.map_singleton]
    · rfl
  · rfl

/-- **A name is expanded** if no expansion is too long. -/
theorem exists_toKubeFqdns_iff
    (h : lib.appendDomain ns store.svcDomain = some namespacedDomain) :
    (∃ kubeFqdns, store.toKubeFqdns name namespacedDomain = some kubeFqdns) ↔
      Expandable (lib.labels store.domain) (lib.labels ns) (lib.labels name) := by
  rw [toKubeFqdns_eq, exists_mapM_iff, expandable_iff, ← map_labels_kubeDomains h,
    List.forall_mem_map]
  refine forall₂_congr fun domain _ ↦ ?_
  rw [← Option.isSome_iff_exists, NameLib.isSome_appendDomain_iff]

/-- **What a name is expanded to.** -/
theorem toKubeFqdns_eq_some {kubeFqdns : List N}
    (h : lib.appendDomain ns store.svcDomain = some namespacedDomain)
    (hfqdns : store.toKubeFqdns name namespacedDomain = some kubeFqdns) :
    kubeFqdns.map lib.labels =
        expansions (lib.labels store.domain) (lib.labels ns) (lib.labels name) ∧
      ∀ fqdn ∈ kubeFqdns, lib.isFqdn fqdn = true := by
  rw [toKubeFqdns_eq, mapM_eq_some_iff] at hfqdns
  rw [← map_labels_kubeDomains h]
  generalize store.kubeDomains name namespacedDomain = domains at hfqdns ⊢
  induction hfqdns with
  | nil => exact ⟨rfl, List.forall_mem_nil _⟩
  | cons hfqdn _ ih =>
    obtain ⟨hlabels, htrue⟩ := lib.appendDomain_eq_some _ _ _ hfqdn
    rw [List.map_cons, List.map_cons, hlabels, ih.1]
    exact ⟨rfl, List.forall_mem_cons.2 ⟨htrue, ih.2⟩⟩

/-! ### The loops of `get_aliases` -/

variable (store) in
/-- The aliases that a search domain is about. -/
def searchAliases (name namespacedDomain searchDomain : N) : Option (List (Alias N)) :=
  match lib.trimDomain name searchDomain with
  | none => some []
  | some stripped => (store.toKubeFqdns stripped namespacedDomain).map fun kubeFqdns ↦
    ⟨stripped, some stripped⟩ :: kubeFqdns.map (⟨·, some stripped⟩)

theorem addSearchDomain_eq (out : List (Alias N)) (searchDomain : N) :
    store.addSearchDomain name namespacedDomain out searchDomain =
      (store.searchAliases name namespacedDomain searchDomain).map
        (·.foldl (addAlias lib) out) := by
  unfold addSearchDomain searchAliases
  cases lib.trimDomain name searchDomain with
  | none => rfl
  | some stripped =>
    dsimp only
    cases store.toKubeFqdns stripped namespacedDomain with
    | none => rfl
    | some kubeFqdns =>
      rw [Option.map_some, Option.map_some, List.foldl_cons, List.foldl_map]
      rfl

theorem foldlM_addSearchDomain (searchDomains : List N) (out : List (Alias N)) :
    searchDomains.foldlM (store.addSearchDomain name namespacedDomain) out =
      (searchDomains.mapM (store.searchAliases name namespacedDomain)).map
        (·.flatten.foldl (addAlias lib) out) := by
  induction searchDomains generalizing out with
  | nil => rfl
  | cons searchDomain searchDomains ih =>
    rw [List.foldlM_cons, addSearchDomain_eq, List.mapM_cons]
    cases store.searchAliases name namespacedDomain searchDomain with
    | none => rfl
    | some block =>
      refine (ih _).trans ?_
      cases searchDomains.mapM (store.searchAliases name namespacedDomain) with
      | none => rfl
      | some blocks => exact congrArg some (List.foldl_append ..).symm

/-- The aliases in their order, with those that occur several times: of the requested name, of what
it is expanded to, and of the search domains. -/
def allAliases (name : N) (kubeFqdns : List N) (blocks : List (List (Alias N))) : List (Alias N) :=
  ⟨name, none⟩ :: (kubeFqdns.map (⟨·, none⟩) ++ blocks.flatten)

/-- **What has to succeed for the aliases**, and what they are then. -/
theorem getAliases_eq_some_iff {client : Workload} {aliases : List (Alias N)} :
    store.getAliases client name = some aliases ↔
      ∃ ns namespacedDomain kubeFqdns searchDomains blocks,
        lib.fromStr client.namespace = some ns ∧
        lib.appendDomain ns store.svcDomain = some namespacedDomain ∧
        store.toKubeFqdns name namespacedDomain = some kubeFqdns ∧
        store.searchDomains client = some searchDomains ∧
        searchDomains.mapM (store.searchAliases name namespacedDomain) = some blocks ∧
        aliases = (allAliases name kubeFqdns blocks).eraseDupsBy
          fun new other ↦ lib.eq new.name other.name := by
  have hfold : ∀ (kubeFqdns : List N) (blocks : List (List (Alias N))),
      blocks.flatten.foldl (addAlias lib)
        (kubeFqdns.foldl (fun out kubeFqdn ↦ addAlias lib out ⟨kubeFqdn, none⟩)
          (addAlias lib [] ⟨name, none⟩)) =
      (allAliases name kubeFqdns blocks).eraseDupsBy
        fun new other ↦ lib.eq new.name other.name := by
    intro kubeFqdns blocks
    rw [← KeepFirst.foldl_push_nil, allAliases, List.foldl_cons, List.foldl_append, List.foldl_map]
    rfl
  refine ⟨fun h ↦ ?_, ?_⟩
  · obtain ⟨ns, hns, h⟩ := Option.bind_eq_some_iff.1 h
    obtain ⟨namespacedDomain, hdomain, h⟩ := Option.bind_eq_some_iff.1 h
    obtain ⟨kubeFqdns, hfqdns, h⟩ := Option.bind_eq_some_iff.1 h
    obtain ⟨searchDomains, hsearch, h⟩ := Option.bind_eq_some_iff.1 h
    rw [foldlM_addSearchDomain] at h
    obtain ⟨blocks, hblocks, rfl⟩ := Option.map_eq_some_iff.1 h
    exact ⟨ns, namespacedDomain, kubeFqdns, searchDomains, blocks, hns, hdomain, hfqdns, hsearch,
      hblocks, hfold kubeFqdns blocks⟩
  · rintro ⟨ns, namespacedDomain, kubeFqdns, searchDomains, blocks, hns, hdomain, hfqdns, hsearch,
      hblocks, rfl⟩
    refine Option.bind_eq_some_iff.2 ⟨ns, hns, Option.bind_eq_some_iff.2 ⟨namespacedDomain, hdomain,
      Option.bind_eq_some_iff.2 ⟨kubeFqdns, hfqdns, Option.bind_eq_some_iff.2 ⟨searchDomains,
      hsearch, ?_⟩⟩⟩⟩
    rw [foldlM_addSearchDomain, hblocks, Option.map_some, hfold]

end Store

/-! ### Panics -/

/-- **Nothing is too long**: neither the namespace before the service domain, nor what the name is
expanded to, nor what is left of it without a search domain. -/
structure Fits (lib : NameLib N) (domain ns name : N) (searchDomains : Option (List N)) : Prop where
  namespaced : octets (lib.labels ns) + octets (lib.labels domain) + 3 ≤ maxLength
  requested : Expandable (lib.labels domain) (lib.labels ns) (lib.labels name)
  stripped : ∃ domains, searchDomains = some domains ∧ ∀ searchDomain ∈ domains, ∀ stripped,
    lib.trimDomain name searchDomain = some stripped →
      Expandable (lib.labels domain) (lib.labels ns) (lib.labels stripped)

namespace Store

variable {lib : NameLib N} {store : Store lib} {ns name namespacedDomain : N} {client : Workload}

theorem exists_appendDomain_svcDomain_iff :
    (∃ namespacedDomain, lib.appendDomain ns store.svcDomain = some namespacedDomain) ↔
      octets (lib.labels ns) + octets (lib.labels store.domain) + 3 ≤ maxLength := by
  have happend := octets_append (lib.labels ns) (svcLabel :: lib.labels store.domain)
  rw [octets_svcDomain] at happend
  rw [← Option.isSome_iff_exists, NameLib.isSome_appendDomain_iff, store.labels_svcDomain]
  omega

theorem exists_searchAliases_iff
    (h : lib.appendDomain ns store.svcDomain = some namespacedDomain) {searchDomain : N} :
    (∃ block, store.searchAliases name namespacedDomain searchDomain = some block) ↔
      ∀ stripped, lib.trimDomain name searchDomain = some stripped →
        Expandable (lib.labels store.domain) (lib.labels ns) (lib.labels stripped) := by
  unfold searchAliases
  cases lib.trimDomain name searchDomain with
  | none => exact iff_of_true ⟨[], rfl⟩ nofun
  | some stripped =>
    have hexpand := @exists_toKubeFqdns_iff _ _ store ns stripped namespacedDomain h
    simp only [Option.map_eq_some_iff, Option.some.injEq, forall_eq', ← hexpand]
    exact ⟨fun ⟨_, kubeFqdns, hfqdns, _⟩ ↦ ⟨kubeFqdns, hfqdns⟩,
      fun ⟨kubeFqdns, hfqdns⟩ ↦ ⟨_, kubeFqdns, hfqdns, rfl⟩⟩

/-- **The aliases can be computed** exactly if the namespace is a name and nothing is too long. -/
theorem exists_getAliases_iff :
    (∃ aliases, store.getAliases client name = some aliases) ↔
      ∃ ns, lib.fromStr client.namespace = some ns ∧
        Fits lib store.domain ns name (store.searchDomains client) := by
  simp only [getAliases_eq_some_iff]
  refine ⟨?_, ?_⟩
  · rintro ⟨_, ns, namespacedDomain, kubeFqdns, searchDomains, blocks, hns, hdomain, hfqdns,
      hsearch, hblocks, -⟩
    refine ⟨ns, hns, exists_appendDomain_svcDomain_iff.1 ⟨_, hdomain⟩,
      (exists_toKubeFqdns_iff hdomain).1 ⟨_, hfqdns⟩, searchDomains, hsearch, ?_⟩
    intro searchDomain hmem
    exact (exists_searchAliases_iff hdomain).1 (exists_mapM_iff.1 ⟨blocks, hblocks⟩ _ hmem)
  · rintro ⟨ns, hns, hnamespaced, hrequested, searchDomains, hsearch, hstripped⟩
    obtain ⟨namespacedDomain, hdomain⟩ := exists_appendDomain_svcDomain_iff.2 hnamespaced
    obtain ⟨kubeFqdns, hfqdns⟩ := (exists_toKubeFqdns_iff hdomain).2 hrequested
    obtain ⟨blocks, hblocks⟩ := exists_mapM_iff.2 fun searchDomain hmem ↦
      (exists_searchAliases_iff hdomain).2 (hstripped searchDomain hmem)
    exact ⟨_, ns, namespacedDomain, kubeFqdns, searchDomains, blocks, hns, hdomain, hfqdns, hsearch,
      hblocks, rfl⟩

theorem new_eq_some {domain : String} {searchDomains : Workload → Option (List N)}
    {preferedServiceNamespace : Option Strng}
    (h : Store.new lib domain searchDomains preferedServiceNamespace = some store) :
    lib.fromStr domain = some store.domain ∧ store.searchDomains = searchDomains := by
  unfold Store.new at h
  split at h
  · cases h
  · next hdomain =>
    split at h
    · cases h
    · obtain rfl := Option.some.inj h
      exact ⟨hdomain, rfl⟩

/-- **Alias expansion.** For a store that could be made for a cluster domain and a namespace that is
a name, the aliases are computed without a panic exactly if nothing is too long. -/
theorem aliases_computed_iff {domainText : String} {searchDomains : Workload → Option (List N)}
    {preferedServiceNamespace : Option Strng} {domain : N}
    (hnew : Store.new lib domainText searchDomains preferedServiceNamespace = some store)
    (hdomain : lib.fromStr domainText = some domain)
    (hns : lib.fromStr client.namespace = some ns) (name : N) :
    (store.getAliases client name).isSome = true ↔
      Fits lib domain ns name (searchDomains client) := by
  obtain ⟨hstore, rfl⟩ := new_eq_some hnew
  obtain rfl : domain = store.domain := Option.some.inj (hdomain.symm.trans hstore)
  rw [Option.isSome_iff_exists, exists_getAliases_iff, hns]
  exact ⟨fun ⟨_, hsome, hfits⟩ ↦ Option.some.inj hsome ▸ hfits, fun hfits ↦ ⟨ns, rfl, hfits⟩⟩

end Store

/-- A client of a namespace. -/
def dnsClient («namespace» : Strng) : Workload where
  workloadIps := []
  waypoint := none
  protocol := .hbone
  networkMode := .standard
  uid := "client"
  name := "client"
  «namespace» := «namespace»
  trustDomain := "cluster.local"
  serviceAccount := "default"
  network := ""
  hostname := ""
  node := "node"
  nativeTunnel := false
  applicationTunnel := none
  status := .healthy
  clusterId := "Kubernetes"
  locality := default
  services := []
  capacity := 1
  trafficPolicyRefs := none

/-- The name `reviews.default.svc.cluster.local`, with the search domain. -/
def reviewsName : PlainName where
  labels := [[114, 101, 118, 105, 101, 119, 115], [100, 101, 102, 97, 117, 108, 116], svcLabel,
    [99, 108, 117, 115, 116, 101, 114], [108, 111, 99, 97, 108]]
  isFqdn := true
  isName := by decide

/-- The search domains of a pod in this cluster. -/
def clusterLocal : Workload → Option (List PlainName) :=
  (SearchDomains.dynamic "cluster.local").searchDomains plainNames

theorem aliases_computed_iff_reviews :
    ∃ store domain ns, Store.new plainNames "cluster.local" clusterLocal none = some store ∧
      plainNames.fromStr "cluster.local" = some domain ∧
      plainNames.fromStr (dnsClient "default").namespace = some ns ∧
      Fits plainNames domain ns reviewsName (clusterLocal (dnsClient "default")) := by
  have hrun : ((Store.new plainNames "cluster.local" clusterLocal none).any fun store ↦
      (store.getAliases (dnsClient "default") reviewsName).isSome) = true := by decide
  have hparsed : (plainNames.fromStr (dnsClient "default").namespace).isSome = true := by decide
  obtain ⟨store, hnew, haliases⟩ := (Option.any_eq_true _ _).1 hrun
  obtain ⟨ns, hns⟩ := Option.isSome_iff_exists.1 hparsed
  obtain ⟨hdomain, -⟩ := Store.new_eq_some hnew
  exact ⟨store, store.domain, ns, hnew, hdomain, hns,
    (Store.aliases_computed_iff hnew hdomain hns reviewsName).1 haliases⟩

/-- A cluster domain of sixty letters. -/
def longDomain : String := "mesh.production.eu-central-1.kubernetes.internal.example.com"

/-- A name of three labels, which are as long as labels can be. -/
def longName : PlainName where
  labels := List.replicate 3 (List.replicate 63 97)
  isFqdn := true
  isName := by decide

/-- The search domains of a pod in a cluster with this domain. -/
def longSearchDomains : Workload → Option (List PlainName) :=
  (SearchDomains.dynamic longDomain).searchDomains plainNames

theorem exists_getAliases_eq_none :
    ∃ store, Store.new plainNames longDomain longSearchDomains none = some store ∧
      store.getAliases (dnsClient "default") longName = none := by
  have hrun : ((Store.new plainNames longDomain longSearchDomains none).any fun store ↦
      (store.getAliases (dnsClient "default") longName).isNone) = true := by decide
  obtain ⟨store, hnew, hnone⟩ := (Option.any_eq_true _ _).1 hrun
  exact ⟨store, hnew, Option.isNone_iff_eq_none.1 hnone⟩

/-- **A long name makes the server panic** under a domain of sixty letters. -/
theorem long_name_panics :
    ∃ store, Store.new plainNames longDomain longSearchDomains none = some store ∧
      (plainNames.fromStr (dnsClient "default").namespace).isSome = true ∧
      store.getAliases (dnsClient "default") longName = none := by
  obtain ⟨store, hnew, hnone⟩ := exists_getAliases_eq_none
  exact ⟨store, hnew, by decide, hnone⟩

/-! ### How long the cluster domain may be -/

theorem octets_le_of_isName {labels : List Label} (h : IsName labels) :
    octets labels ≤ 64 * labels.length + 1 := by
  have hlabels := h.label
  clear h
  induction labels with
  | nil => exact Nat.le_refl 1
  | cons label labels ih =>
    have hlabel := (hlabels label List.mem_cons_self).2
    have hrest := ih fun l hl ↦ hlabels l (List.mem_cons_of_mem _ hl)
    rw [octets_cons, List.length_cons]
    omega

/-- Under a domain of at most 57 letters there is room for every name. -/
theorem expandable_of_short {domain ns labels : List Label} (hlabels : IsName labels)
    (hns : octets ns ≤ 65) (hdomain : octets domain ≤ 59) : Expandable domain ns labels := by
  have hlength := octets_le_of_isName hlabels
  have hmax : maxLength = 255 := rfl
  unfold Expandable
  split
  · omega
  · omega
  · omega
  · next hfour =>
    -- the last label is the short one
    intro hlast
    obtain ⟨before, rfl⟩ := List.getLast?_eq_some_iff.1 hlast
    have hbefore := octets_le_of_isName hlabels.of_append
    have happend := octets_append before [svcLabel]
    have hsvc : octets [svcLabel] = 5 := rfl
    rw [List.length_append, List.length_singleton] at hfour
    omega
  · trivial

/-- **The aliases of every name are computed**, for a namespace of one label, exactly if the cluster
domain takes at most 59 octets. -/
theorem Store.aliases_always_computed_iff {lib : NameLib N} {store : Store lib} {ns : N}
    {client : Workload} (hns : lib.fromStr client.namespace = some ns)
    (hlabel : (lib.labels ns).length = 1) (hsearch : (store.searchDomains client).isSome = true) :
    (∀ name, (store.getAliases client name).isSome = true) ↔
      octets (lib.labels store.domain) ≤ 59 := by
  have hlength := octets_le_of_isName (lib.isName ns)
  rw [hlabel] at hlength
  simp only [Option.isSome_iff_exists, Store.exists_getAliases_iff]
  refine ⟨fun h ↦ ?_, fun hdomain name ↦ ?_⟩
  · have hlong : IsName (List.replicate 3 (List.replicate 63 97)) := by decide
    obtain ⟨name, -, hname⟩ := lib.fromLabels_of_isName _ hlong
    obtain ⟨ns', -, hfits⟩ := h name
    have hrequested := hfits.requested
    rw [hname] at hrequested
    have hthree : 193 + octets (lib.labels store.domain) + 3 ≤ 255 := hrequested
    omega
  · obtain ⟨domains, hdomains⟩ := Option.isSome_iff_exists.1 hsearch
    refine ⟨ns, hns, ?_, ?_, domains, hdomains, fun _ _ stripped _ ↦ ?_⟩
    · have hmax : maxLength = 255 := rfl
      omega
    · exact expandable_of_short (lib.isName name) hlength hdomain
    · exact expandable_of_short (lib.isName stripped) hlength hdomain

theorem Store.aliases_always_computed_iff_clusterLocal :
    ∃ store, Store.new plainNames "cluster.local" clusterLocal none = some store ∧
      ∀ name, (store.getAliases (dnsClient "default") name).isSome = true := by
  have hrun : ((Store.new plainNames "cluster.local" clusterLocal none).any fun store ↦
      (store.searchDomains (dnsClient "default")).isSome &&
        decide (octets (plainNames.labels store.domain) ≤ 59)) = true := by decide
  have hparsed : ((plainNames.fromStr (dnsClient "default").namespace).any fun ns ↦
      decide ((plainNames.labels ns).length = 1)) = true := by decide
  obtain ⟨store, hnew, hstore⟩ := (Option.any_eq_true _ _).1 hrun
  obtain ⟨ns, hns, hlabel⟩ := (Option.any_eq_true _ _).1 hparsed
  obtain ⟨hsearch, hdomain⟩ := Bool.and_eq_true_iff.1 hstore
  exact ⟨store, hnew, (Store.aliases_always_computed_iff hns (of_decide_eq_true hlabel) hsearch).2
    (of_decide_eq_true hdomain)⟩

end Ztunnel.Dns
