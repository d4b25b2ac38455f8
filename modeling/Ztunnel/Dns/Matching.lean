import Ztunnel.Dns.Aliases
import Ztunnel.State.BestMatch
import Ztunnel.State.Installed

/-!
# Which service a name stands for

What `find_server` promises: it goes through the candidates in their order, which are the aliases
and, behind each of them, its wildcards from the most specific one, and takes the best service of
the first candidate that has one. A service counts if it has a VIP or is a Kubernetes service.

`IsAliases` says which aliases there are without the loops of the source, by the labels of the names
only. What is kept of the aliases that are equal is the first. The search panics exactly where the
aliases cannot be computed, and so it keeps its promise exactly if they can (`findServer_iff`).
-/

namespace Ztunnel.Dns

open State

variable {N : Type}

namespace Store

variable {lib : NameLib N} (store : Store lib)

/-! ### The aliases -/

/-- What a name may be short for. -/
structure IsExpansion (ns name : N) (kubeFqdns : List N) : Prop where
  labels : kubeFqdns.map lib.labels =
    expansions (lib.labels store.domain) (lib.labels ns) (lib.labels name)
  fqdn : ∀ kubeFqdn ∈ kubeFqdns, lib.isFqdn kubeFqdn = true

/-- The aliases of a search domain: none if the name does not have the domain, and else what is
left of the name and what that may be short for. -/
inductive IsSearchAliases (ns name searchDomain : N) : List (Alias N) → Prop
  | other (h : lib.hasDomain name searchDomain = false) : IsSearchAliases ns name searchDomain []
  | stripped (stripped : N) (kubeFqdns : List N) (h : lib.hasDomain name searchDomain = true)
    (hlabels : lib.labels stripped ++ lib.labels searchDomain = lib.labels name)
    (hfqdn : lib.isFqdn stripped = false) (hexpansion : store.IsExpansion ns stripped kubeFqdns) :
    IsSearchAliases ns name searchDomain
      (⟨stripped, some stripped⟩ :: kubeFqdns.map (⟨·, some stripped⟩))

/-- **The aliases of a name**: the name, what it may be short for, and the aliases of the search
domains in their order, each once. -/
structure IsAliases (ns name : N) (searchDomains : List N) (aliases : List (Alias N)) : Prop where
  kept : ∃ kubeFqdns blocks, store.IsExpansion ns name kubeFqdns ∧
    List.Forall₂ (store.IsSearchAliases ns name) searchDomains blocks ∧
    aliases = (allAliases name kubeFqdns blocks).eraseDupsBy
      (fun new other ↦ lib.eq new.name other.name) ∧
    ∀ a ∈ allAliases name kubeFqdns blocks, ∃ b ∈ aliases, lib.eq a.name b.name = true
  requested : aliases.head? = some ⟨name, none⟩
  distinct : aliases.Pairwise fun earlier later ↦ lib.eq later.name earlier.name = false

variable {store} {ns name namespacedDomain : N}

theorem isExpansion_of_toKubeFqdns {kubeFqdns : List N}
    (h : lib.appendDomain ns store.svcDomain = some namespacedDomain)
    (hfqdns : store.toKubeFqdns name namespacedDomain = some kubeFqdns) :
    store.IsExpansion ns name kubeFqdns :=
  ⟨(toKubeFqdns_eq_some h hfqdns).1, (toKubeFqdns_eq_some h hfqdns).2⟩

theorem isSearchAliases_of_searchAliases {searchDomain : N} {block : List (Alias N)}
    (h : lib.appendDomain ns store.svcDomain = some namespacedDomain)
    (hblock : store.searchAliases name namespacedDomain searchDomain = some block) :
    store.IsSearchAliases ns name searchDomain block := by
  unfold searchAliases at hblock
  by_cases hdomain : lib.hasDomain name searchDomain = true
  · obtain ⟨stripped, htrim⟩ : ∃ stripped, lib.trimDomain name searchDomain = some stripped :=
      ⟨_, if_pos hdomain⟩
    obtain ⟨hlabels, -, hfqdn⟩ := NameLib.trimDomain_eq_some htrim
    rw [htrim] at hblock
    obtain ⟨kubeFqdns, hfqdns, rfl⟩ := Option.map_eq_some_iff.1 hblock
    exact .stripped stripped kubeFqdns hdomain hlabels hfqdn (isExpansion_of_toKubeFqdns h hfqdns)
  · have htrim : lib.trimDomain name searchDomain = none := if_neg hdomain
    rw [htrim] at hblock
    obtain rfl := Option.some.inj hblock
    exact .other (eq_false_of_ne_true hdomain)

/-- **The loops give the aliases.** -/
theorem isAliases_of_getAliases {client : Workload} {aliases : List (Alias N)}
    (h : store.getAliases client name = some aliases) :
    ∃ ns searchDomains, lib.fromStr client.namespace = some ns ∧
      store.searchDomains client = some searchDomains ∧
      store.IsAliases ns name searchDomains aliases := by
  obtain ⟨ns, namespacedDomain, kubeFqdns, searchDomains, blocks, hns, hdomain, hfqdns, hsearch,
    hblocks, rfl⟩ := getAliases_eq_some_iff.1 h
  refine ⟨ns, searchDomains, hns, hsearch, ?_, ?_, KeepFirst.pairwise_eraseDupsBy _ _⟩
  · refine ⟨kubeFqdns, blocks, isExpansion_of_toKubeFqdns hdomain hfqdns, ?_, rfl, fun a ha ↦ ?_⟩
    · exact (mapM_eq_some_iff.1 hblocks).imp fun _ _ hblock ↦
        isSearchAliases_of_searchAliases hdomain hblock
    · exact KeepFirst.exists_mem_eraseDupsBy (fun b ↦ lib.equivalence_eq.refl b.name) ha
  · rw [allAliases, List.eraseDupsBy_cons, List.head?_cons]

end Store

/-! ### The first match -/

/-- The names that are looked up, with the aliases they come from. -/
def candidates (lib : NameLib N) (aliases : List (Alias N)) : List (Alias N × N) :=
  aliases.flatMap fun a ↦ (lib.getWildcards a.name).map (a, ·)

/-- Two nested searches are one search through the candidates. -/
theorem findSome?_candidates {β : Type} (lib : NameLib N) (aliases : List (Alias N))
    (f : Alias N → N → Option β) :
    (aliases.findSome? fun a ↦ (lib.getWildcards a.name).findSome? (f a)) =
      (candidates lib aliases).findSome? fun c ↦ f c.1 c.2 := by
  induction aliases with
  | nil => rfl
  | cons a aliases ih =>
    rw [candidates, List.flatMap_cons, List.findSome?_append, List.findSome?_map]
    rw [List.findSome?_cons, ih]
    change _ = ((lib.getWildcards a.name).findSome? (f a)).or _
    cases (lib.getWildcards a.name).findSome? (f a) <;> rfl

namespace Store

variable {lib : NameLib N} (store : Store lib)

/-- **The best service of the first candidate** that has one. -/
structure IsFirstMatch (services : ServiceStore) (client : Workload) (aliases : List (Alias N))
    (result : Option (ServerMatch N)) : Prop where
  /-- For each alias, the candidates are its own name and then its wildcards. -/
  wildcards : ∀ a ∈ aliases, ∃ wildcards, lib.getWildcards a.name = a.name :: wildcards ∧
    NameLib.Wildcards (lib.labels a.name) (wildcards.map lib.labels)
  isSome_iff : result.isSome = true ↔
    ∃ c ∈ candidates lib aliases, store.eligible services (hostOf lib c.2) ≠ []
  first : ∀ m, result = some m → ∃ before searchName after,
    candidates lib aliases = before ++ (m.alias, searchName) :: after ∧
    (∀ c ∈ before, store.eligible services (hostOf lib c.2) = []) ∧
    lib.labels m.name = lib.labels searchName ∧
    store.bestMatch (store.eligible services (hostOf lib searchName)) client = some m.server
  /-- A service of the alias itself goes before those of its wildcards. -/
  exact : ∀ m, result = some m → store.eligible services (hostOf lib m.alias.name) ≠ [] →
    lib.labels m.name = lib.labels m.alias.name ∧
    store.bestMatch (store.eligible services (hostOf lib m.alias.name)) client = some m.server

/-- **The promise of `find_server`**: it returns the first match for the aliases of the name. -/
def FindsServer (services : ServiceStore) (client : Workload) (name : N) : Prop :=
  ∃ ns searchDomains aliases result,
    lib.fromStr client.namespace = some ns ∧ store.searchDomains client = some searchDomains ∧
    store.IsAliases ns name searchDomains aliases ∧
    store.findServer services client name = some result ∧
    store.IsFirstMatch services client aliases result

variable {store} {services : ServiceStore} {client : Workload}

theorem matchName_eq_none_iff {a : Alias N} {searchName : N} :
    store.matchName services client a searchName = none ↔
      store.eligible services (hostOf lib searchName) = [] := by
  rw [matchName, Option.map_eq_none_iff, Option.eq_none_iff_forall_ne_some, bestMatch]
  rw [← not_exists, ServiceMatch.exists_findBestMatch_iff, not_not]

theorem matchName_eq_some {a : Alias N} {searchName : N} {m : ServerMatch N}
    (h : store.matchName services client a searchName = some m) :
    m.alias = a ∧ lib.labels m.name = lib.labels searchName ∧
      store.bestMatch (store.eligible services (hostOf lib searchName)) client =
        some m.server := by
  obtain ⟨service, hservice, rfl⟩ := Option.map_eq_some_iff.1 h
  refine ⟨rfl, ?_, hservice⟩
  rw [lib.labels_setFqdn, lib.labels_setFqdn]

/-- **Going through the aliases finds the first match.** -/
theorem isFirstMatch (services : ServiceStore) (client : Workload) (aliases : List (Alias N)) :
    store.IsFirstMatch services client aliases
      (aliases.findSome? fun a ↦
        (lib.getWildcards a.name).findSome? (store.matchName services client a)) where
  wildcards a _ := ⟨lib.wildcards a.name, rfl, NameLib.wildcards_wildcards a.name⟩
  isSome_iff := by
    rw [findSome?_candidates, List.findSome?_isSome_iff]
    refine exists_congr fun c ↦ and_congr_right fun _ ↦ ?_
    rw [Option.isSome_iff_ne_none, Ne, matchName_eq_none_iff]
  first m hm := by
    rw [findSome?_candidates] at hm
    obtain ⟨before, c, after, heq, hc, hbefore⟩ := List.findSome?_eq_some_iff.1 hm
    obtain ⟨halias, hlabels, hbest⟩ := matchName_eq_some hc
    refine ⟨before, c.2, after, ?_, fun b hb ↦ ?_, hlabels, hbest⟩
    · rw [heq, halias]
    · exact matchName_eq_none_iff.1 (hbefore b hb)
  exact m hm hne := by
    obtain ⟨_, a, _, _, ha, -⟩ := List.findSome?_eq_some_iff.1 hm
    obtain ⟨searchName, -, hsearch⟩ := List.exists_of_findSome?_eq_some ha
    obtain ⟨rfl, -⟩ := matchName_eq_some hsearch
    -- the name itself is looked up first, and has a service
    obtain ⟨m', hm'⟩ := Option.ne_none_iff_exists'.1 fun h ↦
      hne ((@matchName_eq_none_iff _ _ store services client m.alias m.alias.name).1 h)
    rw [NameLib.getWildcards, List.findSome?_cons_of_isSome (Option.isSome_of_eq_some hm')] at ha
    exact (matchName_eq_some ha).2

/-- **DNS host matching.** The search returns the best service of the first candidate that has one,
for any services, client, search domains and name, exactly if the aliases can be computed: the
namespace of the client is a name and nothing is too long. -/
theorem findServer_iff (store : Store lib) (services : ServiceStore) (client : Workload)
    (name : N) :
    store.FindsServer services client name ↔
      ∃ ns, lib.fromStr client.namespace = some ns ∧
        Fits lib store.domain ns name (store.searchDomains client) := by
  rw [← exists_getAliases_iff]
  refine ⟨?_, ?_⟩
  · rintro ⟨_, _, _, result, -, -, -, hresult, -⟩
    obtain ⟨aliases, haliases, -⟩ := Option.map_eq_some_iff.1 hresult
    exact ⟨aliases, haliases⟩
  · rintro ⟨aliases, haliases⟩
    obtain ⟨ns, searchDomains, hns, hsearch, his⟩ := isAliases_of_getAliases haliases
    refine ⟨ns, searchDomains, aliases, _, hns, hsearch, his, ?_,
      isFirstMatch services client aliases⟩
    rw [findServer, haliases, Option.map_some]

/-- **The match is for the hostname of the service**, in a store that lists services under their
hostnames. -/
theorem hostname_of_findServer {name : N} {m : ServerMatch N} (hservices : services.Consistent)
    (h : store.findServer services client name = some (some m)) :
    ∃ searchName, lib.labels m.name = lib.labels searchName ∧
      m.server.hostname = hostOf lib searchName := by
  obtain ⟨aliases, -, hfirst⟩ := Option.map_eq_some_iff.1 h
  obtain ⟨_, searchName, _, -, -, hlabels, hbest⟩ :=
    (isFirstMatch services client aliases).first m hfirst
  refine ⟨searchName, hlabels, ?_⟩
  obtain ⟨hlisted, -⟩ := List.mem_filter.1 (ServiceMatch.mem_of_findBestMatch hbest)
  cases hhost : services.getByHost (hostOf lib searchName) with
  | none =>
    rw [hhost] at hlisted
    cases hlisted
  | some listed =>
    rw [hhost] at hlisted
    exact (hservices.byHost _ _ hhost).hostname _ hlisted

end Store

/-- A service with a VIP whose hostname is the long name. -/
def longService : Service where
  name := "svc"
  «namespace» := "default"
  hostname := Store.hostOf plainNames longName
  vips := [⟨"", .v4 0x0a000001⟩]
  ports := fun _ ↦ none
  endpoints := ∅
  subjectAltNames := []
  waypoint := none
  loadBalancer := none
  ipFamilies := none
  canonical := false

theorem longService_hostname : longService.hostname = Store.hostOf plainNames longName := rfl

theorem getByHost_insert_empty (service : Service) :
    (ServiceStore.empty.insert service).getByHost service.hostname = some [service] :=
  Function.update_self ..

/-- The store with this service only. -/
def longServices : ServiceStore := ServiceStore.empty.insert longService

/-- **The server panics instead of finding a service** whose hostname is the requested name. -/
theorem registered_name_not_found :
    ∃ store, Store.new plainNames longDomain longSearchDomains none = some store ∧
      longService ∈ store.eligible longServices (Store.hostOf plainNames longName) ∧
      store.findServer longServices (dnsClient "default") longName = none ∧
      ¬store.FindsServer longServices (dnsClient "default") longName := by
  obtain ⟨store, hnew, hnone⟩ := exists_getAliases_eq_none
  have hpanic : store.findServer longServices (dnsClient "default") longName = none := by
    rw [Store.findServer, hnone, Option.map_none]
  refine ⟨store, hnew, ?_, hpanic, ?_⟩
  · have hfound := getByHost_insert_empty longService
    rw [longService_hostname] at hfound
    rw [Store.eligible, longServices, hfound]
    exact List.mem_filter.2 ⟨List.mem_singleton_self _, rfl⟩
  · rintro ⟨_, _, _, result, -, -, -, hresult, -⟩
    rw [hpanic] at hresult
    cases hresult

end Ztunnel.Dns
