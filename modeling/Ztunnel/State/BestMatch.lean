import Ztunnel.State.Destination

/-!
# Which service is the best match

`ServiceMatch::find_best_match` is one loop with an accumulator that is overwritten. What comes out
of it is a choice between four searches of the list: the first service of the client's namespace,
the last canonical one, the last one of the preferred namespace, and the first one at all
(`findBestMatch_eq`). The first three do not look at the order of the list if only one service can
be found by each.
-/

namespace Ztunnel.State

namespace ServiceMatch

variable {clientNs preferredNs : Option Strng}

theorem service_orFirst (r : ServiceMatch) (s : Service) :
    (r.orFirst s).service = r.service.or (some s) := by
  cases r <;> rfl

theorem isCanonical_orFirst (r : ServiceMatch) (s : Service) :
    (r.orFirst s).isCanonical = r.isCanonical := by
  cases r <;> rfl

theorem service_or_of_isCanonical {r : ServiceMatch} (h : r.isCanonical = true)
    (o : Option Service) : r.service.or o = r.service := by
  cases r with
  | canonical s => rfl
  | _ => cases h

/-- **What the loop ends with**, from any match so far: a canonical one is replaced by canonical
ones only, and a first one stays first. -/
theorem service_foldBest (r : ServiceMatch) (services : List Service) :
    (foldBest clientNs preferredNs r services).service =
      ((services.find? fun s ↦ some s.namespace = clientNs).or
        (services.reverse.find? (·.canonical))).or
      (if r.isCanonical then r.service
        else (services.reverse.find? fun s ↦ preferredNs = some s.namespace).or
          (r.service.or services.head?)) := by
  induction services generalizing r with
  | nil => simp [foldBest]
  | cons s services ih =>
    rw [foldBest, List.find?_cons, List.reverse_cons, List.find?_append, List.find?_append,
      List.find?_singleton, List.find?_singleton, List.head?_cons]
    by_cases hclient : some s.namespace = clientNs
    · simp [hclient, service]
    rw [if_neg hclient]
    simp only [hclient, decide_false]
    by_cases hcanonical : s.canonical = true
    · -- a later canonical service replaces this one
      rw [if_pos hcanonical, ih]
      simp [hcanonical, isCanonical, service]
    rw [if_neg hcanonical, if_neg hcanonical, Option.or_none]
    by_cases hpreferred : preferredNs = some s.namespace ∧ r.isCanonical = false
    · obtain ⟨hns, hr⟩ := hpreferred
      have hkind : (preferredNamespace s).isCanonical = false := rfl
      have hservice : (preferredNamespace s).service = some s := rfl
      rw [if_pos ⟨hns, hr⟩, ih, hkind, hservice, hr]
      simp [hns]
    rw [if_neg hpreferred, ih, isCanonical_orFirst, service_orFirst]
    by_cases hr : r.isCanonical = true
    · rw [if_pos hr, if_pos hr, service_or_of_isCanonical hr]
    · have hother : ¬preferredNs = some s.namespace := fun h ↦
        hpreferred ⟨h, Bool.eq_false_of_not_eq_true hr⟩
      simp [hr, hother]

/-- **The best match** is the first of four searches that finds something. -/
theorem findBestMatch_eq (services : List Service) (clientNs preferredNs : Option Strng) :
    findBestMatch services clientNs preferredNs =
      (services.find? fun s ↦ some s.namespace = clientNs).or
        ((services.reverse.find? (·.canonical)).or
          ((services.reverse.find? fun s ↦ preferredNs = some s.namespace).or services.head?)) := by
  rw [findBestMatch, service_foldBest, Option.or_assoc]
  rfl

theorem mem_of_findBestMatch {services : List Service} {clientNs preferredNs : Option Strng}
    {service : Service} (h : findBestMatch services clientNs preferredNs = some service) :
    service ∈ services := by
  simp only [findBestMatch_eq, Option.or_eq_some_iff] at h
  obtain h | ⟨-, h | ⟨-, h | ⟨-, h⟩⟩⟩ := h
  · exact List.mem_of_find?_eq_some h
  · exact List.mem_reverse.1 (List.mem_of_find?_eq_some h)
  · exact List.mem_reverse.1 (List.mem_of_find?_eq_some h)
  · exact List.mem_of_head? h

/-- There is a best match if there is any service. -/
theorem exists_findBestMatch_iff {services : List Service} {clientNs preferredNs : Option Strng} :
    (∃ service, findBestMatch services clientNs preferredNs = some service) ↔ services ≠ [] := by
  refine ⟨fun ⟨_, h⟩ ↦ List.ne_nil_of_mem (mem_of_findBestMatch h), fun hne ↦ ?_⟩
  rw [← Option.isSome_iff_exists, findBestMatch_eq]
  simp [List.isSome_head?, hne]

/-- A search that can find one element only finds it wherever it stands. -/
theorem find?_eq_some_of_unique {α : Type} {p : α → Bool} {l : List α}
    (h : ∀ a ∈ l, ∀ b ∈ l, p a = true → p b = true → a = b) {a : α} :
    l.find? p = some a ↔ a ∈ l ∧ p a = true := by
  refine ⟨fun hfound ↦ ⟨List.mem_of_find?_eq_some hfound, List.find?_some hfound⟩, ?_⟩
  rintro ⟨ha, hp⟩
  obtain ⟨b, hb⟩ := Option.isSome_iff_exists.1 (List.find?_isSome.2 ⟨a, ha, hp⟩)
  rw [hb, h a ha b (List.mem_of_find?_eq_some hb) hp (List.find?_some hb)]

/-- The order of the list makes no difference to such a search. -/
theorem find?_eq_of_perm {α : Type} {p : α → Bool} {l l' : List α} (hperm : l'.Perm l)
    (h : ∀ a ∈ l, ∀ b ∈ l, p a = true → p b = true → a = b) : l'.find? p = l.find? p := by
  refine Option.ext fun a ↦ ?_
  have h' : ∀ a ∈ l', ∀ b ∈ l', p a = true → p b = true → a = b := by
    intro a ha b hb
    exact h a (hperm.mem_iff.1 ha) b (hperm.mem_iff.1 hb)
  rw [find?_eq_some_of_unique h, find?_eq_some_of_unique h', hperm.mem_iff]

/-- **Best service match.** The result is the first service of the client's namespace if there is
one, else the last canonical service, else the last service of the preferred namespace, else the
first service. So for services of different namespaces, of which one at most is canonical, the order
of the list makes no difference, unless the first service is taken for want of a better one. -/
theorem findBestMatch_best (services : List Service) (clientNs preferredNs : Option Strng) :
    findBestMatch services clientNs preferredNs =
      (services.find? fun s ↦ some s.namespace = clientNs).or
        ((services.reverse.find? (·.canonical)).or
          ((services.reverse.find? fun s ↦ preferredNs = some s.namespace).or services.head?)) ∧
    ((services.map (·.namespace)).Nodup →
      (∀ s ∈ services, ∀ t ∈ services, s.canonical = true → t.canonical = true → s = t) →
      (∃ s ∈ services, some s.namespace = clientNs ∨ s.canonical = true ∨
        preferredNs = some s.namespace) →
      ∀ services', services'.Perm services →
        findBestMatch services' clientNs preferredNs =
          findBestMatch services clientNs preferredNs) := by
  refine ⟨findBestMatch_eq services clientNs preferredNs, ?_⟩
  rintro hnodup hcanonical ⟨s, hs, hbetter⟩ services' hperm
  have hreverse : services'.reverse.Perm services.reverse :=
    (services'.reverse_perm.trans hperm).trans services.reverse_perm.symm
  have hns : ∀ ns : Option Strng, ∀ a ∈ services, ∀ b ∈ services,
      some a.namespace = ns → some b.namespace = ns → a = b := by
    intro ns a ha b hb hna hnb
    exact List.inj_on_of_nodup_map hnodup ha hb (Option.some.inj (hna.trans hnb.symm))
  have hclient : (services'.find? fun s ↦ some s.namespace = clientNs) =
      services.find? fun s ↦ some s.namespace = clientNs := by
    refine find?_eq_of_perm hperm fun a ha b hb hna hnb ↦ ?_
    exact hns clientNs a ha b hb (of_decide_eq_true hna) (of_decide_eq_true hnb)
  have hlast : services'.reverse.find? (·.canonical) = services.reverse.find? (·.canonical) := by
    refine find?_eq_of_perm hreverse fun a ha b hb ↦ ?_
    exact hcanonical a (List.mem_reverse.1 ha) b (List.mem_reverse.1 hb)
  have hpreferred : (services'.reverse.find? fun s ↦ preferredNs = some s.namespace) =
      services.reverse.find? fun s ↦ preferredNs = some s.namespace := by
    refine find?_eq_of_perm hreverse fun a ha b hb hna hnb ↦ ?_
    exact hns preferredNs a (List.mem_reverse.1 ha) b (List.mem_reverse.1 hb)
      (of_decide_eq_true hna).symm (of_decide_eq_true hnb).symm
  rw [findBestMatch_eq, findBestMatch_eq, hclient, hlast, hpreferred]
  -- one of the three searches finds something, so that the heads do not matter
  have hfound : ∀ (p : Service → Bool) {l : List Service}, s ∈ l → p s = true →
      ∃ t, l.find? p = some t :=
    fun p _ hmem hp ↦ Option.isSome_iff_exists.1 (List.find?_isSome.2 ⟨s, hmem, hp⟩)
  rcases hbetter with h | h | h
  · obtain ⟨t, ht⟩ := hfound (fun s ↦ some s.namespace = clientNs) hs (decide_eq_true h)
    rw [ht, Option.some_or, Option.some_or]
  · obtain ⟨t, ht⟩ := hfound (·.canonical) (List.mem_reverse.2 hs) h
    rw [ht, Option.some_or, Option.some_or]
  · obtain ⟨t, ht⟩ := hfound (fun s ↦ preferredNs = some s.namespace) (List.mem_reverse.2 hs)
      (decide_eq_true h)
    rw [ht, Option.some_or, Option.some_or]

end ServiceMatch

/-- A service of a hostname that several namespaces have. -/
def sharedHost («namespace» : Strng) (canonical : Bool) : Service where
  name := "svc"
  «namespace» := «namespace»
  hostname := "svc.example.com"
  vips := []
  ports := fun _ ↦ none
  endpoints := ∅
  subjectAltNames := []
  waypoint := none
  loadBalancer := none
  ipFamilies := none
  canonical := canonical

/-- A client of another namespace gets the canonical service, in whichever order. -/
theorem ServiceMatch.findBestMatch_best_canonical :
    let services := [sharedHost "a" false, sharedHost "b" true, sharedHost "c" false]
    findBestMatch services (some "d") (some "c") = some (sharedHost "b" true) ∧
      ∀ services', services'.Perm services →
        findBestMatch services' (some "d") (some "c") = some (sharedHost "b" true) := by
  intro services
  have hbest : findBestMatch services (some "d") (some "c") = some (sharedHost "b" true) := rfl
  refine ⟨hbest, fun services' hperm ↦ ?_⟩
  rw [← hbest]
  refine (findBestMatch_best services (some "d") (some "c")).2 (by decide) ?_
    ⟨sharedHost "b" true, by simp [services], .inr (.inl rfl)⟩ services' hperm
  simp [services, sharedHost]

end Ztunnel.State
