import Mathlib.Algebra.Order.BigOperators.Group.List
import Mathlib.Algebra.Order.Ring.Int
import Mathlib.Algebra.Order.Ring.Nat
import Mathlib.Data.List.Infix

/-!
# Names of the DNS library (`dns/name_util.rs`)

The DNS server works on the `Name`s of a library. `NameLib` has the operations it uses, with what is
documented of them: a name is a sequence of labels and may be fully qualified, and an operation is
described by what it makes of the labels. Everything else, such as which texts are names, how a name
is printed and which names are equal, is left open.

A label has between 1 and 63 octets, and a name has at most 255, where each label takes one more for
its length and the root at the end takes one (`octets`). So a part of a name is a name, but two
names cannot always be appended.

`hasDomain`, `trimDomain` and the wildcards of a name are the server's own. They use `num_labels`,
which does not count a leading `*`.
-/

namespace Ztunnel.Dns

abbrev Label := List UInt8

/-- `*`. -/
def wildcard : Label := [42]

/-- `svc`. -/
def svcLabel : Label := [115, 118, 99]

/-- The length of a name on the wire. -/
def octets (labels : List Label) : ℕ := (labels.map fun label ↦ label.length + 1).sum + 1

/-- The largest length of a name. -/
def maxLength : ℕ := 255

theorem octets_append (labels labels' : List Label) :
    octets (labels ++ labels') + 1 = octets labels + octets labels' := by
  simp only [octets, List.map_append, List.sum_append]
  omega

theorem octets_cons (label : Label) (labels : List Label) :
    octets (label :: labels) = label.length + 1 + octets labels := by
  simp only [octets, List.map_cons, List.sum_cons]
  omega

theorem octets_pos (labels : List Label) : 0 < octets labels := Nat.succ_pos _

theorem octets_le_append_left (labels labels' : List Label) :
    octets labels ≤ octets (labels ++ labels') := by
  have := octets_append labels labels'
  have := octets_pos labels'
  omega

/-- A label of a name. -/
def IsLabel (label : Label) : Prop := 0 < label.length ∧ label.length ≤ 63

/-- The labels of a name. -/
structure IsName (labels : List Label) : Prop where
  label : ∀ label ∈ labels, IsLabel label
  octets_le : octets labels ≤ maxLength

theorem IsName.of_append {labels labels' : List Label} (h : IsName (labels ++ labels')) :
    IsName labels where
  label label hlabel := h.label label (List.mem_append_left _ hlabel)
  octets_le := (octets_le_append_left labels labels').trans h.octets_le

/-- `Name`, as far as the server uses it. What returns a `Result` in the library is `none` here when
it fails. -/
structure NameLib (N : Type) where
  /-- `Name::iter`. -/
  labels : N → List Label
  /-- `Name::is_fqdn`. -/
  isFqdn : N → Bool
  /-- `Name::eq`, which a `HashSet` of names goes by. -/
  eq : N → N → Bool
  /-- `Name::from_str`. -/
  fromStr : String → Option N
  /-- `Name::from_utf8`. -/
  fromUtf8 : String → Option N
  /-- `Name::from_labels`. -/
  fromLabels : List Label → Option N
  /-- `Name::set_fqdn`. -/
  setFqdn : N → Bool → N
  /-- `Name::append_domain`. -/
  appendDomain : N → N → Option N
  /-- `Name::num_labels`. -/
  numLabels : N → ℕ
  /-- `Name::is_wildcard`. -/
  isWildcard : N → Bool
  /-- `Name::into_wildcard`. -/
  intoWildcard : N → N
  /-- `Name::base_name`. -/
  baseName : N → N
  /-- `Name::to_string`. -/
  display : N → String
  /-- `Name::to_utf8`. -/
  toUtf8 : N → String
  /-- The limits on labels and names. -/
  isName : ∀ name, IsName (labels name)
  /-- Equality of names is an equivalence. -/
  equivalence_eq : Equivalence fun name name' ↦ eq name name' = true
  /-- The text `svc` is a name of this one label. -/
  fromStr_svc : ∃ svc, fromStr "svc" = some svc ∧ labels svc = [svcLabel]
  /-- Labels within the limits make up a name. -/
  fromLabels_of_isName : ∀ ls, IsName ls → ∃ name, fromLabels ls = some name ∧ labels name = ls
  labels_setFqdn : ∀ name fqdn, labels (setFqdn name fqdn) = labels name
  isFqdn_setFqdn : ∀ name fqdn, isFqdn (setFqdn name fqdn) = fqdn
  /-- A name and a domain are appended unless this exceeds the limit. -/
  appendDomain_eq_none : ∀ name domain,
    appendDomain name domain = none ↔ maxLength < octets (labels name ++ labels domain)
  /-- The result is fully qualified. -/
  appendDomain_eq_some : ∀ name domain name', appendDomain name domain = some name' →
    labels name' = labels name ++ labels domain ∧ isFqdn name' = true
  /-- The first label is `*`. -/
  isWildcard_iff : ∀ name, isWildcard name = true ↔ (labels name).head? = some wildcard
  /-- The number of labels, discounting a leading `*`. -/
  numLabels_eq : ∀ name,
    numLabels name = if isWildcard name then (labels name).length - 1 else (labels name).length
  /-- The first label is replaced by `*`. -/
  labels_intoWildcard : ∀ name, labels name ≠ [] →
    labels (intoWildcard name) = wildcard :: (labels name).tail
  /-- The first label is dropped. -/
  labels_baseName : ∀ name, labels (baseName name) = (labels name).tail
  /-- A fully qualified name is printed with a dot at its end. -/
  toUtf8_of_isFqdn : ∀ name, isFqdn name = true → ∃ text, toUtf8 name = text ++ "."

attribute [simp] NameLib.labels_setFqdn NameLib.isFqdn_setFqdn NameLib.labels_baseName

namespace NameLib

variable {N : Type} (lib : NameLib N)

theorem isSome_fromStr_svc : (lib.fromStr "svc").isSome = true := by
  obtain ⟨svc, hsvc, -⟩ := lib.fromStr_svc
  rw [hsvc, Option.isSome_some]

/-- `SVC`. -/
def svc : N := (lib.fromStr "svc").get lib.isSome_fromStr_svc

@[simp]
theorem labels_svc : lib.labels lib.svc = [svcLabel] := by
  obtain ⟨svc, hsvc, hlabels⟩ := lib.fromStr_svc
  simp only [NameLib.svc, hsvc, Option.get_some, hlabels]

theorem numLabels_le (name : N) : lib.numLabels name ≤ (lib.labels name).length := by
  rw [numLabels_eq]
  split <;> omega

theorem le_numLabels (name : N) : (lib.labels name).length ≤ lib.numLabels name + 1 := by
  rw [numLabels_eq]
  split <;> omega

variable {lib}

theorem numLabels_of_not_isWildcard {name : N} (h : lib.isWildcard name = false) :
    lib.numLabels name = (lib.labels name).length := by
  rw [numLabels_eq, h, if_neg Bool.false_ne_true]

theorem isSome_appendDomain_iff {name domain : N} :
    (lib.appendDomain name domain).isSome = true ↔
      octets (lib.labels name ++ lib.labels domain) ≤ maxLength := by
  rw [Option.isSome_iff_ne_none, Ne, appendDomain_eq_none, Nat.not_lt]

/-! ### Domains -/

variable (lib)

/-- `has_domain`. -/
def hasDomain (name domain : N) : Bool :=
  if lib.isWildcard domain || lib.numLabels name ≤ lib.numLabels domain then false
  else
    let numSkip := (lib.labels name).length - (lib.labels domain).length
    (lib.labels name).drop numSkip == lib.labels domain

theorem isSome_fromLabels_take (name : N) (k : ℕ) :
    (lib.fromLabels ((lib.labels name).take k)).isSome = true := by
  have hname := lib.isName name
  rw [← List.take_append_drop k (lib.labels name)] at hname
  obtain ⟨name', hname', -⟩ := lib.fromLabels_of_isName _ hname.of_append
  rw [hname', Option.isSome_some]

/-- The name of the first labels of a name. It cannot fail. -/
def firstLabels (name : N) (k : ℕ) : N :=
  (lib.fromLabels ((lib.labels name).take k)).get (lib.isSome_fromLabels_take name k)

/-- `trim_domain`. -/
def trimDomain (name domain : N) : Option N :=
  if lib.hasDomain name domain then
    let numLabels := (lib.labels name).length - lib.numLabels domain
    some (lib.setFqdn (lib.firstLabels name numLabels) false)
  else none

variable {lib} {name domain : N}

@[simp]
theorem labels_firstLabels (name : N) (k : ℕ) :
    lib.labels (lib.firstLabels name k) = (lib.labels name).take k := by
  have hname := lib.isName name
  rw [← List.take_append_drop k (lib.labels name)] at hname
  obtain ⟨name', hname', hlabels⟩ := lib.fromLabels_of_isName _ hname.of_append
  simp only [firstLabels, hname', Option.get_some, hlabels]

/-- **A name has a domain** if it ends with its labels and has more labels; neither counts the `*`
at its start, and there is no domain with one. -/
theorem hasDomain_iff :
    lib.hasDomain name domain = true ↔ lib.isWildcard domain = false ∧
      lib.numLabels domain < lib.numLabels name ∧ lib.labels domain <:+ lib.labels name := by
  unfold hasDomain
  by_cases hwild : lib.isWildcard domain = true
  · simp [hwild]
  by_cases hle : lib.numLabels name ≤ lib.numLabels domain
  · simp [hle, Nat.not_lt.2 hle]
  · rw [Bool.not_eq_true] at hwild
    have hlt : lib.numLabels domain < lib.numLabels name := Nat.lt_of_not_le hle
    have hcond : (lib.isWildcard domain || decide (lib.numLabels name ≤ lib.numLabels domain)) =
        false := by
      rw [hwild, Bool.false_or, decide_eq_false hle]
    rw [hcond, if_neg Bool.false_ne_true, beq_iff_eq, List.suffix_iff_eq_drop]
    exact ⟨fun h ↦ ⟨hwild, hlt, h.symm⟩, fun h ↦ h.2.2.symm⟩

/-- **What is left when a domain is trimmed.** -/
theorem trimDomain_eq_some {name' : N} (h : lib.trimDomain name domain = some name') :
    lib.labels name' ++ lib.labels domain = lib.labels name ∧ lib.labels name' ≠ [] ∧
      lib.isFqdn name' = false := by
  unfold trimDomain at h
  split at h
  · next hdomain =>
    obtain ⟨hwild, hlt, hsuffix⟩ := hasDomain_iff.1 hdomain
    obtain rfl := Option.some.inj h
    rw [labels_setFqdn, labels_firstLabels, isFqdn_setFqdn, numLabels_of_not_isWildcard hwild]
    rw [numLabels_of_not_isWildcard hwild] at hlt
    have hlength : (lib.labels domain).length < (lib.labels name).length :=
      hlt.trans_le (lib.numLabels_le name)
    refine ⟨?_, ?_, rfl⟩
    · nth_rewrite 3 [← List.take_append_drop
        ((lib.labels name).length - (lib.labels domain).length) (lib.labels name)]
      rw [← List.suffix_iff_eq_drop.1 hsuffix]
    · rw [Ne, List.take_eq_nil_iff]
      rintro (hzero | hnil)
      · omega
      · rw [hnil] at hlength
        exact absurd hlength (Nat.not_lt_zero _)
  · cases h

/-! ### Wildcards -/

variable (lib)

theorem length_baseName_lt {name : N} (h : 1 < lib.numLabels name) :
    (lib.labels (lib.baseName name)).length < (lib.labels name).length := by
  have := lib.numLabels_le name
  rw [labels_baseName, List.length_tail]
  omega

/-- The loop of `get_wildcards`. -/
def wildcards (name : N) : List N :=
  if _h : 1 < lib.numLabels name then lib.intoWildcard name :: wildcards (lib.baseName name) else []
termination_by (lib.labels name).length
decreasing_by exact lib.length_baseName_lt _h

/-- `get_wildcards`. -/
def getWildcards (name : N) : List N := name :: lib.wildcards name

variable {lib}

/-- The wildcards for some labels, from the most specific one: any labels but the last give way to
the `*`, except that `*.rest` does not become wider by it when only one label is left. -/
structure Wildcards (labels : List Label) (found : List (List Label)) : Prop where
  mem_iff : ∀ w, w ∈ found ↔ ∃ before label rest, labels = before ++ label :: rest ∧
    w = wildcard :: rest ∧ rest ≠ [] ∧ (label = wildcard → 2 ≤ rest.length)
  decreasing : found.Pairwise fun w w' ↦ w'.length < w.length

theorem one_lt_numLabels_iff {name : N} {label : Label} {rest : List Label}
    (h : lib.labels name = label :: rest) :
    1 < lib.numLabels name ↔ rest ≠ [] ∧ (label = wildcard → 2 ≤ rest.length) := by
  have hwild := lib.isWildcard_iff name
  rw [h, List.head?_cons, Option.some.injEq] at hwild
  rw [numLabels_eq, h, List.length_cons, ← List.length_pos_iff, ← hwild]
  split_ifs with hname
  · simp only [hname, true_imp_iff]
    omega
  · refine ⟨fun hlt ↦ ⟨Nat.lt_of_succ_lt_succ hlt, fun htrue ↦ absurd htrue hname⟩, fun h ↦ ?_⟩
    exact Nat.succ_lt_succ h.1

theorem Wildcards.cons {label : Label} {rest : List Label} {found : List (List Label)}
    (h : Wildcards rest found) (hrest : rest ≠ []) (hlabel : label = wildcard → 2 ≤ rest.length) :
    Wildcards (label :: rest) ((wildcard :: rest) :: found) where
  mem_iff w := by
    rw [List.mem_cons, h.mem_iff]
    refine ⟨?_, ?_⟩
    · rintro (rfl | ⟨before, label', rest', rfl, hw⟩)
      · exact ⟨[], label, rest, rfl, rfl, hrest, hlabel⟩
      · exact ⟨label :: before, label', rest', rfl, hw⟩
    · rintro ⟨before, label', rest', heq, rfl, hw⟩
      rcases before with - | ⟨first, before⟩
      · obtain ⟨-, rfl⟩ := List.cons.inj heq
        exact .inl rfl
      · obtain ⟨-, rfl⟩ := List.cons.inj heq
        exact .inr ⟨before, label', rest', rfl, rfl, hw⟩
  decreasing := by
    refine List.pairwise_cons.2 ⟨fun w hw ↦ ?_, h.decreasing⟩
    obtain ⟨before, label', rest', rfl, rfl, -⟩ := (h.mem_iff w).1 hw
    rw [List.length_cons, List.length_cons, List.length_append, List.length_cons]
    omega

theorem Wildcards.nil {labels : List Label}
    (h : ∀ label rest, labels = label :: rest → rest ≠ [] → label = wildcard ∧ rest.length < 2) :
    Wildcards labels [] where
  mem_iff w := by
    refine iff_of_false List.not_mem_nil ?_
    rintro ⟨before, label, rest, rfl, -, hrest, hlabel⟩
    have hpos := List.length_pos_of_ne_nil hrest
    rcases before with - | ⟨first, before⟩
    · obtain ⟨rfl, hlt⟩ := h label rest rfl hrest
      exact absurd (hlabel rfl) (Nat.not_le.2 hlt)
    · obtain ⟨-, hlt⟩ := h first (before ++ label :: rest) rfl (List.append_ne_nil_of_right_ne_nil
        before (List.cons_ne_nil label rest))
      rw [List.length_append, List.length_cons] at hlt
      omega
  decreasing := .nil

/-- **The loop finds the wildcards of a name**, each less specific than the one before. -/
theorem wildcards_wildcards (name : N) :
    Wildcards (lib.labels name) ((lib.wildcards name).map lib.labels) := by
  induction h : (lib.labels name).length using Nat.strong_induction_on generalizing name with
  | _ n ih =>
    subst h
    rw [wildcards]
    split
    · next hcount =>
      have hrest := ih _ (lib.length_baseName_lt hcount) (lib.baseName name) rfl
      rw [labels_baseName] at hrest
      rw [List.map_cons]
      rcases hlabels : lib.labels name with - | ⟨label, rest⟩
      · have := lib.numLabels_le name
        rw [hlabels, List.length_nil] at this
        omega
      · rw [lib.labels_intoWildcard name (hlabels ▸ List.cons_ne_nil label rest), hlabels,
          List.tail_cons]
        rw [hlabels, List.tail_cons] at hrest
        obtain ⟨hne, hlabel⟩ := (one_lt_numLabels_iff hlabels).1 hcount
        exact hrest.cons hne hlabel
    · next hcount =>
      refine .nil fun label rest hlabels hne ↦ ?_
      rw [one_lt_numLabels_iff hlabels, not_and, Classical.not_imp, Nat.not_le] at hcount
      exact hcount hne

end NameLib

end Ztunnel.Dns
