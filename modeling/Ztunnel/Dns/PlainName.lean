import Ztunnel.Dns.Name

/-!
# Plain names

Names as sequences of labels, with a mark for those that are fully qualified. They show that what
`NameLib` asks for can be had, and are there for concrete names. Only the texts of plain hostnames
are read, of lower case letters, digits and hyphens; the library reads more.
-/

namespace Ztunnel.Dns

instance decidableIsLabel (label : Label) : Decidable (IsLabel label) :=
  inferInstanceAs (Decidable (_ ∧ _))

instance decidableIsName (labels : List Label) : Decidable (IsName labels) :=
  haveI := List.decidableBAll IsLabel labels
  decidable_of_iff ((∀ label ∈ labels, IsLabel label) ∧ octets labels ≤ maxLength)
    ⟨fun h ↦ ⟨h.1, h.2⟩, fun h ↦ ⟨h.label, h.octets_le⟩⟩

/-- A name of labels. -/
structure PlainName where
  labels : List Label
  isFqdn : Bool
  isName : IsName labels
deriving DecidableEq

theorem IsName.nil : IsName [] := ⟨List.forall_mem_nil _, by decide⟩

theorem IsName.tail {labels : List Label} (h : IsName labels) : IsName labels.tail := by
  rcases labels with - | ⟨label, labels⟩
  · exact h
  · refine ⟨fun l hl ↦ h.label l (List.mem_cons_of_mem _ hl), ?_⟩
    have hle := h.octets_le
    rw [octets_cons] at hle
    exact (Nat.le_add_left _ _).trans hle

theorem IsName.wildcard_cons {label : Label} {labels : List Label} (h : IsName (label :: labels)) :
    IsName (wildcard :: labels) := by
  refine ⟨List.forall_mem_cons.2 ⟨by decide, h.tail.label⟩, ?_⟩
  have hle := h.octets_le
  have hpos := (h.label label List.mem_cons_self).1
  have hone : wildcard.length = 1 := rfl
  rw [octets_cons] at hle ⊢
  omega

theorem IsName.append_iff {labels labels' : List Label} (h : IsName labels) (h' : IsName labels') :
    IsName (labels ++ labels') ↔ octets (labels ++ labels') ≤ maxLength := by
  refine ⟨IsName.octets_le, fun hle ↦ ⟨fun label hlabel ↦ ?_, hle⟩⟩
  exact (List.mem_append.1 hlabel).elim (h.label label) (h'.label label)

namespace PlainName

/-- The octet of a letter in lower case. -/
def lowercase (octet : UInt8) : UInt8 := if 65 ≤ octet ∧ octet ≤ 90 then octet + 32 else octet

/-- The name in a form that is the same for equal names. -/
def canonical (name : PlainName) : List Label × Bool :=
  (name.labels.map (·.map lowercase), name.isFqdn)

/-- A letter of a hostname. -/
def isHostChar (c : Char) : Bool := c.isLower || c.isDigit || c == '-'

/-- A hostname, with a dot at its end if it is fully qualified. -/
def parse (text : List Char) : Option PlainName :=
  let fqdn := text.getLast? = some '.'
  let pieces := (if fqdn then text.dropLast else text).splitOn '.'
  let labels := pieces.map (·.map fun c ↦ UInt8.ofNat c.toNat)
  if h : (text.all fun c ↦ isHostChar c || c == '.') = true ∧ IsName labels then
    some ⟨labels, fqdn, h.2⟩
  else none

def text (name : PlainName) : String :=
  ".".intercalate (name.labels.map fun label ↦
    String.ofList (label.map fun octet ↦ Char.ofNat octet.toNat)) ++
  if name.isFqdn then "." else ""

def intoWildcard (name : PlainName) : PlainName :=
  match name with
  | ⟨[], _, _⟩ => ⟨[], true, .nil⟩
  | ⟨_ :: labels, isFqdn, h⟩ => ⟨wildcard :: labels, isFqdn, h.wildcard_cons⟩

def appendDomain (name domain : PlainName) : Option PlainName :=
  if h : IsName (name.labels ++ domain.labels) then some ⟨name.labels ++ domain.labels, true, h⟩
  else none

theorem appendDomain_eq_none_iff (name domain : PlainName) :
    appendDomain name domain = none ↔ maxLength < octets (name.labels ++ domain.labels) := by
  unfold appendDomain
  have hiff := name.isName.append_iff domain.isName
  split
  · next h => exact iff_of_false (Option.some_ne_none _) (Nat.not_lt.2 (hiff.1 h))
  · next h => exact iff_of_true rfl (Nat.lt_of_not_le fun hle ↦ h (hiff.2 hle))

end PlainName

/-- **Plain names are names.** -/
def plainNames : NameLib PlainName where
  labels := PlainName.labels
  isFqdn := PlainName.isFqdn
  eq name name' := name.canonical = name'.canonical
  fromStr text := PlainName.parse text.toList
  fromUtf8 text := PlainName.parse text.toList
  fromLabels labels := if h : IsName labels then some ⟨labels, true, h⟩ else none
  setFqdn name fqdn := { name with isFqdn := fqdn }
  appendDomain := PlainName.appendDomain
  numLabels name :=
    if name.labels.head? = some wildcard then name.labels.length - 1 else name.labels.length
  isWildcard name := name.labels.head? = some wildcard
  intoWildcard := PlainName.intoWildcard
  baseName name := ⟨name.labels.tail, true, name.isName.tail⟩
  display := PlainName.text
  toUtf8 := PlainName.text
  isName := PlainName.isName
  equivalence_eq :=
    ⟨fun _ ↦ decide_eq_true rfl, fun h ↦ decide_eq_true (of_decide_eq_true h).symm,
      fun h h' ↦ decide_eq_true ((of_decide_eq_true h).trans (of_decide_eq_true h'))⟩
  fromStr_svc := ⟨⟨[svcLabel], false, by decide⟩, rfl, rfl⟩
  fromLabels_of_isName labels h := ⟨⟨labels, true, h⟩, dif_pos h, rfl⟩
  labels_setFqdn _ _ := rfl
  isFqdn_setFqdn _ _ := rfl
  appendDomain_eq_none := PlainName.appendDomain_eq_none_iff
  appendDomain_eq_some name domain name' h := by
    unfold PlainName.appendDomain at h
    split at h
    · obtain rfl := Option.some.inj h
      exact ⟨rfl, rfl⟩
    · cases h
  isWildcard_iff _ := decide_eq_true_iff
  numLabels_eq name := by simp only [decide_eq_true_eq]
  labels_intoWildcard name h := by
    obtain ⟨labels, isFqdn, hname⟩ := name
    cases labels with
    | nil => exact absurd rfl h
    | cons label labels => rfl
  labels_baseName _ := rfl
  toUtf8_of_isFqdn name h := by
    rw [PlainName.text, h, if_pos rfl]
    exact ⟨_, rfl⟩

end Ztunnel.Dns
