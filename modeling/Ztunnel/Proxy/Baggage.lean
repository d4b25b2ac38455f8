import Mathlib.Data.List.ReduceOption
import Ztunnel.State.FullWorkload

/-!
# Baggage

`baggage.rs`: what a workload says about itself in a header of a request, and how the other side
reads it. The header may come as several values, as HTTP allows for a list.

Texts are split at a character. Splitting undoes joining at that character if no piece contains it,
and a join of values is split as they are one after the other (`flatMap_split`), so it makes no
difference where a header was cut into values.
-/

namespace Ztunnel.Proxy

open Ztunnel.State

/-! ### Header values -/

/-- The bytes a header value may have. -/
def isValid (b : UInt8) : Bool := (32 ≤ b && b != 127) || b == 9

/-- The bytes that `to_str` takes for characters. -/
def isVisibleAscii (b : UInt8) : Bool := (32 ≤ b && b < 127) || b == 9

/-- `http::HeaderValue`. -/
structure HeaderValue where
  bytes : List UInt8
  valid : ∀ b ∈ bytes, isValid b = true

/-- `http::header::ToStrError`. -/
inductive ToStrError where
  | toStrError

namespace HeaderValue

/-- `HeaderValue::from_str`. -/
def fromStr (s : Strng) : Option HeaderValue :=
  let bytes := s.toByteArray.data.toList
  if h : bytes.all isValid = true then some ⟨bytes, List.all_eq_true.1 h⟩ else none

/-- `HeaderValue::to_str`. -/
def toStr (value : HeaderValue) : Except ToStrError Strng :=
  if value.bytes.all isVisibleAscii then
    .ok (String.ofList (value.bytes.map fun b ↦ Char.ofNat b.toNat))
  else .error .toStrError

end HeaderValue

/-! ### Baggage -/

/-- `Baggage`. -/
structure Baggage where
  clusterId : Option Strng
  «namespace» : Option Strng
  workloadName : Option Strng
  serviceName : Option Strng
  revision : Option Strng
  region : Option Strng
  zone : Option Strng
deriving DecidableEq, Repr

/-- `str::split`, at a character. -/
def split (sep : Char) (s : Strng) : List Strng := (s.toList.splitOn sep).map String.ofList

/-- An entry of the header. -/
def entry (key value : Strng) : Strng := key ++ "=" ++ value

namespace Baggage

/-- `Baggage::default`. -/
def default : Baggage := ⟨none, none, none, none, none, none, none⟩

/-- The entries of the header. -/
def entries (baggage : Baggage) (workloadType : Strng) : List (Option Strng) :=
  [baggage.clusterId.map (entry "k8s.cluster.name"),
    baggage.namespace.map (entry "k8s.namespace.name"),
    baggage.workloadName.map (entry ("k8s." ++ workloadType ++ ".name")),
    baggage.serviceName.map (entry "service.name"),
    baggage.revision.map (entry "service.version"),
    baggage.region.map (entry "cloud.region"),
    baggage.zone.map (entry "cloud.availability_zone")]

/-- The value of a key is read into a field. -/
def assign (baggage : Baggage) (key : Strng) (val : Option Strng) : Baggage :=
  match key with
  | "k8s.cluster.name" => { baggage with clusterId := val }
  | "k8s.namespace.name" => { baggage with «namespace» := val }
  | "k8s.deployment.name" | "k8s.cronjob.name" | "k8s.pod.name" | "k8s.job.name" =>
    { baggage with workloadName := val }
  | "service.name" => { baggage with serviceName := val }
  | "service.version" => { baggage with revision := val }
  | "cloud.region" => { baggage with region := val }
  | "cloud.availability_zone" => { baggage with zone := val }
  | _ => baggage

/-- The body of the loop over what stands between commas. -/
def read (baggage : Baggage) (s : Strng) : Baggage :=
  match split '=' s with
  | key :: value :: _ => baggage.assign key (if value = "" then none else some value)
  | _ => baggage

end Baggage

/-- `baggage_header_val`. -/
def baggageHeaderVal (baggage : Baggage) (workloadType : Strng) : Strng :=
  ",".intercalate (baggage.entries workloadType).reduceOption

/-- `parse_baggage_header`. -/
def parseBaggageHeader (headers : List HeaderValue) : Except ToStrError Baggage :=
  headers.foldlM (fun baggage hv ↦ do
    let v ← hv.toStr
    pure ((split ',' v).foldl Baggage.read baggage)) .default

/-- A field that is not empty. -/
def nonEmpty (s : Strng) : Option Strng := if s = "" then none else some s

end Ztunnel.Proxy

namespace Ztunnel.State

open Ztunnel.Proxy

/-- `Workload::baggage`. -/
def FullWorkload.baggage (w : FullWorkload) : Baggage where
  clusterId := nonEmpty w.clusterId
  «namespace» := nonEmpty w.namespace
  workloadName := nonEmpty w.workloadName
  serviceName := nonEmpty w.canonicalName
  revision := nonEmpty w.canonicalRevision
  region := nonEmpty w.locality.region
  zone := nonEmpty w.locality.zone

end Ztunnel.State

namespace Ztunnel.Proxy

open Ztunnel.State

/-! ### The type of a workload -/

/-- `xds::istio::workload::WorkloadType`. -/
inductive WorkloadType where
  | deployment
  | cronjob
  | pod
  | job
deriving DecidableEq, Repr

namespace WorkloadType

/-- The getter of the wire form: an unknown value is the default. -/
def ofRaw (raw : Int) : WorkloadType :=
  if raw = 1 then cronjob else if raw = 2 then pod else if raw = 3 then job else deployment

/-- `as_str_name`. -/
def asStrName : WorkloadType → Strng
  | deployment => "DEPLOYMENT"
  | cronjob => "CRONJOB"
  | pod => "POD"
  | job => "JOB"

end WorkloadType

/-- `str::to_lowercase`, of an ASCII text. -/
def toLowercase (s : Strng) : Strng := String.ofList (s.toList.map Char.toLower)

/-- The `workload_type` of the workload that is converted from the wire. -/
def workloadType (raw : Int) : Strng := toLowercase (WorkloadType.ofRaw raw).asStrName

/-! ### Visible texts -/

/-- A character that `to_str` accepts. -/
def VisibleChar (c : Char) : Prop := 32 ≤ c.toNat ∧ c.toNat < 127 ∨ c.toNat = 9

instance decidableVisibleChar (c : Char) : Decidable (VisibleChar c) :=
  inferInstanceAs (Decidable (_ ∨ _))

/-- A text of visible characters. -/
def Visible (s : Strng) : Prop := ∀ c ∈ s.toList, VisibleChar c

/-- A visible text without the separators. -/
def Plain (s : Strng) : Prop := ∀ c ∈ s.toList, VisibleChar c ∧ c ≠ ',' ∧ c ≠ '='

instance decidablePlain (s : Strng) : Decidable (Plain s) :=
  List.decidableBAll (fun c ↦ VisibleChar c ∧ c ≠ ',' ∧ c ≠ '=') s.toList

theorem utf8EncodeChar_of_visible {c : Char} (h : VisibleChar c) :
    String.utf8EncodeChar c = [c.val.toUInt8] := by
  have hle : c.val.toNat ≤ 127 := by
    have hnat : c.val.toNat = c.toNat := Char.toNat_val
    rw [VisibleChar] at h
    omega
  exact String.utf8EncodeChar_eq_singleton (if_pos (UInt32.le_iff_toNat_le.2 hle))

theorem toNat_toUInt8_of_visible {c : Char} (h : VisibleChar c) :
    c.val.toUInt8.toNat = c.toNat := by
  rw [VisibleChar] at h
  rw [UInt32.toNat_toUInt8, Char.toNat_val]
  omega

/-- A visible text has a byte for each character. -/
theorem toByteArray_of_visible {s : Strng} (h : Visible s) :
    s.toByteArray.data.toList = s.toList.map fun c ↦ c.val.toUInt8 := by
  have hbytes : ∀ l : List Char, (∀ c ∈ l, VisibleChar c) →
      l.flatMap String.utf8EncodeChar = l.map fun c ↦ c.val.toUInt8 := by
    intro l hl
    induction l with
    | nil => rfl
    | cons c l ih =>
      rw [List.flatMap_cons, utf8EncodeChar_of_visible (hl c List.mem_cons_self), List.map_cons,
        ih fun d hd ↦ hl d (List.mem_cons_of_mem c hd)]
      rfl
  rw [← String.utf8Encode_toList, List.utf8Encode, List.data_toByteArray, hbytes _ h]

theorem isVisibleAscii_of_visible {c : Char} (h : VisibleChar c) :
    isVisibleAscii c.val.toUInt8 = true ∧ isValid c.val.toUInt8 = true := by
  have hnat := toNat_toUInt8_of_visible h
  rw [VisibleChar, ← hnat] at h
  simp only [isVisibleAscii, isValid, Bool.or_eq_true, Bool.and_eq_true, decide_eq_true_eq,
    bne_iff_ne, beq_iff_eq, UInt8.le_iff_toNat_le, UInt8.lt_iff_toNat_lt, ne_eq, ← UInt8.toNat_inj]
  simp only [UInt8.reduceToNat]
  omega

/-- **A visible text is a header value**, and is read back from it. -/
theorem exists_fromStr {s : Strng} (h : Visible s) :
    ∃ value, HeaderValue.fromStr s = some value ∧ value.toStr = .ok s := by
  have hbytes := toByteArray_of_visible h
  have hvalid : ∀ b ∈ s.toByteArray.data.toList, isValid b = true := by
    rw [hbytes]
    intro b hb
    obtain ⟨c, hc, rfl⟩ := List.mem_map.1 hb
    exact (isVisibleAscii_of_visible (h c hc)).2
  refine ⟨⟨_, hvalid⟩, dif_pos (List.all_eq_true.2 hvalid), ?_⟩
  have hall : s.toByteArray.data.toList.all isVisibleAscii = true := by
    rw [hbytes, List.all_map, List.all_eq_true]
    exact fun c hc ↦ (isVisibleAscii_of_visible (h c hc)).1
  have hchars : (s.toByteArray.data.toList.map fun b ↦ Char.ofNat b.toNat) = s.toList := by
    rw [hbytes, List.map_map]
    refine (List.map_congr_left fun c hc ↦ ?_).trans (List.map_id _)
    show Char.ofNat c.val.toUInt8.toNat = c
    rw [toNat_toUInt8_of_visible (h c hc), Char.ofNat_toNat]
  rw [HeaderValue.toStr, if_pos hall, hchars, String.ofList_toList]

/-- Visible texts are read one after the other. -/
theorem foldlM_of_visible {values : List Strng} (h : ∀ v ∈ values, Visible v)
    (baggage : Baggage) :
    ∃ headers, values.mapM HeaderValue.fromStr = some headers ∧
      (headers.foldlM (fun baggage hv ↦ do
        let v ← hv.toStr
        pure ((split ',' v).foldl Baggage.read baggage)) baggage : Except ToStrError Baggage) =
          .ok ((values.flatMap (split ',')).foldl Baggage.read baggage) := by
  induction values generalizing baggage with
  | nil => exact ⟨[], rfl, rfl⟩
  | cons v values ih =>
    obtain ⟨value, hvalue, htext⟩ := exists_fromStr (h v List.mem_cons_self)
    obtain ⟨headers, hheaders, hread⟩ :=
      ih (fun v' hv' ↦ h v' (List.mem_cons_of_mem v hv')) ((split ',' v).foldl Baggage.read baggage)
    refine ⟨value :: headers, ?_, ?_⟩
    · rw [List.mapM_cons, hvalue, hheaders]
      rfl
    · rw [List.flatMap_cons, List.foldl_append, ← hread, List.foldlM_cons, htext]
      rfl

/-! ### Splitting and joining -/

theorem split_of_not_mem {sep : Char} {s : Strng} (h : sep ∉ s.toList) : split sep s = [s] := by
  rw [split, List.splitOn_eq_singleton h, List.map_singleton, String.ofList_toList]

theorem splitOn_intercalate_eq_flatMap (sep : Char) {ls : List (List Char)} (hne : ls ≠ []) :
    ([sep].intercalate ls).splitOn sep = ls.flatMap (List.splitOn sep) := by
  induction ls with
  | nil => exact absurd rfl hne
  | cons l ls ih =>
    rcases ls with - | ⟨l', ls⟩
    · rw [List.intercalate_singleton, List.flatMap_singleton]
    · rw [List.intercalate_cons_cons, List.append_assoc, List.singleton_append,
        List.splitOn_append_cons_self, ih (List.cons_ne_nil l' ls)]
      rfl

/-- **A join is split as its parts are**, one after the other. -/
theorem flatMap_split {sep : Char} {values : List Strng} (hne : values ≠ []) :
    values.flatMap (split sep) = split sep ((String.singleton sep).intercalate values) := by
  have hlists : values.map String.toList ≠ [] := fun hnil ↦ hne (List.map_eq_nil_iff.1 hnil)
  rw [split, String.toList_intercalate, String.toList_singleton,
    splitOn_intercalate_eq_flatMap sep hlists, List.flatMap_map, List.map_flatMap]
  rfl

theorem eq_or_mem_of_mem_intercalate {sep c : Char} {ls : List (List Char)}
    (h : c ∈ [sep].intercalate ls) : c = sep ∨ ∃ l ∈ ls, c ∈ l := by
  induction ls with
  | nil => exact nomatch h
  | cons l ls ih =>
    rcases ls with - | ⟨l', ls⟩
    · rw [List.intercalate_singleton] at h
      exact .inr ⟨l, List.mem_cons_self, h⟩
    · rw [List.intercalate_cons_cons, List.append_assoc, List.mem_append, List.mem_append,
        List.mem_singleton] at h
      rcases h with h | h | h
      · exact .inr ⟨l, List.mem_cons_self, h⟩
      · exact .inl h
      · obtain heq | ⟨l'', hl'', hc⟩ := ih h
        · exact .inl heq
        · exact .inr ⟨l'', List.mem_cons_of_mem l hl'', hc⟩

theorem mem_intercalate_of_mem {sep c : Char} {ls : List (List Char)} {l : List Char} (hl : l ∈ ls)
    (hc : c ∈ l) : c ∈ [sep].intercalate ls := by
  induction ls with
  | nil => exact nomatch hl
  | cons l' ls ih =>
    rcases ls with - | ⟨l'', ls⟩
    · rw [List.intercalate_singleton, ← List.mem_singleton.1 hl]
      exact hc
    · rw [List.intercalate_cons_cons, List.append_assoc, List.mem_append, List.mem_append]
      rcases List.mem_cons.1 hl with rfl | hl
      · exact .inl hc
      · exact .inr (.inr (ih hl))

/-- **Splitting undoes joining** if no piece contains the separator. -/
theorem split_intercalate {sep : Char} {pieces : List Strng} (hne : pieces ≠ [])
    (h : ∀ s ∈ pieces, sep ∉ s.toList) :
    split sep ((String.singleton sep).intercalate pieces) = pieces := by
  rw [← flatMap_split hne]
  refine (List.flatMap_congr fun s hs ↦ split_of_not_mem (h s hs)).trans ?_
  exact List.flatMap_singleton' pieces

/-! ### The round trip -/

theorem toList_entry (key value : Strng) :
    (entry key value).toList = key.toList ++ ['='] ++ value.toList := by
  rw [entry, String.toList_append, String.toList_append]
  rfl

theorem entry_eq_intercalate (key value : Strng) :
    entry key value = (String.singleton '=').intercalate [key, value] := by
  refine String.toList_inj.1 ?_
  rw [toList_entry, String.toList_intercalate, List.map_cons, List.map_singleton,
    List.intercalate_cons_cons, List.intercalate_singleton, String.toList_singleton]

theorem read_entry {key value : Strng} (hkey : Plain key) (hvalue : Plain value)
    (hne : value ≠ "") (baggage : Baggage) :
    baggage.read (entry key value) = baggage.assign key (some value) := by
  have hsplit : split '=' (entry key value) = [key, value] := by
    have hnot : ∀ s ∈ [key, value], '=' ∉ s.toList := by
      intro s hs hmem
      rcases List.mem_pair.1 hs with rfl | rfl
      · exact (hkey _ hmem).2.2 rfl
      · exact (hvalue _ hmem).2.2 rfl
    rw [entry_eq_intercalate, split_intercalate (List.cons_ne_nil key [value]) hnot]
  rw [Baggage.read, hsplit]
  exact congrArg (fun val ↦ baggage.assign key val) (if_neg hne)

/-- An optional entry is read into a field that was not set. -/
theorem read_optional (key : Strng) {value : Option Strng} (hkey : Plain key)
    (hvalue : ∀ v ∈ value, Plain v ∧ v ≠ "") {baggage : Baggage} (f : Option Strng → Baggage)
    (hset : ∀ v, baggage.assign key v = f v) (hnone : f none = baggage) :
    (value.map (entry key)).elim baggage baggage.read = f value := by
  rcases value with - | v
  · exact hnone.symm
  · obtain ⟨hplain, hne⟩ := hvalue v rfl
    exact (read_entry hkey hplain hne baggage).trans (hset (some v))

theorem foldl_reduceOption {α β : Type} (f : β → α → β) (b : β) (l : List (Option α)) :
    l.reduceOption.foldl f b = l.foldl (fun b o ↦ o.elim b (f b)) b := by
  induction l generalizing b with
  | nil => rfl
  | cons o l ih =>
    rcases o with - | a
    · exact ih b
    · exact ih (f b a)

/-- The keys that the four types of workloads give are those that are read as such. -/
theorem workloadKey_cases (raw : Int) :
    "k8s." ++ workloadType raw ++ ".name" = "k8s.deployment.name" ∨
      "k8s." ++ workloadType raw ++ ".name" = "k8s.cronjob.name" ∨
      "k8s." ++ workloadType raw ++ ".name" = "k8s.pod.name" ∨
      "k8s." ++ workloadType raw ++ ".name" = "k8s.job.name" := by
  rw [workloadType]
  cases WorkloadType.ofRaw raw <;> decide

theorem assign_workloadKey (raw : Int) (baggage : Baggage) (v : Option Strng) :
    baggage.assign ("k8s." ++ workloadType raw ++ ".name") v =
      { baggage with workloadName := v } := by
  rcases workloadKey_cases raw with h | h | h | h
  all_goals
    rw [h]
    rfl

theorem plain_workloadKey (raw : Int) : Plain ("k8s." ++ workloadType raw ++ ".name") := by
  rcases workloadKey_cases raw with h | h | h | h
  all_goals
    rw [h]
    decide

/-- The values of the fields. -/
def Baggage.values (b : Baggage) : List (Option Strng) :=
  [b.clusterId, b.namespace, b.workloadName, b.serviceName, b.revision, b.region, b.zone]

/-- Texts without separators, none of them empty. -/
def Baggage.Plain (b : Baggage) : Prop := ∀ o ∈ b.values, ∀ v ∈ o, Proxy.Plain v ∧ v ≠ ""

/-- **The entries of a baggage, read one after the other, are that baggage.** -/
theorem foldl_entries {b : Baggage} (hb : b.Plain) (raw : Int) :
    (b.entries (workloadType raw)).reduceOption.foldl Baggage.read .default = b := by
  obtain ⟨cluster, ns, name, service, revision, region, zone⟩ := b
  simp only [Baggage.Plain, Baggage.values, List.forall_mem_cons] at hb
  obtain ⟨hcluster, hnamespace, hname, hservice, hrevision, hregion, hzone, -⟩ := hb
  rw [foldl_reduceOption]
  show List.foldl _ (Baggage.mk none none none none none none none)
    [cluster.map _, ns.map _, name.map _, service.map _, revision.map _, region.map _, zone.map _] =
      _
  -- each entry finds its field as it was in the default
  rw [List.foldl_cons, read_optional "k8s.cluster.name" (by decide) hcluster
      (fun v ↦ ⟨v, none, none, none, none, none, none⟩) (fun _ ↦ rfl) rfl,
    List.foldl_cons, read_optional "k8s.namespace.name" (by decide) hnamespace
      (fun v ↦ ⟨cluster, v, none, none, none, none, none⟩) (fun _ ↦ rfl) rfl,
    List.foldl_cons, read_optional _ (plain_workloadKey raw) hname
      (fun v ↦ ⟨cluster, ns, v, none, none, none, none⟩) (assign_workloadKey raw _) rfl,
    List.foldl_cons, read_optional "service.name" (by decide) hservice
      (fun v ↦ ⟨cluster, ns, name, v, none, none, none⟩) (fun _ ↦ rfl) rfl,
    List.foldl_cons, read_optional "service.version" (by decide) hrevision
      (fun v ↦ ⟨cluster, ns, name, service, v, none, none⟩) (fun _ ↦ rfl) rfl,
    List.foldl_cons, read_optional "cloud.region" (by decide) hregion
      (fun v ↦ ⟨cluster, ns, name, service, revision, v, none⟩) (fun _ ↦ rfl) rfl,
    List.foldl_cons, read_optional "cloud.availability_zone" (by decide) hzone
      (fun v ↦ ⟨cluster, ns, name, service, revision, region, v⟩) (fun _ ↦ rfl) rfl,
    List.foldl_nil]

theorem exists_of_mem_entries {b : Baggage} (hb : b.Plain) {raw : Int} {s : Strng}
    (h : s ∈ (b.entries (workloadType raw)).reduceOption) :
    ∃ key value, s = entry key value ∧ Plain key ∧ Plain value := by
  have hof : ∀ {key : Strng} {o : Option Strng}, o ∈ b.values → Plain key →
      some s = o.map (entry key) → ∃ key value, s = entry key value ∧ Plain key ∧ Plain value := by
    intro key o ho hkey heq
    obtain ⟨value, hvalue, rfl⟩ := Option.map_eq_some_iff.1 heq.symm
    exact ⟨key, value, rfl, hkey, (hb o ho value hvalue).1⟩
  have hmem := List.reduceOption_mem_iff.1 h
  simp only [Baggage.entries, List.mem_cons, List.not_mem_nil, or_false] at hmem
  rcases hmem with h | h | h | h | h | h | h
  · exact hof (by simp [Baggage.values]) (by decide) h
  · exact hof (by simp [Baggage.values]) (by decide) h
  · exact hof (by simp [Baggage.values]) (plain_workloadKey raw) h
  all_goals exact hof (by simp [Baggage.values]) (by decide) h

theorem mem_entry {key value : Strng} {c : Char} (h : c ∈ (entry key value).toList) :
    (c ∈ key.toList ∨ c = '=') ∨ c ∈ value.toList := by
  rwa [toList_entry, List.mem_append, List.mem_append, List.mem_singleton] at h

theorem visible_entries {b : Baggage} (hb : b.Plain) (raw : Int) :
    ∀ s ∈ (b.entries (workloadType raw)).reduceOption, Visible s ∧ ',' ∉ s.toList := by
  intro s hs
  obtain ⟨key, value, rfl, hkey, hvalue⟩ := exists_of_mem_entries hb hs
  have hchar : ∀ c ∈ (entry key value).toList, VisibleChar c ∧ c ≠ ',' := by
    intro c hc
    obtain (hc | rfl) | hc := mem_entry hc
    · exact ⟨(hkey c hc).1, (hkey c hc).2.1⟩
    · decide
    · exact ⟨(hvalue c hc).1, (hvalue c hc).2.1⟩
  exact ⟨fun c hc ↦ (hchar c hc).1, fun hc ↦ (hchar _ hc).2 rfl⟩

/-- Read as one text, the header is the baggage. -/
theorem read_header {b : Baggage} (hb : b.Plain) (raw : Int) :
    (split ',' (baggageHeaderVal b (workloadType raw))).foldl Baggage.read .default = b := by
  have hentries := foldl_entries hb raw
  have hvisible := visible_entries hb raw
  rw [baggageHeaderVal]
  rcases hpieces : (b.entries (workloadType raw)).reduceOption with - | ⟨s, pieces⟩
  · -- an empty baggage has an empty header, which is read as an entry without a key
    rw [hpieces] at hentries
    exact hentries
  · have hcut : split ',' (",".intercalate (s :: pieces)) = s :: pieces := by
      refine split_intercalate (List.cons_ne_nil s pieces) fun s' hs' ↦ ?_
      rw [← hpieces] at hs'
      exact (hvisible s' hs').2
    rw [hcut, ← hpieces, hentries]

/-- **The header of a baggage is read back as that baggage**, into however many values it was cut
at its commas. -/
theorem parse_header {b : Baggage} (hb : b.Plain) (raw : Int) {values : List Strng}
    (hvalues : ",".intercalate values = baggageHeaderVal b (workloadType raw)) :
    ∃ headers, values.mapM HeaderValue.fromStr = some headers ∧
      parseBaggageHeader headers = .ok b := by
  have hvisible : ∀ v ∈ values, Visible v := by
    intro v hv c hc
    have hmem : c ∈ (",".intercalate values).toList := by
      rw [String.toList_intercalate]
      exact mem_intercalate_of_mem (List.mem_map_of_mem hv) hc
    rw [hvalues, baggageHeaderVal, String.toList_intercalate] at hmem
    obtain rfl | ⟨l, hl, hc⟩ := eq_or_mem_of_mem_intercalate hmem
    · decide
    · obtain ⟨s, hs, rfl⟩ := List.mem_map.1 hl
      exact (visible_entries hb raw s hs).1 c hc
  obtain ⟨headers, hheaders, hread⟩ := foldlM_of_visible hvisible .default
  refine ⟨headers, hheaders, hread.trans (congrArg Except.ok ?_)⟩
  have hheader := read_header hb raw
  rw [← hvalues] at hheader
  rcases values with - | ⟨v, values⟩
  · exact hheader
  · rw [flatMap_split (List.cons_ne_nil v values)]
    exact hheader

theorem plain_of_mem_nonEmpty {s v : Strng} (hs : Plain s) (h : v ∈ nonEmpty s) :
    Plain v ∧ v ≠ "" := by
  obtain ⟨hne, hv⟩ := Option.ite_none_left_eq_some.1 h
  obtain rfl := Option.some.inj hv
  exact ⟨hs, hne⟩

/-- The fields of a workload that its baggage has. -/
def reported (w : FullWorkload) : List Strng :=
  [w.clusterId, w.namespace, w.workloadName, w.canonicalName, w.canonicalRevision,
    w.locality.region, w.locality.zone]

/-- **Baggage round trip.** Take any workload whose reported fields are visible ASCII texts without
`,` and `=`, and the type of any workload from the wire. The header rendered from its baggage is a
header value that is parsed to that baggage; and so are several header values that it was cut into
at commas. -/
theorem baggage_roundtrip (w : FullWorkload) (hplain : ∀ s ∈ reported w, Plain s) (raw : Int) :
    let header := baggageHeaderVal w.baggage (workloadType raw)
    (∃ value, HeaderValue.fromStr header = some value ∧
      parseBaggageHeader [value] = .ok w.baggage) ∧
    ∀ values : List Strng, ",".intercalate values = header →
      ∃ headers, values.mapM HeaderValue.fromStr = some headers ∧
        parseBaggageHeader headers = .ok w.baggage := by
  intro header
  have hvalues : w.baggage.values = (reported w).map nonEmpty := rfl
  have hb : w.baggage.Plain := by
    intro o ho v hv
    rw [hvalues] at ho
    obtain ⟨s, hs, rfl⟩ := List.mem_map.1 ho
    exact plain_of_mem_nonEmpty (hplain s hs) hv
  refine ⟨?_, fun values hjoin ↦ parse_header hb raw hjoin⟩
  have hwhole : ",".intercalate [header] = header := rfl
  obtain ⟨headers, hheaders, hparse⟩ := parse_header hb raw hwhole
  obtain ⟨value, hvalue, hsome⟩ := Option.bind_eq_some_iff.1 hheaders
  obtain rfl := Option.some.inj hsome
  exact ⟨value, hvalue, hparse⟩

/-- A job in a zone, without a revision. -/
def nightlyJob : FullWorkload where
  workloadIps := []
  waypoint := none
  protocol := .hbone
  networkMode := .standard
  uid := "uid"
  name := "nightly-1"
  «namespace» := "ns"
  trustDomain := "cluster.local"
  serviceAccount := "default"
  network := ""
  hostname := ""
  node := "node"
  nativeTunnel := false
  applicationTunnel := none
  status := .healthy
  clusterId := "Kubernetes"
  locality := ⟨"", "zone", ""⟩
  services := []
  capacity := 1
  trafficPolicyRefs := none
  workloadName := "nightly"
  workloadType := "job"
  canonicalName := "nightly"
  canonicalRevision := ""
  encodedLabels := none
  egressPolicies := none

theorem baggage_roundtrip_nightlyJob :
    workloadType 3 = "job" ∧
    ∃ headers, ["k8s.cluster.name=Kubernetes,k8s.namespace.name=ns",
        "k8s.job.name=nightly,service.name=nightly,cloud.availability_zone=zone"].mapM
          HeaderValue.fromStr = some headers ∧
      parseBaggageHeader headers = .ok ⟨some "Kubernetes", some "ns", some "nightly",
        some "nightly", none, none, some "zone"⟩ :=
  ⟨by decide, (baggage_roundtrip nightlyJob (by decide) 3).2 _ (by decide)⟩

end Ztunnel.Proxy
