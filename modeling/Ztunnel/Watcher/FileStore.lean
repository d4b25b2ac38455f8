import Mathlib.Data.List.AList

/-!
# Directory scans

`FileStore::scan` of `watcher/watcher.rs`: a directory is scanned into a map from keys to values.

The files may change while a scan runs. `walkdir` and `read_to_string` are the functions `next` and
`read` of a file system (`Directory`) that every operation of the scan looks at anew, so a scan is a
small machine that is given the disk one operation at a time (`Scan.step`). On a disk that does not
change it computes `FileStore.scan` (`exists_foldl_step`), which keeps the first file of each key
(`lookup_scan`).
-/

namespace Ztunnel.Watcher

/-! ### Scans -/

section Scans

variable {δ ω P K V : Type}

/-- An item of `walkdir`'s iterator: an error for a file that is gone, another error, a file, or
something else. -/
inductive Entry (P : Type) where
  | notFound
  | failed
  | file (path : P)
  | other
deriving DecidableEq, Repr

/-- What `read_to_string` returns. -/
inductive ReadResult where
  | content (text : String)
  | notFound
  | failed
deriving DecidableEq, Repr

/-- A file system, as a scan of one directory sees it: the iterator and its next item, and the text
of a file. -/
structure Directory (δ ω P : Type) where
  root : ω
  next : δ → ω → Option (Entry P × ω)
  read : δ → P → ReadResult

/-- Why a refresh fails, by the context that is added to the error. -/
inductive ScanError (P : Type) where
  | walk
  /-- `reading {path}` -/
  | reading (path : P)
  /-- `transforming {path}` -/
  | transforming (path : P)
  /-- `directory scan task failed`: the scan panicked. -/
  | task
deriving DecidableEq, Repr

/-- A `BTreeMap` by its entries. -/
abbrev Snapshot (K V : Type) := AList fun _ : K ↦ V

/-- The fields of `FileStore` that do not change. -/
structure FileStore (δ ω P K V : Type) where
  path : Directory δ ω P
  transform : String → Option V
  keyFunc : P → Option K

/-- A running scan: at the head of its loop, or about to read a file under a key; or its result. -/
inductive Scan (ω P K V : Type) where
  | walking (walk : ω) (snapshot : Snapshot K V)
  | reading (walk : ω) (snapshot : Snapshot K V) (key : K) (path : P)
  | done (result : Except (ScanError P) (Snapshot K V))

variable [DecidableEq K]

/-- `snapshot.entry(key)`: a key that is taken keeps its value. -/
def insertVacant (snapshot : Snapshot K V) (key : K) (value : V) : Snapshot K V :=
  if key ∈ snapshot then snapshot else snapshot.insert key value

/-- What an entry adds to the map, on a disk that does not change: a value, nothing, or an error. -/
def FileStore.addEntry (store : FileStore δ ω P K V) (disk : δ) (snapshot : Snapshot K V) :
    Entry P → Except (ScanError P) (Snapshot K V)
  | .notFound | .other => .ok snapshot
  | .failed => .error .walk
  | .file path =>
    match store.keyFunc path with
    | none => .ok snapshot
    | some key =>
      match store.path.read disk path with
      | .notFound => .ok snapshot
      | .failed => .error (.reading path)
      | .content text =>
        match store.transform text with
        | none => .error (.transforming path)
        | some value => .ok (insertVacant snapshot key value)

/-- `FileStore::scan`, on a disk that does not change: the loop over the entries of the walk. -/
def FileStore.scan (store : FileStore δ ω P K V) (disk : δ) :
    Snapshot K V → List (Entry P) → Except (ScanError P) (Snapshot K V)
  | snapshot, [] => .ok snapshot
  | snapshot, entry :: entries =>
    match store.addEntry disk snapshot entry with
    | .ok snapshot => store.scan disk snapshot entries
    | .error e => .error e

namespace Scan

/-- The scan before its first operation. -/
def start (store : FileStore δ ω P K V) : Scan ω P K V := .walking store.path.root ∅

/-- One operation of `FileStore::scan` on the disk as it is then: the next item of the iterator, or
the read of a file. -/
def step (store : FileStore δ ω P K V) : Scan ω P K V → δ → Scan ω P K V
  | .walking walk snapshot, disk =>
    match store.path.next disk walk with
    | none => .done (.ok snapshot)
    | some (.notFound, walk) | some (.other, walk) => .walking walk snapshot
    | some (.failed, _) => .done (.error .walk)
    | some (.file path, walk) =>
      match store.keyFunc path with
      | none => .walking walk snapshot
      | some key => .reading walk snapshot key path
  | .reading walk snapshot key path, disk =>
    match store.path.read disk path with
    | .notFound => .walking walk snapshot
    | .failed => .done (.error (.reading path))
    | .content text =>
      match store.transform text with
      | none => .done (.error (.transforming path))
      | some value => .walking walk (insertVacant snapshot key value)
  | .done result, _ => .done result

theorem foldl_step_done (store : FileStore δ ω P K V) (disks : List δ)
    (result : Except (ScanError P) (Snapshot K V)) :
    disks.foldl (step store) (.done result) = .done result := by
  induction disks with
  | nil => rfl
  | cons disk disks ih => exact ih

/-- The items of the iterator on a disk that does not change. -/
inductive Walks (directory : Directory δ ω P) (disk : δ) : ω → List (Entry P) → Prop where
  | nil {walk : ω} (h : directory.next disk walk = none) : Walks directory disk walk []
  | cons {walk walk' : ω} {entry : Entry P} {entries : List (Entry P)}
      (h : directory.next disk walk = some (entry, walk'))
      (hrest : Walks directory disk walk' entries) : Walks directory disk walk (entry :: entries)

/-- One item: after one or two operations it is added, or the scan has failed. -/
theorem exists_foldl_step_entry (store : FileStore δ ω P K V) {disk : δ} {walk walk' : ω}
    {entry : Entry P} (h : store.path.next disk walk = some (entry, walk'))
    (snapshot : Snapshot K V) :
    ∃ n, (List.replicate n disk).foldl (step store) (.walking walk snapshot) =
      match store.addEntry disk snapshot entry with
      | .ok snapshot => .walking walk' snapshot
      | .error e => .done (.error e) := by
  cases entry with
  | notFound | failed | other => exact ⟨1, by simp [step, h, FileStore.addEntry]⟩
  | file path =>
    rcases hkey : store.keyFunc path with - | key
    · exact ⟨1, by simp [step, h, FileStore.addEntry, hkey]⟩
    · refine ⟨2, ?_⟩
      rcases hread : store.path.read disk path with text | - | -
      · rcases hvalue : store.transform text with - | value <;>
          simp [List.replicate, step, h, FileStore.addEntry, hkey, hread, hvalue]
      · simp [List.replicate, step, h, FileStore.addEntry, hkey, hread]
      · simp [List.replicate, step, h, FileStore.addEntry, hkey, hread]

/-- **A scan of a disk that does not change** ends, with what the loop computes. -/
theorem exists_foldl_step (store : FileStore δ ω P K V) {disk : δ} {walk : ω}
    {entries : List (Entry P)} (h : Walks store.path disk walk entries)
    (snapshot : Snapshot K V) :
    ∃ n, (List.replicate n disk).foldl (step store) (.walking walk snapshot) =
      .done (store.scan disk snapshot entries) := by
  induction h generalizing snapshot with
  | nil h => exact ⟨1, by simp [step, h, FileStore.scan]⟩
  | @cons walk walk' entry entries h _ ih =>
    obtain ⟨n, hn⟩ := exists_foldl_step_entry store h snapshot
    rw [FileStore.scan]
    rcases hadd : store.addEntry disk snapshot entry with e | added
    · rw [hadd] at hn
      exact ⟨n, hn⟩
    · rw [hadd] at hn
      obtain ⟨m, hm⟩ := ih added
      refine ⟨n + m, ?_⟩
      rw [List.replicate_add, List.foldl_append, hn]
      exact hm

/-- A scan that saw one disk only ends as the loop does. -/
theorem result_of_steady {store : FileStore δ ω P K V} {disk : δ} {entries : List (Entry P)}
    {seen : List δ} {result : Except (ScanError P) (Snapshot K V)}
    (hwalks : Walks store.path disk store.path.root entries) (hseen : ∀ d ∈ seen, d = disk)
    (h : seen.foldl (step store) (start store) = .done result) :
    result = store.scan disk ∅ entries := by
  obtain ⟨n, hn⟩ := exists_foldl_step store hwalks ∅
  have hstart : (List.replicate n disk).foldl (step store) (start store) =
    .done (store.scan disk ∅ entries) := hn
  rw [List.eq_replicate_of_mem hseen] at h
  -- the longer of the two runs ends as both do
  have hlong : (List.replicate (n + seen.length) disk).foldl (step store) (start store) =
      .done (store.scan disk ∅ entries) := by
    rw [List.replicate_add, List.foldl_append, hstart, foldl_step_done]
  rw [Nat.add_comm, List.replicate_add, List.foldl_append, h, foldl_step_done] at hlong
  exact Scan.done.inj hlong

end Scan

/-! ### What a scan finds -/

theorem lookup_insertVacant (snapshot : Snapshot K V) (key key' : K) (value : V) :
    (insertVacant snapshot key value).lookup key' =
      (snapshot.lookup key').or (if key = key' then some value else none) := by
  rw [insertVacant]
  by_cases hmem : key ∈ snapshot
  · rw [if_pos hmem]
    by_cases heq : key = key'
    · subst heq
      obtain ⟨taken, htaken⟩ := Option.isSome_iff_exists.1 (AList.lookup_isSome.2 hmem)
      rw [htaken, Option.some_or]
    · rw [if_neg heq, Option.or_none]
  · rw [if_neg hmem]
    by_cases heq : key = key'
    · subst heq
      rw [AList.lookup_insert, AList.lookup_eq_none.2 hmem, Option.none_or, if_pos rfl]
    · rw [AList.lookup_insert_ne (Ne.symm heq), if_neg heq, Option.or_none]

/-- The value of a file under a key: the file has the key, and its text is read and transformed. -/
def FileStore.valueAt (store : FileStore δ ω P K V) (disk : δ) (key : K) : Entry P → Option V
  | .file path =>
    if store.keyFunc path = some key then
      match store.path.read disk path with
      | .content text => store.transform text
      | .notFound | .failed => none
    else none
  | .notFound | .failed | .other => none

theorem FileStore.lookup_addEntry {store : FileStore δ ω P K V} {disk : δ}
    {snapshot added : Snapshot K V} {entry : Entry P}
    (h : store.addEntry disk snapshot entry = .ok added) (key : K) :
    added.lookup key = (snapshot.lookup key).or (store.valueAt disk key entry) := by
  cases entry with
  | notFound | other =>
    obtain rfl := Except.ok.inj h
    exact (Option.or_none).symm
  | failed => cases h
  | file path =>
    rw [FileStore.addEntry] at h
    rcases hkey : store.keyFunc path with - | key'
    · rw [hkey] at h
      obtain rfl := Except.ok.inj h
      simp [valueAt, hkey]
    rw [hkey] at h
    rcases hread : store.path.read disk path with text | - | -
    · rcases hvalue : store.transform text with - | value
      · simp [hread, hvalue] at h
      · simp only [hread, hvalue, Except.ok.injEq] at h
        rw [← h, lookup_insertVacant]
        simp [valueAt, hkey, hread, hvalue]
    · simp only [hread, Except.ok.injEq] at h
      simp [valueAt, hread, h]
    · simp [hread] at h

/-- **A scan keeps the first file of each key**, in the order of the walk. -/
theorem FileStore.lookup_scan {store : FileStore δ ω P K V} {disk : δ} {entries : List (Entry P)}
    {snapshot result : Snapshot K V} (h : store.scan disk snapshot entries = .ok result) (key : K) :
    result.lookup key = (snapshot.lookup key).or (entries.findSome? (store.valueAt disk key)) := by
  induction entries generalizing snapshot with
  | nil =>
    obtain rfl := Except.ok.inj h
    exact (Option.or_none).symm
  | cons entry entries ih =>
    rw [FileStore.scan] at h
    rcases hadd : store.addEntry disk snapshot entry with e | added
    · rw [hadd] at h
      cases h
    · rw [hadd] at h
      rw [ih h, lookup_addEntry hadd, Option.or_assoc, List.findSome?_cons]
      rcases store.valueAt disk key entry with - | value <;> rfl

end Scans

end Ztunnel.Watcher
