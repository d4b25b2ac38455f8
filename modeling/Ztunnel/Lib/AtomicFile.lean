import Mathlib.Data.List.Basic

/-!
# A file that is replaced by rename

The usual way to replace a file so that a crash leaves the old or the new one: write a temporary
file, sync it, rename it into place, sync the directory. Readers see the last rename at once, but
until the directory is synced a loss of power may undo it, and with it the later ones; and a file
whose contents have not been synced may come back incomplete.

`Keeps` says that the file holds a text for good: readers see it, in a document that is complete and
synced, and no rename is left that could be undone. Where power is never lost (`lossy` is false) the
second part is not asked for.
-/

/-- The contents of a file: a text, or an incomplete one, and whether they have been synced. -/
structure Document (α : Type*) where
  text : Option α
  synced : Bool
deriving DecidableEq, Repr

/-- What power loss leaves of a document. -/
def Document.afterLoss {α : Type*} (doc : Document α) (torn : Bool) : Document α :=
  if torn && !doc.synced then ⟨none, true⟩ else ⟨doc.text, true⟩

/-- A file in a directory: what is durable, and the renames since the directory was synced. -/
structure AtomicFile (α : Type*) where
  durable : Option (Document α)
  renames : List (Document α)

namespace AtomicFile

variable {α : Type*}

/-- What readers see. -/
def visible (file : AtomicFile α) : Option (Document α) := file.renames.getLast?.or file.durable

/-- A document is renamed into place. -/
def rename (file : AtomicFile α) (doc : Document α) : AtomicFile α :=
  { file with renames := file.renames ++ [doc] }

/-- The directory is synced. -/
def sync (file : AtomicFile α) : AtomicFile α := ⟨file.visible, []⟩

/-- Power is lost after the first `n` renames. -/
def powerLoss (file : AtomicFile α) (n : ℕ) (torn : Bool) : AtomicFile α :=
  ⟨((file.renames.take n).getLast?.or file.durable).map (·.afterLoss torn), []⟩

variable {file : AtomicFile α} {doc : Document α} {x y : α} {lossy : Bool}

theorem visible_rename (file : AtomicFile α) (doc : Document α) :
    (file.rename doc).visible = some doc := by
  rw [visible, rename, List.getLast?_concat, Option.some_or]

/-- Every document that may be seen, now or after a loss, has been synced. -/
def Synced (file : AtomicFile α) : Prop :=
  ∀ doc, file.durable = some doc ∨ doc ∈ file.renames → doc.synced = true

namespace Synced

theorem of_visible (h : file.Synced) (hdoc : file.visible = some doc) : doc.synced = true := by
  obtain hlast | ⟨-, hdurable⟩ := Option.or_eq_some_iff.1 hdoc
  · exact h doc (.inr (List.mem_of_getLast? hlast))
  · exact h doc (.inl hdurable)

theorem rename (h : file.Synced) (hdoc : doc.synced = true) : (file.rename doc).Synced := by
  rintro doc' (hdurable | hmem)
  · exact h doc' (.inl hdurable)
  · obtain hmem | hmem := List.mem_append.1 hmem
    · exact h doc' (.inr hmem)
    · obtain rfl := List.mem_singleton.1 hmem
      exact hdoc

theorem sync (h : file.Synced) : file.sync.Synced := by
  rintro doc (hdurable | hmem)
  · exact h.of_visible hdurable
  · cases hmem

theorem powerLoss (file : AtomicFile α) (n : ℕ) (torn : Bool) : (file.powerLoss n torn).Synced := by
  rintro doc (hdurable | hmem)
  · obtain ⟨doc', -, rfl⟩ := Option.map_eq_some_iff.1 hdurable
    unfold Document.afterLoss
    split <;> rfl
  · cases hmem

end Synced

/-- The file holds the text for good. -/
structure Keeps (file : AtomicFile α) (x : α) (lossy : Bool) : Prop where
  visible : file.visible = some ⟨some x, true⟩
  renames : lossy = true → file.renames = []

namespace Keeps

theorem unique (hx : file.Keeps x lossy) (hy : file.Keeps y lossy) : x = y := by
  have h := hx.visible.symm.trans hy.visible
  injection h with h
  injection h with h
  exact Option.some.inj h

theorem sync (h : file.visible = some ⟨some x, true⟩) : file.sync.Keeps x lossy := ⟨h, fun _ ↦ rfl⟩

theorem powerLoss (h : file.Keeps x true) (n : ℕ) (torn : Bool) :
    (file.powerLoss n torn).Keeps x true := by
  have hrenames := h.renames rfl
  have hdurable : file.durable = some ⟨some x, true⟩ := by
    have hvisible := h.visible
    rwa [AtomicFile.visible, hrenames] at hvisible
  refine ⟨?_, fun _ ↦ rfl⟩
  show ((file.renames.take n).getLast?.or file.durable).map _ = _
  rw [hrenames, hdurable]
  cases torn <;> simp [Document.afterLoss]

end Keeps

end AtomicFile
