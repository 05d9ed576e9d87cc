import KindTable.Slot

namespace KindTable

structure Artifact (α : Type) where
  consumer : String
  policy : SlotPolicy
  rows : List α
  deriving DecidableEq, Repr

namespace Artifact

variable {α β : Type}

def size (a : Artifact α) : Nat := a.rows.length

def isAlignedWith (a : Artifact α) (b : Artifact β) : Bool := a.policy == b.policy && a.size == b.size

end Artifact

structure Consumer (m : Type → Type) (α : Type) where
  name : String
  policy : SlotPolicy
  row : Slot → m α

namespace Consumer

variable {m : Type → Type} [Monad m] {α : Type}

def run (c : Consumer m α) (s : Selection) : m (Artifact α) := do
  let rows ← (s.slots c.policy).mapM c.row
  return ⟨c.name, c.policy, rows⟩

end Consumer

abbrev RowConsumer := Consumer Id

def RowConsumer.artifact {α : Type} (c : RowConsumer α) (s : Selection) : Artifact α := (c.run s).run

theorem RowConsumer.rows_artifact {α : Type} (c : RowConsumer α) (s : Selection) :
    (RowConsumer.artifact c s).rows = (s.slots c.policy).map fun slot => (c.row slot).run := by
  simp [RowConsumer.artifact, Consumer.run]

theorem RowConsumer.size_artifact {α : Type} (c : RowConsumer α) (s : Selection) :
    (RowConsumer.artifact c s).size = s.width c.policy := by
  rw [Artifact.size, rows_artifact, List.length_map, Selection.length_slots]

theorem RowConsumer.getElem?_rows {α : Type} (c : RowConsumer α) (s : Selection) (i : Nat) :
    (RowConsumer.artifact c s).rows[i]? = (s.slots c.policy)[i]?.map fun slot => (c.row slot).run := by
  rw [rows_artifact, List.getElem?_map]

end KindTable
