import Backlog.Config.Basic
import Backlog.Proofs.Json.Record
import Backlog.Sync.Message

/-! # Names are read back

Every value is found by its name (`NameFinds`), so what is written for it is read as the value, also within a
message (`read_write`, `readBuffered_write`). -/

namespace Backlog.Named

/-- **Every value is found by its name.** -/
class NameFinds (α : Type) [Named α] : Prop where
  ofName?_name (a : α) : ofName? (name a) = some a

instance : NameFinds ClientType := ⟨fun a => by cases a <;> rfl⟩
instance : NameFinds ProjectStatus := ⟨fun a => by cases a <;> rfl⟩
instance : NameFinds TicketStatus := ⟨fun a => by cases a <;> rfl⟩
instance : NameFinds TicketType := ⟨fun a => by cases a <;> rfl⟩
instance : NameFinds Priority := ⟨fun a => by cases a <;> rfl⟩
instance : NameFinds ChangeKind := ⟨fun a => by cases a <;> rfl⟩
instance : NameFinds DependencyKind := ⟨fun a => by cases a <;> rfl⟩

variable {α : Type} [Named α]

theorem sound_write {d : ℕ} (a : α) : Json.Sound d (write a) := Json.sound_string _

/-- Within a message an empty object beside a name stands for `null`; otherwise names are read as anywhere else. -/
theorem readBuffered_eq_ok {v : Json} {a : α} :
    readBuffered v = .ok a ↔
      read v = .ok a ∨ ∃ s, v = .object [(s, .object [])] ∧ ofName? s = some a := by
  unfold readBuffered read Json.readBufferedName Json.readName
  grind

variable [NameFinds α]

theorem read_write (a : α) : read (write a) = .ok a := by
  rw [read, write, Json.readName, NameFinds.ofName?_name]

theorem readBuffered_write (a : α) : readBuffered (write a) = .ok a := by
  rw [readBuffered, write, Json.readBufferedName, NameFinds.ofName?_name]

end Backlog.Named
