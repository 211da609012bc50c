import Backlog.Proofs.Json.Number
import Backlog.Proofs.Named

/-! # Parts of tickets and projects as documents

Files, acceptance criteria and the summaries of generation runs are read back from the text that is written for
them, lists of files and of criteria too. The numbers of a summary have to be of the sizes that are read. -/

namespace Backlog

open Json

variable {α : Type}

/-- **What is written for a value is read back** from its text. -/
theorem Json.ofText_render_of_sound {d : ℕ} {r : Read α} {v : Json} {a : α} (hv : Sound d v)
    (hread : r v = .ok a) :
    ofText r v.render = .ok a := by
  rw [ofText_render r hv.whole, hread]

theorem Json.ofText_list {d : ℕ} {r : Read α} {w : α → Json} {as : List α}
    (h : ∀ a ∈ as, Sound d (w a) ∧ r (w a) = .ok a) : ofText (readList r) (ofList w as).render = .ok as :=
  ofText_render_of_sound (sound_ofList fun a ha => (h a ha).1) (readList_ofList fun a ha => (h a ha).2)

/-! ### Parts of tickets -/

theorem AffectedFile.copied (f : AffectedFile) {d : ℕ} : Copied (Sound d) f AffectedFile.fields default f :=
  .string (sound_string _) <| .string (sound_string _) <|
    .of (Named.sound_write _) (Named.read_write _) <| .nil _

theorem AffectedFile.read_write (f : AffectedFile) : read f.write = .ok f :=
  readRecord_ofRecord (by decide) (f.copied (d := 0))

theorem Criterion.copied (c : Criterion) {d : ℕ} : Copied (Sound d) c Criterion.fields default c :=
  .string (sound_string _) <| .of (sound_bool _) rfl <| .nil _

theorem Criterion.read_write (c : Criterion) : read c.write = .ok c :=
  readRecord_ofRecord (by decide) (c.copied (d := 0))

/-! ### Summaries -/

/-- A small number that may be absent. -/
def IsByte (o : Option ℕ) : Prop := ∀ n ∈ o, n < 256

theorem readOption_byte {o : Option ℕ} (ho : IsByte o) :
    readOption (readNat 256) (ofOption Json.ofNat o) = .ok o :=
  readOption_ofOption fun n hn => ⟨Json.noConfusion, readNat_ofNat (ho n hn) (by decide)⟩

theorem sound_byte {d : ℕ} {o : Option ℕ} (ho : IsByte o) : Sound d (ofOption Json.ofNat o) :=
  sound_ofOption fun n hn => sound_ofNat (lt_trans (ho n hn) (by decide))

/-- **A summary with numbers of 64 bits**, and a complexity of 8. -/
structure Summary.Sized (s : Summary) : Prop where
  tickets : s.tickets < word64
  features : s.features < word64
  complexity : IsByte s.complexity

theorem Summary.copied {s : Summary} (hs : s.Sized) {d : ℕ} : Copied (Sound (d + 1)) s Summary.fields default s :=
  .of (sound_ofNat hs.tickets) (readNat_ofNat hs.tickets le_rfl) <|
    .of (sound_ofNat hs.features) (readNat_ofNat hs.features le_rfl) <|
    .of (sound_textList _) (readList_textList _) <| .of (sound_textList _) (readList_textList _) <|
    .of (sound_byte hs.complexity) (readOption_byte hs.complexity) <| .of (sound_bool _) rfl <| .nil _

theorem Summary.ofText_write {s : Summary} (hs : s.Sized) : ofText Summary.read s.write.render = .ok s :=
  ofText_render_of_sound (sound_ofRecord (s.copied hs (d := 0)))
    (readRecord_ofRecord (by decide) (s.copied hs (d := 0)))

end Backlog
