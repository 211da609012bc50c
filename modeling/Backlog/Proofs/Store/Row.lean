import Backlog.Proofs.Generation.Context
import Backlog.Proofs.Time.Rfc3339
import Backlog.Store.Row

/-! # Rows are read back

The row that is written for a record gives what the store keeps of it: a ticket as it is stored
(`Ticket.ofRow_row`), a dependency and a context as they are, a project with its summary. No column is read as
another than was written, and no reader falls back on anything but the present for an instant outside the years of
four digits. -/

namespace Backlog

variable {α : Type} {now : Instant}

namespace Column

/-! ### Columns -/

theorem option?_ofOption {read : Column → Option α} {w : α → Column} {o : Option α}
    (h : ∀ a ∈ o, w a ≠ null ∧ read (w a) = some a) : option? read (ofOption w o) = some o := by
  cases o with
  | none => rfl
  | some a =>
    rw [ofOption, option?, (h a rfl).2]
    · rfl
    · exact (h a rfl).1

theorem option?_text (o : Option String) : option? text? (ofOption text o) = some o :=
  option?_ofOption fun _ _ => ⟨Column.noConfusion, rfl⟩

theorem nat?_ofNat {bound n : ℕ} (hn : n < bound) : nat? bound (ofNat n) = some n := by
  rw [ofNat, nat?, if_pos (by omega), Int.toNat_natCast]

theorem named?_ofNamed [Named α] [Named.NameFinds α] (a : α) : named? (ofNamed a) = some a :=
  Named.NameFinds.ofName?_name a

theorem real?_ofHours {h : Float} (hnan : h.isNaN = false) : real? (ofHours h) = some (storedHours h) := by
  rw [ofHours, hnan]
  rfl

theorem option?_hours (o : Option Float) :
    option? real? (ofOption ofHours o) = some ((o.filter fun h => !h.isNaN).map storedHours) := by
  cases o with
  | none => rfl
  | some h =>
    rw [ofOption, ofHours, Option.filter]
    cases h.isNaN <;> rfl

/-- **An instant is read back** if its year has four digits, and is the present otherwise. -/
theorem instant?_ofInstant {t : Instant} (ht : t.Proper) : instant? now (ofInstant t) = some (t.stored now) := by
  rw [ofInstant, instant?, text?, Option.map_some, Instant.stored]
  by_cases hyear : t.FourDigits
  · rw [Instant.ofStrictText?_toStrictText hyear ht, Option.getD_some]
    exact congrArg some (if_pos hyear).symm
  · rw [Instant.ofStrictText?_eq_none hyear, Option.getD_none]
    exact congrArg some (if_neg hyear).symm

theorem list?_ofJson {read : Json.Read α} {w : α → Json} {as : List α}
    (h : Json.ofText (Json.readList read) (Json.ofList w as).render = .ok as) :
    list? read (ofJson (.ofList w as)) = some as := by
  rw [ofJson, list?, text?, Option.map_some, h]
  rfl

end Column

open Column

namespace Row

variable {r : Row} {i : ℕ}

theorem get_eq_ok {read : Column → Option α} {c : Column} {a : α} (hcolumn : r[i]? = some c)
    (hread : read c = some a) :
    r.get i read = .ok a := by
  simp only [get, hcolumn, hread]

theorem get_text {s : String} (h : r[i]? = some (.text s)) : r.get i text? = .ok s := get_eq_ok h rfl

theorem get_named [Named α] [Named.NameFinds α] {a : α} (h : r[i]? = some (.ofNamed a)) : r.get i named? = .ok a :=
  get_eq_ok h (named?_ofNamed a)

theorem get_optionText {o : Option String} (h : r[i]? = some (.ofOption .text o)) :
    r.get i (option? text?) = .ok o :=
  get_eq_ok h (option?_text o)

theorem get_instant {t : Instant} (ht : t.Proper) (h : r[i]? = some (.ofInstant t)) :
    r.get i (instant? now) = .ok (t.stored now) :=
  get_eq_ok h (instant?_ofInstant ht)

end Row

open Row

/-! ### Tickets -/

/-- **A ticket with numbers of 32 bits** and instants of the clock. -/
structure Ticket.Sized (t : Ticket) : Prop where
  rank : ∀ n ∈ t.rank, n < word32
  commits : t.commits < word32
  createdAt : t.createdAt.Proper
  updatedAt : t.updatedAt.Proper

/-- **The row of a ticket gives the ticket** as it is stored. -/
theorem Ticket.ofRow_row {t : Ticket} (ht : t.Sized) (hhours : t.estimatedHours.isNaN = false) :
    Ticket.ofRow now t.row = .ok (t.stored now) := by
  have hfiles : t.row.get 12 (list? AffectedFile.read) = .ok t.files :=
    get_eq_ok rfl (list?_ofJson
      (Json.ofText_list fun f _ => ⟨Json.sound_ofRecord (f.copied (d := 0)), f.read_write⟩))
  have hcriteria : t.row.get 13 (list? Criterion.read) = .ok t.criteria :=
    get_eq_ok rfl (list?_ofJson
      (Json.ofText_list fun c _ => ⟨Json.sound_ofRecord (c.copied (d := 0)), c.read_write⟩))
  have hestimated : t.row.get 9 real? = .ok (storedHours t.estimatedHours) := get_eq_ok rfl (real?_ofHours hhours)
  have hactual : t.row.get 10 (option? real?) =
      .ok ((t.actualHours.filter fun h => !h.isNaN).map storedHours) := get_eq_ok rfl (option?_hours _)
  have hrank : t.row.get 11 (option? (nat? word32)) = .ok t.rank :=
    get_eq_ok rfl (option?_ofOption fun n hn => ⟨Column.noConfusion, nat?_ofNat (ht.rank n hn)⟩)
  have hcommits : t.row.get 17 (nat? word32) = .ok t.commits := get_eq_ok rfl (nat?_ofNat ht.commits)
  rw [Ticket.ofRow, hfiles, hcriteria, get_text (i := 0) (r := t.row) rfl, get_text (i := 1) (r := t.row) rfl,
    get_text (i := 2) (r := t.row) rfl, get_text (i := 3) (r := t.row) rfl, get_named (i := 4) (r := t.row) rfl,
    get_named (i := 5) (r := t.row) rfl, get_named (i := 6) (r := t.row) rfl,
    get_optionText (i := 7) (r := t.row) rfl, get_optionText (i := 8) (r := t.row) rfl, hestimated, hactual, hrank,
    get_optionText (i := 14) (r := t.row) rfl, get_optionText (i := 15) (r := t.row) rfl,
    get_optionText (i := 16) (r := t.row) rfl, hcommits, get_instant (i := 18) (r := t.row) ht.createdAt rfl,
    get_instant (i := 19) (r := t.row) ht.updatedAt rfl]
  rfl

/-! ### Dependencies and contexts -/

theorem Dependency.ofRow_row (project : String) (e : Dependency) :
    Dependency.ofRow ((e.row project).select Dependency.columns) = .ok e := by
  have hselect : (e.row project).select Dependency.columns =
      [.text e.ticket, .text e.dependsOn, .ofNamed e.kind] := rfl
  rw [hselect, Dependency.ofRow, get_text (i := 0) rfl, get_text (i := 1) rfl, get_named (i := 2) rfl]
  rfl

/-- **The row of a context gives the context** as it is read from its text, or is unfit. -/
theorem Context.ofRow_row (project : String) (c : Context) :
    Context.ofRow (c.row project) = c.reread.mapError fun _ => .unfit 2 := by
  have hcolumn : (c.row project)[2]? = some (.text c.write.render) := rfl
  simp only [Context.ofRow, Row.get, hcolumn, text?, Option.bind_some, Context.reread]
  cases Json.ofText Context.read c.write.render <;> rfl

/-! ### Projects -/

/-- **A project with numbers of their sizes** and instants of the clock. -/
structure Project.Sized (p : Project) : Prop where
  completedTickets : p.completedTickets < word32
  analyzedAt : ∀ t ∈ p.analyzedAt, t.Proper
  summary : ∀ s ∈ p.summary, s.Sized
  createdAt : p.createdAt.Proper
  updatedAt : p.updatedAt.Proper

/-- A project as it is read back. -/
def Project.stored (now : Instant) (p : Project) : Project :=
  { p with
    totalTickets := p.totalTickets % word32
    analyzedAt := p.analyzedAt.map (·.stored now)
    createdAt := p.createdAt.stored now
    updatedAt := p.updatedAt.stored now }

theorem Project.ofRow_row {p : Project} (hp : p.Sized) : Project.ofRow now p.row = .ok (p.stored now) := by
  have hanalyzed : p.row.get 6 (option? (instant? now)) = .ok (p.analyzedAt.map (·.stored now)) := by
    refine get_eq_ok (c := .ofOption .ofInstant p.analyzedAt) rfl ?_
    cases ht : p.analyzedAt with
    | none => rfl
    | some t =>
      have hread : instant? now (ofInstant t) = some (t.stored now) := instant?_ofInstant (hp.analyzedAt t ht)
      rw [ofInstant] at hread
      simp only [ofOption, ofInstant, option?, hread, Option.map_some]
  have hsummary : p.row.get 7 (lenient? Summary.read) = .ok p.summary := by
    refine get_eq_ok (c := .ofOption (fun s => .ofJson s.write) p.summary) rfl ?_
    cases hs : p.summary with
    | none => rfl
    | some s =>
      have hread := Summary.ofText_write (hp.summary s hs)
      simp only [ofOption, ofJson, lenient?, option?, text?, Option.map_some, Option.bind_some, hread]
      rfl
  have htotal : p.row.get 4 (nat? word32) = .ok (p.totalTickets % word32) :=
    get_eq_ok rfl (nat?_ofNat (Nat.mod_lt _ (by decide)))
  have hcompleted : p.row.get 5 (nat? word32) = .ok p.completedTickets :=
    get_eq_ok rfl (nat?_ofNat hp.completedTickets)
  rw [Project.ofRow, hanalyzed, hsummary, get_text (i := 0) (r := p.row) rfl, get_text (i := 1) (r := p.row) rfl,
    get_text (i := 2) (r := p.row) rfl, get_named (i := 3) (r := p.row) rfl, htotal, hcompleted,
    get_optionText (i := 8) (r := p.row) rfl, get_instant (i := 9) (r := p.row) hp.createdAt rfl,
    get_instant (i := 10) (r := p.row) hp.updatedAt rfl]
  rfl

end Backlog
