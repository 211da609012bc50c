import Backlog.Proofs.Sync.Message
import Backlog.Proofs.Store.Row
import Backlog.Proofs.Time.Order
import Backlog.Sync.Snapshot

/-! # Stored snapshots are read back

The row that is written for a snapshot gives the snapshot if its instants are in years of four digits
(`Snapshot.ofRow_row`); then the rows, which are sorted by texts, come in the order of time
(`Snapshot.load_map_row`).

* `Snapshot.foldlM_execute`: the statements of a transaction put rows in the place of all that were there, if no
  two are of one connection.
* `Snapshot.transact_all_or_nothing`: whatever statement fails, **the rows are those of the snapshots or those that
  were there**. -/

namespace Backlog

open Column Row

/-- **A snapshot that is read back**: its instants are in years of four digits. -/
structure Snapshot.Dated (s : Snapshot) : Prop where
  since : s.since.Dated
  heard : s.heard.Dated

namespace Snapshot

variable {s : Snapshot} {ss : List Snapshot} {rows rows' : List Row}

/-! ### Loading -/

theorem instant?_ofInstant {t : Instant} (ht : t.Dated) : instant? (ofInstant t) = some t := by
  rw [instant?, ofInstant, text?, Option.bind_some, Instant.ofStrictText?_toStrictText ht.fourDigits ht.proper]

theorem ofRow_row (hs : s.Dated) : ofRow s.row = .ok s := by
  have hprojects : s.row.get 3 (fun c => c.text?.bind fun s =>
      (Json.ofText (Json.readList Json.readString) s).toOption) = .ok s.projects := by
    refine get_eq_ok (c := .ofJson (.ofList .string s.projects)) rfl ?_
    have hread : Json.ofText (Json.readList Json.readString) (Json.ofList .string s.projects).render =
        .ok s.projects := Json.ofText_list fun p _ => ⟨Json.sound_string (d := 0) p, rfl⟩
    simp only [ofJson, text?, Option.bind_some, hread]
    rfl
  have hsince : s.row.get 4 instant? = .ok s.since := get_eq_ok rfl (instant?_ofInstant hs.since)
  have hheard : s.row.get 5 instant? = .ok s.heard := get_eq_ok rfl (instant?_ofInstant hs.heard)
  rw [ofRow, get_text (i := 0) (r := s.row) rfl, get_text (i := 1) (r := s.row) rfl,
    get_named (i := 2) (r := s.row) rfl, hprojects, hsince, hheard]
  rfl

theorem earlier_row {s' : Snapshot} (hs : s.Dated) (hs' : s'.Dated) :
    earlier s.row s'.row = s.since.atMost s'.since := Instant.atMost_toStrictText hs.since hs'.since

/-- **What is loaded from the rows of snapshots** is these, in the order of introduction. -/
theorem load_map_row (hss : ∀ s ∈ ss, s.Dated) :
    load (ss.map row) = .ok (ss.mergeSort fun s s' => s.since.atMost s'.since) := by
  have hsorted : (ss.map row).mergeSort earlier = (ss.mergeSort fun s s' => s.since.atMost s'.since).map row :=
    (List.map_mergeSort fun s hs s' hs' => (earlier_row (hss s hs) (hss s' hs')).symm).symm
  have hread : ∀ s ∈ ss.mergeSort fun s s' => s.since.atMost s'.since, ofRow s.row = .ok s :=
    fun s hs => ofRow_row (hss s (List.mem_mergeSort.mp hs))
  rw [load, hsorted, mapM_map_eq_ok hread, List.map_id']
  rfl

/-! ### Saving -/

theorem holds_row (s : Snapshot) (id : String) : s.row.holds 0 id = true ↔ s.connection = id := beq_iff_eq

theorem execute_insert_eq_ok :
    execute rows (.insert s) = .ok rows' ↔
      (∀ r ∈ rows, ¬ r.holds 0 s.connection = true) ∧ rows' = rows ++ [s.row] := by
  have hany : rows.any (·.holds 0 s.connection) = true ↔ ¬ ∀ r ∈ rows, ¬ r.holds 0 s.connection = true := by
    simp
  rw [execute, ite_error_eq_ok, hany, not_not, Except.ok.injEq, eq_comm]

/-- **The statements that save snapshots** put the rows of these in the place of all that were there, if no two
are of one connection. -/
theorem foldlM_execute :
    (statements ss).foldlM execute rows = .ok rows' ↔ (ss.map (·.connection)).Nodup ∧ rows' = ss.map row := by
  have hdistinct : (ss.map (·.connection)).Nodup ↔ ss.Pairwise fun s s' => ¬ s.row.holds 0 s'.connection = true := by
    simp only [holds_row]
    exact List.pairwise_map
  have hput : ∀ rows (s : Snapshot) rows', execute rows (.insert s) = .ok rows' ↔
      ¬ False ∧ (∀ r ∈ rows, ¬ r.holds 0 s.connection = true) ∧ rows' = rows ++ [s.row] := fun rows s rows' => by
    rw [not_false_iff, true_and, execute_insert_eq_ok]
  have hcommit : (fun rows => [Statement.commit].foldlM execute rows) = pure := rfl
  have hall : (statements ss).foldlM execute rows = ss.foldlM (fun rows s => execute rows (.insert s)) [] := by
    show (ss.map Statement.insert ++ [Statement.commit]).foldlM execute [] = _
    rw [List.foldlM_append, List.foldlM_map, hcommit, bind_pure]
  rw [hall, foldlM_insert_eq_ok hput, hdistinct]
  constructor
  · rintro ⟨rfl, -, -, hpair⟩
    exact ⟨hpair, rfl⟩
  · rintro ⟨hpair, rfl⟩
    exact ⟨rfl, fun s _ => not_false, by simp, hpair⟩

/-- **A table that may fail** at any statement, for reasons of its own. -/
def Obeys (exec : List Row → Statement → Except SyncError (List Row)) : Prop :=
  ∀ rows st rows', exec rows st = .ok rows' → execute rows st = .ok rows'

/-- What is carried out by a table that may fail is what is carried out by one that does not. -/
theorem Obeys.foldlM {exec : List Row → Statement → Except SyncError (List Row)} (h : Obeys exec) :
    ∀ {sts : List Statement} {rows rows' : List Row}, sts.foldlM exec rows = .ok rows' →
      sts.foldlM execute rows = .ok rows'
  | [], _, _, hrun => hrun
  | st :: sts, rows, rows', hrun => by
    rw [List.foldlM_cons, bind_eq_ok] at hrun ⊢
    obtain ⟨between, hfirst, hrest⟩ := hrun
    exact ⟨between, h rows st between hfirst, h.foldlM hrest⟩

/-- **Snapshots are saved or not**: they stand in the place of all rows that were there, or these stay. -/
theorem transact_all_or_nothing {exec : List Row → Statement → Except SyncError (List Row)} (h : Obeys exec)
    (rows : List Row) (ss : List Snapshot) :
    transact exec rows ss = (ss.map row, .ok ()) ∨ ∃ e, transact exec rows ss = (rows, .error e) := by
  unfold transact
  cases hrun : (statements ss).foldlM exec rows with
  | ok rows' =>
    obtain ⟨-, rfl⟩ := foldlM_execute.mp (h.foldlM hrun)
    exact .inl rfl
  | error e => exact .inr ⟨e, rfl⟩

theorem save_of_nodup (rows : List Row) (hss : (ss.map (·.connection)).Nodup) :
    save rows ss = (ss.map row, .ok ()) := by
  rw [save, transact, foldlM_execute.mpr ⟨hss, rfl⟩]

end Snapshot

end Backlog
