import Backlog.Proofs.History
import Backlog.Proofs.Store.Database
import Backlog.Proofs.Store.Lasting
import Backlog.Store.Update

/-! # Work on the tables follows the store

Where tickets last, work on the tables that hold a store does what the store does (`serve_ofStore`): it gives the
same answer, the tables it leaves hold the store that is left, and if it fails they are the same as before. Each
statement with its columns is the writing of one row (`updateTicket_ofStore`); a computation goes step by step. -/

namespace Backlog

namespace Column

/-! ### Columns of what is stored -/

theorem ofHours_stored (h : Float) : ofHours (storedHours h) = ofHours h := by
  rw [ofHours, ofHours, isNaN_storedHours, storedHours_storedHours]

theorem ofOption_hours_stored (o : Option Float) :
    ofOption ofHours ((o.filter fun h => !h.isNaN).map storedHours) = ofOption ofHours o := by
  cases o with
  | none => rfl
  | some h =>
    rw [Option.filter]
    cases hnumber : h.isNaN with
    | true =>
      rw [ofOption, ofHours, hnumber]
      rfl
    | false => exact ofHours_stored h

end Column

theorem Ticket.row_stored {t : Ticket} {now : Instant} (hcreated : t.createdAt.stored now = t.createdAt)
    (hupdated : t.updatedAt.stored now = t.updatedAt) : (t.stored now).row = t.row := by
  simp only [Ticket.row, Ticket.stored, hcreated, hupdated, Column.ofHours_stored, Column.ofOption_hours_stored]

namespace TableAction

open Database (ofStore)

variable {α β : Type} {s : Store} {now : Instant} {id actor : String} {t u : Ticket} {a : TableAction α}
  {f : α → TableAction β} {d d' : Database}

/-! ### Computations step by step -/

theorem runOn_bind_ok {x : α} (h : a.runOn d = (.ok x, d')) : (a >>= f).runOn d = (f x).runOn d' := by
  unfold runOn at *
  rw [ExceptT.run_bind, StateT.run_bind, h]
  rfl

theorem runOn_bind_error {e : WorkError} (h : a.runOn d = (.error e, d')) :
    (a >>= f).runOn d = (.error e, d') := by
  unfold runOn at *
  rw [ExceptT.run_bind, StateT.run_bind, h]
  rfl

theorem runOn_get_bind {f : Database → TableAction α} : (get >>= f).runOn d = (f d).runOn d := rfl

/-- A transaction that fails leaves what was there before. -/
theorem runOn_transaction : a.transaction.runOn d = match a.runOn d with
    | (.ok x, d') => (.ok x, d')
    | (.error e, _) => (.error e, d) := by
  rw [transaction, runOn_get_bind]
  unfold runOn
  rw [ExceptT.run_tryCatch, StateT.run_bind]
  rcases a.run.run d with ⟨e | x, d'⟩
  · rfl
  · rfl

/-! ### Failure -/

/-- A computation that leaves the tables alone if it fails. -/
def Quiet (a : TableAction α) : Prop := ∀ d e d', a.runOn d = (.error e, d') → d' = d

/-- A computation that leaves the tables alone in any case. -/
def Reads (a : TableAction α) : Prop := ∀ d, (a.runOn d).2 = d

theorem Reads.quiet (ha : Reads a) : Quiet a := fun d _ _ h => (congrArg Prod.snd h).symm.trans (ha d)

theorem quiet_transaction (a : TableAction α) : Quiet a.transaction := by
  intro d e d' h
  rw [runOn_transaction] at h
  rcases hrun : a.runOn d with ⟨e' | x, d''⟩
  · rw [hrun] at h
    exact (congrArg Prod.snd h).symm
  · rw [hrun] at h
    cases h

/-- What fails after nothing but reading leaves the tables alone. -/
theorem Reads.bind (ha : Reads a) (hf : ∀ x, Quiet (f x)) : Quiet (a >>= f) := by
  intro d e d' h
  have hsame := ha d
  rcases hrun : a.runOn d with ⟨e' | x, d''⟩
  · rw [runOn_bind_error hrun] at h
    rw [hrun] at hsame
    exact (congrArg Prod.snd h).symm.trans hsame
  · rw [runOn_bind_ok hrun] at h
    rw [hrun] at hsame
    exact (hf x d'' e d' h).trans hsame

theorem Quiet.map (ha : Quiet a) (g : α → β) : Quiet (a >>= fun x => pure (g x)) := by
  intro d e d' h
  rcases hrun : a.runOn d with ⟨e' | x, d''⟩
  · rw [runOn_bind_error hrun] at h
    exact (congrArg Prod.snd h).symm.trans (ha d e' d'' hrun)
  · rw [runOn_bind_ok hrun] at h
    cases h

theorem reads_throw (e : WorkError) : Reads (throw e : TableAction α) := fun _ => rfl

theorem reads_fetch (now : Instant) (id : String) : Reads (fetch now id) := by
  intro d
  rw [fetch, runOn_get_bind]
  rcases d.ticket? now id with f | _ | t <;> rfl

theorem quiet_updateTicket (id : String) (values : List (ℕ × Column)) : Quiet (updateTicket id values) := by
  intro d e d' h
  rw [updateTicket, runOn_get_bind] at h
  dsimp only at h
  split_ifs at h
  · cases h
  · cases h
    rfl

/-- **Work that fails leaves the tables as they were**, whatever they hold. -/
theorem quiet_serve (now : Instant) (id actor : String) (w : Work) : Quiet (serve now id actor w) := by
  cases w with
  | move target => exact (quiet_transaction _).map _
  | assign assignee =>
    rw [serve]
    split_ifs
    · exact (reads_throw _).quiet
    · refine Quiet.map ((reads_fetch now id).bind fun t => ?_) _
      split_ifs
      · exact (reads_throw _).quiet
      · exact (quiet_updateTicket id _).map _
  | patch p =>
    rw [serve]
    split_ifs with hempty
    · exact (reads_throw _).quiet
    · refine Quiet.map ?_ _
      rw [patchTicket, if_neg hempty]
      exact (reads_fetch now id).bind fun t => (quiet_updateTicket id _).map _

/-! ### Statements -/

theorem fetch_of_some (hs : s.Lasting) (ht : s.ticket? id = some t) :
    (fetch now id).runOn (ofStore s) = (.ok t, ofStore s) := by
  obtain ⟨hsized, hdurable, hnumber⟩ := hs t (Store.mem_of_ticket? ht).1
  have hread : (ofStore s).ticket? now id = .ok (some t) :=
    (Database.ticket?_ofStore ht hsized hnumber now).trans (by rw [hdurable.stored_eq now])
  rw [fetch, runOn_get_bind, hread]
  rfl

theorem fetch_of_none (ht : s.ticket? id = none) :
    (fetch now id).runOn (ofStore s) = (.error (.refused (.store (.ticketMissing id))), ofStore s) := by
  have hfind : (ofStore s).tickets.find? (·.holds 0 id) = (s.ticket? id).map Ticket.row := List.find?_map
  have hread : (ofStore s).ticket? now id = .ok none := by
    rw [Database.ticket?, hfind, ht]
    rfl
  rw [fetch, runOn_get_bind, hread]
  rfl

/-- The columns that are written make one row another, and leave the rows of other tickets. -/
theorem rows_putTicket (hs : s.Keyed) (ht : s.ticket? id = some t) {values : List (ℕ × Column)}
    (hid : u.id = id) (hrow : t.row.update values = u.row) :
    (s.tickets.map Ticket.row).map (fun r => if r.holds 0 id then r.update values else r) =
      (s.putTicket u).tickets.map Ticket.row := by
  obtain ⟨hmem, htid⟩ := Store.mem_of_ticket? ht
  simp only [Store.putTicket, List.map_map]
  refine List.map_congr_left fun v hv => ?_
  have hholds : v.row.holds 0 id = (v.id == id) := rfl
  simp only [Function.comp_apply, hholds, hid, beq_iff_eq]
  split_ifs with hvid
  · rw [hs.ticket_eq hv hmem (hvid.trans htid.symm), hrow]
  · rfl

/-- **Some columns of a row are written** where the store replaces its ticket, unless hours would be missing. -/
theorem updateTicket_ofStore (hkeyed : s.Keyed) (hs : s.Lasting) (ht : s.ticket? id = some t)
    (values : List (ℕ × Column)) (hid : u.id = id) (hrow : t.row.update values = u.row) :
    (updateTicket id values).runOn (ofStore s) =
      if u.estimatedHours.isNaN then (.error (.refused (.store (.constraint .hours))), ofStore s)
      else (.ok (), ofStore (s.putTicket u)) := by
  have hrows := rows_putTicket hkeyed ht hid hrow
  -- No other row lacks its hours, so the rule is broken by the new row or by none.
  have hall : ((s.putTicket u).tickets.map Ticket.row).all ((Rule.present 9).admits [] ·) =
      !u.estimatedHours.isNaN := by
    rw [List.all_map]
    cases hnumber : u.estimatedHours.isNaN with
    | true =>
      have hmem : u ∈ (s.putTicket u).tickets :=
        (Store.mem_of_ticket? (Store.ticket?_putTicket ht (hid.trans (Store.mem_of_ticket? ht).2.symm))).1
      refine List.all_eq_false.mpr ⟨u, hmem, ?_⟩
      rw [Function.comp_apply, admits_present_row, hnumber]
      decide
    | false =>
      refine List.all_eq_true.mpr fun v hv => ?_
      obtain ⟨r, hr, rfl⟩ := List.mem_map.mp hv
      simp only [Function.comp_apply, admits_present_row, Bool.not_eq_true']
      split_ifs
      · exact hnumber
      · exact (hs r hr).number
  rw [updateTicket, runOn_get_bind]
  have htables : (ofStore s).tickets = s.tickets.map Ticket.row := rfl
  simp only [htables, hrows, hall]
  cases u.estimatedHours.isNaN <;> rfl

theorem updateTicket_of_number (hkeyed : s.Keyed) (hs : s.Lasting) (ht : s.ticket? id = some t)
    (values : List (ℕ × Column)) (hid : u.id = id) (hrow : t.row.update values = u.row)
    (hnumber : u.estimatedHours.isNaN = false) :
    (updateTicket id values).runOn (ofStore s) = (.ok (), ofStore (s.putTicket u)) :=
  (updateTicket_ofStore hkeyed hs ht values hid hrow).trans (if_neg (ne_true_of_eq_false hnumber))

theorem countCompleted_ofStore (s : Store) (now : Instant) (project : String) :
    (countCompleted now project).runOn (ofStore s) = (.ok (), ofStore (s.countCompleted now project)) := by
  have hrows : (s.projects.map Project.row).map (fun r => if r.holds 0 project then counted now r else r) =
      (s.countCompleted now project).projects.map Project.row := by
    simp only [Store.countCompleted, List.map_map]
    refine List.map_congr_left fun p _ => ?_
    have hholds : p.row.holds 0 project = (p.id == project) := rfl
    simp only [Function.comp_apply, hholds]
    split_ifs
    · rfl
    · rfl
  have hrun : (countCompleted now project).runOn (ofStore s) = (.ok (), { ofStore s with
      projects := (s.projects.map Project.row).map fun r => if r.holds 0 project then counted now r else r }) := rfl
  rw [hrun, hrows]
  rfl

/-! ### Work -/

/-- What the tables give where the store gives something: the same answer, and the tables that hold the store that
is left. -/
def followed (s : Store) : Except ServiceError (Store × α) → Except WorkError α × Database
  | .ok r => (.ok r.2, ofStore r.1)
  | .error e => (.error (.refused e), ofStore s)

theorem transaction_followed {r : Except ServiceError (Store × α)} (h : a.runOn (ofStore s) = followed s r) :
    a.transaction.runOn (ofStore s) = followed s r := by
  rw [runOn_transaction, h]
  cases r with
  | error e => rfl
  | ok q => rfl

/-- What is done with a ticket is done with the one that the store has, or the ticket is missing in both. -/
theorem fetch_followed {f : Ticket → TableAction β} {k : Ticket → Except StoreError (Store × β)} (hs : s.Lasting)
    (h : ∀ t, s.ticket? id = some t → (f t).runOn (ofStore s) = followed s (Store.served (k t))) :
    (fetch now id >>= f).runOn (ofStore s) = followed s (Store.served (s.ticket id >>= k)) := by
  cases ht : s.ticket? id with
  | none =>
    rw [runOn_bind_error (fetch_of_none ht), Store.ticket, ht]
    rfl
  | some t =>
    rw [runOn_bind_ok (fetch_of_some hs ht), Store.ticket_eq_ok.mpr ht]
    exact h t ht

theorem moveTicket_ofStore (hkeyed : s.Keyed) (hs : s.Lasting) (now : Instant) (id : String)
    (target : TicketStatus) :
    (moveTicket now id target).runOn (ofStore s) = followed s (Store.served (s.moveTicket now id target)) := by
  refine transaction_followed (fetch_followed hs fun t ht => ?_)
  obtain ⟨hmem, htid⟩ := Store.mem_of_ticket? ht
  have hwrite := updateTicket_of_number hkeyed hs ht [(6, .ofNamed target), (19, .ofInstant now)]
    (u := { t with status := target, updatedAt := now }) htid rfl (hs t hmem).number
  split_ifs
  · rw [runOn_bind_ok hwrite, runOn_bind_ok (countCompleted_ofStore _ now t.project)]
    rfl
  · rw [runOn_bind_ok hwrite]
    rfl
  · rfl

theorem assignTicket_ofStore (hkeyed : s.Keyed) (hs : s.Lasting) (now : Instant) (id assignee : String) :
    (assignTicket now id assignee).runOn (ofStore s) =
      followed s (Store.served (s.assignTicket now id assignee)) := by
  refine fetch_followed hs fun t ht => ?_
  obtain ⟨hmem, htid⟩ := Store.mem_of_ticket? ht
  have hwrite := updateTicket_of_number hkeyed hs ht
    [(14, .text assignee), (6, .ofNamed (Store.assignedStatus t.status)), (19, .ofInstant now)]
    (u := { t with assignee := some assignee, status := Store.assignedStatus t.status, updatedAt := now })
    htid rfl (hs t hmem).number
  split_ifs
  · rfl
  · dsimp only
    rw [runOn_bind_ok hwrite]
    rfl

theorem patchTicket_ofStore (hkeyed : s.Keyed) (hs : s.Lasting) (now : Instant) (id : String) (p : Patch) :
    (patchTicket now id p).runOn (ofStore s) = followed s (Store.served (s.patchTicket now id p)) := by
  rw [patchTicket, Store.patchTicket]
  split_ifs
  · rfl
  · refine fetch_followed hs fun t ht => ?_
    obtain ⟨hmem, htid⟩ := Store.mem_of_ticket? ht
    have hcreated : (p.apply t).createdAt.stored now = (p.apply t).createdAt :=
      if_pos (hs t hmem).durable.createdAt
    -- The store keeps the patched ticket as it is read back; its row is that of the ticket that was written.
    have hrow : t.row.update (patched { p.apply t with updatedAt := now }) =
        (Ticket.stored now { p.apply t with updatedAt := now }).row :=
      (Ticket.row_stored (t := { p.apply t with updatedAt := now }) hcreated now.stored_self).symm
    have hwrite := updateTicket_ofStore (u := Ticket.stored now { p.apply t with updatedAt := now })
      hkeyed hs ht _ htid hrow
    have hnumber : (Ticket.stored now { p.apply t with updatedAt := now }).estimatedHours.isNaN =
        (p.apply t).estimatedHours.isNaN := isNaN_storedHours _
    rw [hnumber] at hwrite
    dsimp only
    split_ifs at hwrite ⊢
    · rw [runOn_bind_error hwrite]
      rfl
    · rw [runOn_bind_ok hwrite]
      rfl

theorem map_followed {r : Except StoreError (Store × α)}
    (h : a.runOn (ofStore s) = followed s (Store.served r)) (g : α → β) :
    (a >>= fun x => pure (g x)).runOn (ofStore s) =
      followed s ((Store.served r).map fun q => (q.1, g q.2)) := by
  cases r with
  | error e => exact runOn_bind_error h
  | ok q => exact runOn_bind_ok h

/-- **Work on the tables follows the store**: what is served is the same, the tables that are left hold the store
that is left, and if work fails they are as they were. -/
theorem serve_ofStore (hkeyed : s.Keyed) (hs : s.Lasting) (now : Instant) (id actor : String) (w : Work) :
    (serve now id actor w).runOn (ofStore s) =
      followed s ((s.work now id actor w).map fun v => (v.store, v.result, v.events)) := by
  cases w with
  | move target =>
    refine (map_followed (moveTicket_ofStore hkeyed hs now id target) _).trans ?_
    rw [Store.work, Store.serveMove]
    cases s.moveTicket now id target <;> rfl
  | assign assignee =>
    rw [serve, Store.work, Store.serveAssign]
    split_ifs
    · rfl
    · refine (map_followed (assignTicket_ofStore hkeyed hs now id (Text.trim assignee)) _).trans ?_
      cases s.assignTicket now id (Text.trim assignee) <;> rfl
  | patch p =>
    rw [serve, Store.work, Store.servePatch]
    split_ifs
    · rfl
    · refine (map_followed (patchTicket_ofStore hkeyed hs now id p) _).trans ?_
      cases s.patchTicket now id p <;> rfl

end TableAction

end Backlog
