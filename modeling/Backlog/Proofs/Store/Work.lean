import Backlog.Proofs.Store.Update
import Backlog.Proofs.Ticket.Patch

/-! # What work on a ticket changes

Work that fails leaves the tables as they were. Work that is done puts one ticket in the place of another and at most
counts it in its project (`Store.Touches`); which ticket this is depends on the kind of work (`Work.Makes`), and for a
patch it is told by the names in the event. What is read from then on is the ticket that was answered, except that
hours are read as they are kept (`Work.Answers`). `reads_of_work` puts the three together. -/

namespace Backlog

variable {s s' : Store} {now : Instant} {id actor : String} {t u v : Ticket} {w : Work}

/-! ### One ticket -/

namespace Work

/-- Whether work completes its ticket. -/
def completes : Work → Bool
  | .move .completed => true
  | _ => false

/-- Work whose numbers fit. -/
def Sized : Work → Prop
  | .patch p => p.Sized
  | _ => True

/-- Work that gives hours only as they are kept: no negative zero, and nothing that is no number. -/
def Plain : Work → Prop
  | .patch p => (∀ h ∈ p.estimatedHours, storedHours h = h) ∧ ∀ h ∈ p.actualHours, h.isNaN = false ∧ storedHours h = h
  | _ => True

/-- **What work makes of a ticket**, where these events tell of it. -/
def Makes (now : Instant) (actor : String) (t u : Ticket) (events : List Event) : Work → Prop
  | .move target => u = { t with status := target, updatedAt := now }
  | .assign assignee => u = { t with
      assignee := some (Text.trim assignee), status := Store.assignedStatus t.status, updatedAt := now }
  | .patch p => u.updatedAt = now ∧
      ∃ changes, events = [.ticketUpdated t.project t.id changes actor] ∧ p.Makes changes t u

/-- **The ticket `u` is read where `v` was answered**: at most its hours are others. -/
structure Answers (w : Work) (now : Instant) (v u : Ticket) : Prop where
  stored : u = v.stored now
  rest : u.withoutHours = v.withoutHours
  same : (∀ h ∈ v.actualHours, h.isNaN = false) → u.SameAs v
  equal : w.Plain → u = v

end Work

namespace Ticket

theorem answers_stored (hcreated : v.createdAt.FourDigits) (hupdated : v.updatedAt.FourDigits)
    (hnumber : v.estimatedHours.isNaN = false) (hequal : w.Plain → v.Durable) : w.Answers now v (v.stored now) where
  stored := rfl
  rest := by
    have hcreated' : v.createdAt.stored now = v.createdAt := if_pos hcreated
    have hupdated' : v.updatedAt.stored now = v.updatedAt := if_pos hupdated
    simp only [withoutHours, Ticket.stored, hcreated', hupdated']
  same hactual := Measured.sameAs_stored ⟨hnumber, hactual⟩ (if_pos hcreated) (if_pos hupdated)
  equal hplain := (hequal hplain).stored_eq now

theorem Lasting.answers (hv : v.Lasting) : w.Answers now v v := by
  have hanswers : w.Answers now v (v.stored now) :=
    answers_stored hv.durable.createdAt hv.durable.updatedAt hv.number fun _ => hv.durable
  rwa [hv.durable.stored_eq now] at hanswers

/-- A patch that gives hours as they are kept makes a ticket that lasts. -/
theorem Lasting.durable_patch (ht : t.Lasting) (hnow : now.Dated) {p : Patch} (hp : (Work.patch p).Plain) :
    { p.apply t with updatedAt := now : Ticket }.Durable where
  createdAt := ht.durable.createdAt
  updatedAt := hnow.fourDigits
  estimatedHours := by
    show storedHours (p.estimatedHours.getD t.estimatedHours) = p.estimatedHours.getD t.estimatedHours
    cases hestimated : p.estimatedHours with
    | none => exact ht.durable.estimatedHours
    | some h => exact hp.1 h hestimated
  actualHours := by
    show ∀ h ∈ p.actualHours <|> t.actualHours, h.isNaN = false ∧ storedHours h = h
    cases hactual : p.actualHours with
    | none => exact ht.durable.actualHours
    | some h =>
      rintro k ⟨⟩
      exact hp.2 h hactual

end Ticket

/-! ### The store -/

namespace Store

/-- **One ticket is another**, and nothing else is, except that its project may count it as completed. -/
structure Touches (s s' : Store) (now : Instant) (t u : Ticket) (counts : Bool) : Prop where
  tickets : s'.tickets = s.tickets.map fun r => if r.id = t.id then u else r
  projects : s'.projects = s.projects.map fun p =>
    if counts ∧ p.id = t.project then { p with completedTickets := p.completedTickets + 1, updatedAt := now } else p
  edges : s'.edges = s.edges
  contexts : s'.contexts = s.contexts

theorem touches_putTicket (hid : u.id = t.id) : s.Touches (s.putTicket u) now t u false where
  tickets := by simp only [putTicket, beq_iff_eq, hid]
  projects := by simp [putTicket]
  edges := rfl
  contexts := rfl

theorem touches_countCompleted (hid : u.id = t.id) :
    s.Touches ((s.putTicket u).countCompleted now t.project) now t u true where
  tickets := by simp only [countCompleted, putTicket, beq_iff_eq, hid]
  projects := by simp [countCompleted, putTicket]
  edges := rfl
  contexts := rfl

/-- **What work that is done leaves.** -/
structure Done (s : Store) (now : Instant) (id actor : String) (w : Work) (r : Served Ticket) (t u : Ticket) :
    Prop where
  before : s.ticket? id = some t
  after : r.store.ticket? id = some u
  lasting : u.Lasting
  touches : s.Touches r.store now t u w.completes
  makes : w.Makes now actor t u r.events
  answers : w.Answers now r.result u

/-- **Work that a store does**: its ticket is there and is in a status for it, and something is asked for. -/
def Accepts (s : Store) (id : String) : Work → Prop
  | .move target => ∃ t, s.ticket? id = some t ∧ t.status.canMoveTo target
  | .assign assignee => (Text.trim assignee).isEmpty = false ∧
      ∃ t, s.ticket? id = some t ∧ t.status.isTerminal = false
  | .patch p => p.isEmpty = false ∧ ∃ t, s.ticket? id = some t ∧ (p.apply t).estimatedHours.isNaN = false

theorem accepts_iff : s.Accepts id w ↔ ∃ r, s.work now id actor w = .ok r := by
  cases w with
  | move target =>
    simp only [Accepts, work, serveMove_eq_ok, moveTicket_eq_ok]
    constructor
    · rintro ⟨t, ht, hmove⟩
      exact ⟨_, _, ⟨t, _, ht, hmove, rfl, rfl⟩, rfl⟩
    · rintro ⟨_, _, ⟨t, _, ht, hmove, -, -⟩, -⟩
      exact ⟨t, ht, hmove⟩
  | assign assignee =>
    simp only [Accepts, work, serveAssign_eq_ok, assignTicket_eq_ok]
    constructor
    · rintro ⟨hgiven, t, ht, hopen⟩
      exact ⟨_, hgiven, _, ⟨t, _, ht, hopen, rfl, rfl⟩, rfl⟩
    · rintro ⟨_, hgiven, _, ⟨t, _, ht, hopen, -, -⟩, -⟩
      exact ⟨hgiven, t, ht, hopen⟩
  | patch p =>
    simp only [Accepts, work, servePatch_eq_ok, patchTicket_eq_ok]
    constructor
    · rintro ⟨hsome, t, ht, hnumber⟩
      exact ⟨_, hsome, _, ⟨hsome, t, _, ht, rfl, hnumber, rfl⟩, rfl⟩
    · rintro ⟨_, hsome, _, ⟨-, t, _, ht, rfl, hnumber, -⟩, -⟩
      exact ⟨hsome, t, ht, hnumber⟩

theorem done_move (hs : s.Lasting) (hnow : now.Dated) {target : TicketStatus} {r : Served Ticket}
    (h : s.serveMove now id target actor = .ok r) : ∃ t u, s.Done now id actor (.move target) r t u := by
  obtain ⟨c, hc, rfl⟩ := serveMove_eq_ok.mp h
  obtain ⟨t, u, ht, -, hu, rfl⟩ := moveTicket_eq_ok.mp hc
  obtain ⟨hmem, htid⟩ := mem_of_ticket? ht
  have hid : u.id = t.id := by rw [hu]
  have hlasting : u.Lasting := hu ▸ (hs t hmem).retouch hnow target t.assignee
  have hput := ticket?_putTicket ht hid
  refine ⟨t, u, ?_⟩
  cases target with
  | completed => exact ⟨ht, hput, hlasting, touches_countCompleted hid, hu, hlasting.answers⟩
  | _ => exact ⟨ht, hput, hlasting, touches_putTicket hid, hu, hlasting.answers⟩

theorem done_assign (hs : s.Lasting) (hnow : now.Dated) {assignee : String} {r : Served Ticket}
    (h : s.serveAssign now id assignee actor = .ok r) : ∃ t u, s.Done now id actor (.assign assignee) r t u := by
  obtain ⟨-, c, hc, rfl⟩ := serveAssign_eq_ok.mp h
  obtain ⟨t, u, ht, -, hu, rfl⟩ := assignTicket_eq_ok.mp hc
  obtain ⟨hmem, htid⟩ := mem_of_ticket? ht
  have hid : u.id = t.id := by rw [hu]
  have hlasting : u.Lasting := hu ▸ (hs t hmem).retouch hnow _ _
  have hput := ticket?_putTicket ht hid
  exact ⟨t, u, ht, hput, hlasting, touches_putTicket hid, hu, hlasting.answers⟩

theorem done_patch (hs : s.Lasting) (hnow : now.Dated) {p : Patch} (hp : p.Sized) {r : Served Ticket}
    (h : s.servePatch now id p actor = .ok r) : ∃ t u, s.Done now id actor (.patch p) r t u := by
  obtain ⟨-, c, hc, rfl⟩ := servePatch_eq_ok.mp h
  obtain ⟨-, t, v, ht, rfl, hnumber, rfl⟩ := patchTicket_eq_ok.mp hc
  obtain ⟨hmem, htid⟩ := mem_of_ticket? ht
  have hlasting := (hs t hmem).patch hnow hp hnumber
  refine ⟨t, Ticket.stored now { p.apply t with updatedAt := now }, ht, ticket?_putTicket ht rfl, hlasting,
    touches_putTicket rfl, ⟨now.stored_self, p.changed, rfl, Patch.makes_stored (hs t hmem)⟩, ?_⟩
  exact Ticket.answers_stored (hs t hmem).durable.createdAt hnow.fourDigits hnumber ((hs t hmem).durable_patch hnow)

/-- **Work that is done** touches one ticket, and answers it. -/
theorem done_of_work (hs : s.Lasting) (hnow : now.Dated) (hw : w.Sized) {r : Served Ticket}
    (h : s.work now id actor w = .ok r) : ∃ t u, s.Done now id actor w r t u := by
  cases w with
  | move target => exact done_move hs hnow h
  | assign assignee => exact done_assign hs hnow h
  | patch p => exact done_patch hs hnow hw h

/-- **Work on a ticket, in the tables.** If it fails, the tables are as they were, whatever they hold. In the tables of a
store that operations have made it is done if the store accepts it, and as the store does it: one ticket is touched, as
the kind of work and the event say, and reading it gives the ticket that was answered, with its hours as they are
kept. -/
theorem reads_of_work (hs : s.Built) (hnow : now.Dated) (hw : w.Sized) (id actor : String) :
    (∀ d e d', (TableAction.serve now id actor w).runOn d = (.error e, d') → d' = d) ∧
    match (TableAction.serve now id actor w).runOn (Database.ofStore s) with
    | (.error e, _) => ¬ s.Accepts id w ∧ ∃ e', e = .refused e' ∧ s.work now id actor w = .error e'
    | (.ok (v, events), d) => s.Accepts id w ∧
        ∃ s' t u, s.work now id actor w = .ok ⟨s', v, events⟩ ∧ d = Database.ofStore s' ∧
          s.Done now id actor w ⟨s', v, events⟩ t u ∧ ∀ later, d.ticket? later id = .ok (some u) := by
  refine ⟨TableAction.quiet_serve now id actor w, ?_⟩
  rw [TableAction.serve_ofStore hs.keyed hs.lasting now id actor w]
  cases hwork : s.work now id actor w with
  | error e =>
    refine ⟨fun haccepts => ?_, e, rfl, rfl⟩
    obtain ⟨r, hr⟩ := accepts_iff.mp haccepts
    cases hwork.symm.trans hr
  | ok r =>
    obtain ⟨t, u, hdone⟩ := done_of_work hs.lasting hnow hw hwork
    refine ⟨accepts_iff.mpr ⟨r, hwork⟩, r.store, t, u, rfl, rfl, hdone, fun later => ?_⟩
    have hread := Database.ticket?_ofStore hdone.after hdone.lasting.sized hdone.lasting.number later
    rwa [hdone.lasting.durable.stored_eq later] at hread

/-- A shop with two tickets to work on. -/
def openShop : Store :=
  performAll {} [(default, .createProject "p" "Shop" ""), (default, .commit firstPlan)]

theorem built_openShop : openShop.Built := by
  refine ⟨_, ?_, rfl⟩
  intro o ho
  rcases List.mem_pair.mp ho with rfl | rfl
  · exact ⟨by decide, trivial⟩
  · refine ⟨by decide, fun t ht => ?_⟩
    rcases List.mem_pair.mp ht with rfl | rfl
    · exact ⟨⟨by rintro n ⟨⟩; decide, by decide, by decide, by decide⟩, by decide, by decide⟩
    · exact ⟨⟨by rintro n ⟨⟩; decide, by decide, by decide, by decide⟩, by decide, by decide⟩

theorem reads_of_work_shop : ∃ v events d,
    (TableAction.serve default "a" "ann" (.patch { title := some "Cart" })).runOn (Database.ofStore openShop) =
      (.ok (v, events), d) ∧ events = [.ticketUpdated "p" "a" ["title"] "ann"] ∧ v.title = "Cart" ∧
      ∀ later, d.ticket? later "a" = .ok (some v) := by
  have hwork : openShop.work default "a" "ann" (.patch { title := some "Cart" }) = .ok _ := rfl
  have hsized : (Work.patch { title := some "Cart" }).Sized := nofun
  have hnow : (default : Instant).Dated := by decide
  have hreads := (reads_of_work built_openShop hnow hsized "a" "ann").2
  rcases hrun : (TableAction.serve default "a" "ann" (.patch { title := some "Cart" })).runOn
    (Database.ofStore openShop) with ⟨e | ⟨v, events⟩, d⟩
  · rw [hrun] at hreads
    obtain ⟨-, e', -, herror⟩ := hreads
    cases hwork.symm.trans herror
  · rw [hrun] at hreads
    obtain ⟨-, s', t, u, hstore, -, hdone, hread⟩ := hreads
    have hsame : u = v := hdone.answers.equal ⟨nofun, nofun⟩
    cases hwork.symm.trans hstore
    exact ⟨_, _, _, rfl, rfl, rfl, hsame ▸ hread⟩

/-- **Hours may be answered otherwise than they are read**, and so may instants after the year 9999. A patch that gives
hours that are no number, or a negative zero, is answered with these; the former are read as absent, the latter as
zero. A ticket that is moved in the year 10000 is read as updated whenever it is read. -/
theorem answers_unlike_reads :
    openShop.Built ∧
    (∃ r, openShop.work default "a" "ann" (.patch { actualHours := some (-0) }) = .ok r ∧
      r.store.ticket? "a" ≠ some r.result) ∧
    (∃ r, openShop.work default "a" "ann" (.patch { actualHours := some (0 / 0) }) = .ok r ∧
      r.store.ticket? "a" ≠ some r.result) ∧
    ∃ v events d, (TableAction.serve ⟨253402300800, 0⟩ "a" "ann" (.move .ready)).runOn (Database.ofStore openShop) =
      (.ok (v, events), d) ∧ d.ticket? default "a" ≠ .ok (some v) := by
  refine ⟨built_openShop, ⟨_, rfl, fun h => ?_⟩, ⟨_, rfl, fun h => ?_⟩, ?_⟩
  · have hhours : some (0 : Float) = some (-0) := congrArg Ticket.actualHours (Option.some.inj h)
    have hzero : (Float.Model.UnpackedFloat.zero .positive) = .zero .negative :=
      congrArg (fun h : Float => h.toModel.unpack) (Option.some.inj hhours)
    cases hzero
  · have hhours : none = some (0 / 0 : Float) := congrArg Ticket.actualHours (Option.some.inj h)
    cases hhours
  · have hserve := TableAction.serve_ofStore built_openShop.keyed built_openShop.lasting ⟨253402300800, 0⟩ "a" "ann"
      (.move .ready)
    have hwork : openShop.work ⟨253402300800, 0⟩ "a" "ann" (.move .ready) = .ok ⟨_, _, _⟩ := rfl
    rw [hwork] at hserve
    refine ⟨_, _, _, hserve, fun h => ?_⟩
    have hfind : (openShop.putTicket { shopTicket "a" 0 with
        status := .ready, updatedAt := ⟨253402300800, 0⟩ }).ticket? "a" = some _ := rfl
    have hread := Database.ticket?_ofStore hfind ⟨by rintro n ⟨⟩; decide, by decide, by decide, by decide⟩ (by decide)
      default
    have hupdated : (default : Instant) = ⟨253402300800, 0⟩ :=
      congrArg Ticket.updatedAt (Option.some.inj (Except.ok.inj (hread.symm.trans h)))
    exact absurd hupdated (by decide)

end Store

end Backlog
