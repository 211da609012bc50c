import Backlog.Proofs.Store.Operation
import Backlog.Proofs.Store.Row
import Backlog.Proofs.Ticket.Same
import Backlog.Proofs.Time.Order

/-! # Tickets that last

A ticket lasts if its row gives it back as it is, however often it is read: its numbers fit, its instants are of
the clock in years of four digits, and its hours are as they are kept. Operations that are tried at such instants
with numbers that fit leave only tickets that last (`Lasting.performAll`): what a commit or a patch puts in is
stored before it can be read. -/

namespace Backlog

variable {now : Instant} {t u : Ticket}

/-! ### Tickets -/

/-- A patch whose number fits. -/
def Patch.Sized (p : Patch) : Prop := ∀ n ∈ p.commits, n < word32

namespace Ticket

/-- **A ticket that every reading gives back.** -/
structure Lasting (t : Ticket) : Prop where
  sized : t.Sized
  durable : t.Durable
  number : t.estimatedHours.isNaN = false

theorem durable_stored (hcreated : t.createdAt.FourDigits) (hupdated : t.updatedAt.FourDigits) :
    (t.stored now).Durable where
  createdAt := by
    have hkept : (t.stored now).createdAt = t.createdAt := if_pos hcreated
    rw [hkept]
    exact hcreated
  updatedAt := by
    have hkept : (t.stored now).updatedAt = t.updatedAt := if_pos hupdated
    rw [hkept]
    exact hupdated
  estimatedHours := storedHours_storedHours t.estimatedHours
  actualHours := by
    intro k hk
    obtain ⟨h, hh, rfl⟩ := Option.map_eq_some_iff.mp hk
    obtain ⟨-, hnumber⟩ := Option.filter_eq_some_iff.mp hh
    exact ⟨(isNaN_storedHours h).trans (by simpa using hnumber), storedHours_storedHours h⟩

theorem sized_stored (ht : t.Sized) (hnow : now.Proper) : (t.stored now).Sized where
  rank := ht.rank
  commits := ht.commits
  createdAt := by
    show (t.createdAt.stored now).Proper
    unfold Instant.stored
    split_ifs
    · exact ht.createdAt
    · exact hnow
  updatedAt := by
    show (t.updatedAt.stored now).Proper
    unfold Instant.stored
    split_ifs
    · exact ht.updatedAt
    · exact hnow

theorem lasting_stored (ht : t.Sized) (hcreated : t.createdAt.FourDigits) (hupdated : t.updatedAt.FourDigits)
    (hnumber : t.estimatedHours.isNaN = false) (hnow : now.Proper) : (t.stored now).Lasting :=
  ⟨sized_stored ht hnow, durable_stored hcreated hupdated, (isNaN_storedHours _).trans hnumber⟩

/-- A ticket that lasts still does when its status, its assignee and the time of its update are others. -/
theorem Lasting.retouch (ht : t.Lasting) (hnow : now.Dated) (status : TicketStatus) (assignee : Option String) :
    { t with status := status, assignee := assignee, updatedAt := now : Ticket }.Lasting where
  sized := ⟨ht.sized.rank, ht.sized.commits, ht.sized.createdAt, hnow.proper⟩
  durable := ⟨ht.durable.createdAt, hnow.fourDigits, ht.durable.estimatedHours, ht.durable.actualHours⟩
  number := ht.number

theorem Lasting.patch (ht : t.Lasting) (hnow : now.Dated) {p : Patch} (hp : p.Sized)
    (hnumber : (p.apply t).estimatedHours.isNaN = false) :
    ({ p.apply t with updatedAt := now : Ticket }.stored now).Lasting := by
  have hsized : { p.apply t with updatedAt := now : Ticket }.Sized := by
    refine ⟨ht.sized.rank, ?_, ht.sized.createdAt, hnow.proper⟩
    show p.commits.getD t.commits < word32
    cases hcommits : p.commits with
    | none => exact ht.sized.commits
    | some n => exact hp n hcommits
  exact lasting_stored hsized ht.durable.createdAt hnow.fourDigits hnumber hnow.proper

end Ticket

/-! ### Stores -/

/-- **An operation whose numbers fit**, and whose tickets have instants that can be stored. -/
def Operation.Fits : Operation → Prop
  | .commit c => ∀ t ∈ c.tickets, t.Sized ∧ t.createdAt.FourDigits ∧ t.updatedAt.FourDigits
  | .patchTicket _ p => p.Sized
  | _ => True

namespace Store

variable {s s' : Store} {id : String}

/-- **A store whose tickets last.** -/
def Lasting (s : Store) : Prop := ∀ t ∈ s.tickets, t.Lasting

theorem Lasting.putTicket (hs : s.Lasting) (hu : u.Lasting) : (s.putTicket u).Lasting := by
  intro t ht
  obtain ⟨r, hr, rfl⟩ := List.mem_map.mp ht
  split_ifs
  · exact hu
  · exact hs r hr

theorem Lasting.commit {c : Commit} {p : Project} (hs : s.Lasting) (hnow : now.Dated)
    (hc : (Operation.commit c).Fits) (h : s.commit now c = .ok (s', p)) : s'.Lasting := by
  obtain ⟨-, q, -, hfits, hr⟩ := commit_eq_ok.mp h
  cases hr
  intro t ht
  rcases List.mem_append.mp ht with hold | hnew
  · exact hs t (List.mem_of_mem_filter hold)
  · obtain ⟨v, hv, rfl⟩ := List.mem_map.mp hnew
    obtain ⟨hsized, hcreated, hupdated⟩ := hc v hv
    exact Ticket.lasting_stored hsized hcreated hupdated (by simpa using hfits.hours v hv) hnow.proper

/-- **An operation keeps tickets lasting**, also if it fails. -/
theorem Lasting.perform (hs : s.Lasting) (hnow : now.Dated) {op : Operation} (hop : op.Fits) :
    (s.perform now op).Lasting := by
  have hsettled {α : Type} {r : Except StoreError (Store × α)} (h : ∀ v, r = .ok v → v.1.Lasting) :
      (s.settled r).Lasting := by
    cases r with
    | error e => exact hs
    | ok v => exact h v rfl
  cases op with
  | createProject id name description =>
    refine hsettled fun r hr => ?_
    obtain ⟨-, -, p, -, rfl⟩ := createProject_eq_ok.mp hr
    exact hs
  | beginAnalysis id =>
    refine hsettled fun r hr => ?_
    obtain ⟨p, q, -, -, rfl⟩ := beginAnalysis_eq_ok.mp hr
    exact hs
  | failAnalysis id detail =>
    refine hsettled fun r hr => ?_
    obtain ⟨p, q, -, -, rfl⟩ := failAnalysis_eq_ok.mp hr
    exact hs
  | moveProject id target =>
    refine hsettled fun r hr => ?_
    obtain ⟨p, q, -, -, -, rfl⟩ := moveProject_eq_ok.mp hr
    exact hs
  | commit c =>
    rw [perform_commit]
    exact hsettled fun r hr => hs.commit hnow hop hr
  | moveTicket id target =>
    refine hsettled fun r hr => ?_
    obtain ⟨t, u, ht, -, rfl, rfl⟩ := moveTicket_eq_ok.mp hr
    have hput := hs.putTicket ((hs t (mem_of_ticket? ht).1).retouch hnow target t.assignee)
    dsimp only
    split_ifs
    · exact hput
    · exact hput
  | assignTicket id assignee =>
    refine hsettled fun r hr => ?_
    obtain ⟨t, u, ht, -, rfl, rfl⟩ := assignTicket_eq_ok.mp hr
    exact hs.putTicket ((hs t (mem_of_ticket? ht).1).retouch hnow _ _)
  | patchTicket id p =>
    refine hsettled fun r hr => ?_
    obtain ⟨-, t, u, ht, rfl, hnumber, rfl⟩ := patchTicket_eq_ok.mp hr
    exact hs.putTicket ((hs t (mem_of_ticket? ht).1).patch hnow hop hnumber)

/-- **Whatever is tried leaves tickets that last**, if it is tried at instants that can be stored. -/
theorem Lasting.performAll : ∀ {ops : List (Instant × Operation)} {s : Store}, s.Lasting →
    (∀ o ∈ ops, o.1.Dated ∧ o.2.Fits) → (s.performAll ops).Lasting
  | [], _, hs, _ => hs
  | _ :: _, _, hs, hops => by
    obtain ⟨⟨hnow, hop⟩, hrest⟩ := List.forall_mem_cons.mp hops
    exact (hs.perform hnow hop).performAll hrest

/-- **A store that operations have made**, tried at instants that can be stored and with numbers that fit. -/
def Built (s : Store) : Prop :=
  ∃ ops : List (Instant × Operation), (∀ o ∈ ops, o.1.Dated ∧ o.2.Fits) ∧ s = Store.performAll {} ops

theorem Built.lasting (hs : s.Built) : s.Lasting := by
  obtain ⟨ops, hops, rfl⟩ := hs
  have hempty : Lasting {} := fun t ht => absurd ht List.not_mem_nil
  exact hempty.performAll hops

theorem Built.keyed (hs : s.Built) : s.Keyed := by
  obtain ⟨ops, -, rfl⟩ := hs
  exact Keyed.of_reachable (reachable_performAll fun o _ => o.2.within_true)

end Store

end Backlog
