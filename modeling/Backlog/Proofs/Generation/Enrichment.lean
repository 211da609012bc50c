import Backlog.Generation.Plan
import Backlog.Proofs.Except

/-! # What enrichers do to tickets

The result of an enricher is used if it keeps the frames of the tickets: id, type, rank and files
(`preservesStructure_iff`). So the frames of a plan are those of its draft, whatever an enricher does
(`Planner.map_frame_enriched`).

An enricher rewords tickets if it leaves them alone but for their descriptions and criteria, which is to
say that they are the same without these (`Ticket.bare`). The enrichers of this library do: the one that
asks a model too, whatever it replies (`Enricher.Standard.rewords`). So the columns of a plan other than
these texts are known before it is enriched (`map_bare_enriched`). -/

namespace Backlog

variable {ts us : List Ticket}

/-! ### Frames -/

/-- What an enricher has to keep of a ticket. -/
structure Ticket.Frame where
  id : String
  type : TicketType
  rank : Option Nat
  files : List AffectedFile

/-- The frame of a ticket. -/
def Ticket.frame (t : Ticket) : Ticket.Frame := ⟨t.id, t.type, t.rank, t.files⟩

theorem preservesStructure_iff : ∀ {ts us : List Ticket},
    preservesStructure ts us = true ↔ us.map Ticket.frame = ts.map Ticket.frame
  | [], [] => by simp [preservesStructure]
  | [], u :: us => by simp [preservesStructure]
  | t :: ts, [] => by simp [preservesStructure]
  | t :: ts, u :: us => by
    have hhead : t.sameStructure u = true ↔ u.frame = t.frame := by
      rw [eq_comm (a := u.frame)]
      simp only [Ticket.sameStructure, Ticket.frame, Bool.and_eq_true, beq_iff_eq, Ticket.Frame.mk.injEq,
        and_assoc]
    rw [preservesStructure, Bool.and_eq_true, hhead, preservesStructure_iff, List.map_cons, List.map_cons,
      List.cons.injEq]

theorem Planner.map_frame_enriched (ts : List Ticket) (r : Except EnrichmentFailure (List Ticket)) :
    (enriched ts r).map Ticket.frame = ts.map Ticket.frame := by
  unfold enriched
  cases r with
  | error e => rfl
  | ok us =>
    dsimp only
    split_ifs with h
    · exact preservesStructure_iff.mp h
    · rfl

/-! ### Texts -/

/-- A ticket without its description and criteria. -/
def Ticket.bare (t : Ticket) : Ticket := { t with description := "", criteria := [] }

/-- Tickets that are the same without texts agree in every column that does not look at texts. -/
theorem map_eq_of_map_bare {α : Type} {f : Ticket → α} (hf : ∀ t, f t.bare = f t)
    (h : us.map Ticket.bare = ts.map Ticket.bare) : us.map f = ts.map f := by
  have hcolumn := congrArg (List.map f) h
  simpa only [List.map_map, Function.comp_def, hf] using hcolumn

namespace Enrichment

theorem bare_apply (r : Rewording) (t : Ticket) : (r.apply t).bare = t.bare := rfl

/-- Merging a reply into tickets changes their texts only. -/
theorem map_bare_merge : ∀ (rs : List Rewording) (ts : List Ticket),
    (merge rs ts).map Ticket.bare = ts.map Ticket.bare
  | _, [] => rfl
  | rs, t :: ts => by
    unfold merge
    split
    · rw [List.map_cons, List.map_cons, map_bare_merge]
    · rw [List.map_cons, List.map_cons, bare_apply, map_bare_merge]

theorem conclude_eq_ok {reply : Except Llm.Failure (List Rewording)} :
    conclude ts reply = .ok us ↔ ∃ rs, reply = .ok rs ∧ rs ≠ [] ∧ us = merge rs ts := by
  unfold conclude
  rcases reply with e | rs
  · simp
  · cases rs <;> simp [eq_comm]

end Enrichment

namespace Enricher

/-- **An enricher that changes nothing but texts.** -/
def Rewords (e : Enricher) : Prop :=
  ∀ ts description us, (e ts description).result = .ok us → us.map Ticket.bare = ts.map Ticket.bare

/-- The enrichers of this library: the one that does nothing, the one that fails, and those that ask a
model. -/
def Standard (e : Enricher) : Prop :=
  e = passthrough ∨ e = failing ∨ ∃ client maxTokens, e = Enrichment.enricher client maxTokens

theorem Standard.rewords {e : Enricher} (h : e.Standard) : e.Rewords := by
  intro ts description us hus
  rcases h with rfl | rfl | ⟨client, maxTokens, rfl⟩
  · cases hus; rfl
  · cases hus
  · obtain ⟨rs, -, -, rfl⟩ := Enrichment.conclude_eq_ok.mp hus
    exact Enrichment.map_bare_merge rs ts

end Enricher

namespace Planner

theorem map_bare_enriched {e : Enricher} (he : e.Rewords) (ts : List Ticket) (description : String) :
    (enriched ts (e ts description).result).map Ticket.bare = ts.map Ticket.bare := by
  unfold enriched
  cases hus : (e ts description).result with
  | error _ => rfl
  | ok us =>
    dsimp only
    split_ifs
    · exact he ts description us hus
    · rfl

end Planner

end Backlog
