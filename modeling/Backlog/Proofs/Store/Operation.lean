import Backlog.Proofs.Store.Transaction

/-! # Operations in any order

The eight operations of a store as data (`Operation`), each tried at some instant: `perform` leaves what
the operation writes, or the store as it was if it fails. Whatever is tried, the store that is left is
reachable (`reachable_performAll`), so what holds of reachable stores holds after any sequence of
operations. -/

namespace Backlog

/-- **What can be tried on a store.** -/
inductive Operation where
  | createProject (id name description : String)
  | beginAnalysis (id : String)
  | failAnalysis (id detail : String)
  | moveProject (id : String) (target : ProjectStatus)
  | commit (c : Commit)
  | moveTicket (id : String) (target : TicketStatus)
  | assignTicket (id assignee : String)
  | patchTicket (id : String) (patch : Patch)

/-- An operation that, if it is a commit, is one of some sort. -/
def Operation.Within (Allowed : Commit → Prop) : Operation → Prop
  | .commit c => Allowed c
  | _ => True

theorem Operation.within_true (op : Operation) : op.Within fun _ => True := by
  cases op <;> trivial

namespace Store

variable {Allowed : Commit → Prop} {s : Store} {now : Instant}

/-- The store after an operation that may have failed. -/
def settled {α : Type} (s : Store) : Except StoreError (Store × α) → Store
  | .ok r => r.1
  | .error _ => s

/-- **Tries an operation.** -/
def perform (s : Store) (now : Instant) : Operation → Store
  | .createProject id name description => s.settled (s.createProject now id name description)
  | .beginAnalysis id => s.settled (s.beginAnalysis now id)
  | .failAnalysis id detail => s.settled (s.failAnalysis now id detail)
  | .moveProject id target => s.settled (s.moveProject now id target)
  | .commit c => (s.attempt now c).1
  | .moveTicket id target => s.settled (s.moveTicket now id target)
  | .assignTicket id assignee => s.settled (s.assignTicket now id assignee)
  | .patchTicket id patch => s.settled (s.patchTicket now id patch)

/-- Tries operations one after another, each at an instant of its own. -/
def performAll (s : Store) (ops : List (Instant × Operation)) : Store :=
  ops.foldl (fun s o => s.perform o.1 o.2) s

theorem performAll_concat (s : Store) (ops : List (Instant × Operation)) (o : Instant × Operation) :
    s.performAll (ops ++ [o]) = (s.performAll ops).perform o.1 o.2 :=
  List.foldl_concat _ s o ops

theorem steps_settled {α : Type} {r : Except StoreError (Store × α)}
    (h : ∀ v, r = .ok v → Step Allowed s v.1) :
    Relation.ReflTransGen (Step Allowed) s (s.settled r) := by
  cases r with
  | error e => exact .refl
  | ok v => exact .single (h v rfl)

/-- What a commit writes row by row is what it stores at once. -/
theorem perform_commit (s : Store) (now : Instant) (c : Commit) :
    s.perform now (.commit c) = s.settled (s.commit now c) := by
  show (s.attempt now c).1 = _
  rw [attempt_eq]
  cases s.commit now c <;> rfl

/-- **An operation is a step**, or it fails and leaves the store as it was. -/
theorem steps_perform {op : Operation} (hop : op.Within Allowed) :
    Relation.ReflTransGen (Step Allowed) s (s.perform now op) := by
  cases op with
  | createProject id name description => exact steps_settled fun _ => .create
  | beginAnalysis id => exact steps_settled fun _ => .beginAnalysis
  | failAnalysis id detail => exact steps_settled fun _ => .failAnalysis
  | moveProject id target => exact steps_settled fun _ => .moveProject
  | commit c =>
    rw [perform_commit]
    exact steps_settled fun _ => .commit hop
  | moveTicket id target => exact steps_settled fun _ => .moveTicket
  | assignTicket id assignee => exact steps_settled fun _ => .assignTicket
  | patchTicket id patch => exact steps_settled fun _ => .patchTicket

theorem steps_performAll : ∀ {ops : List (Instant × Operation)} {s : Store},
    (∀ o ∈ ops, o.2.Within Allowed) → Relation.ReflTransGen (Step Allowed) s (s.performAll ops)
  | [], _, _ => .refl
  | _ :: _, _, hops => by
    obtain ⟨hop, hrest⟩ := List.forall_mem_cons.mp hops
    exact (steps_perform hop).trans (steps_performAll hrest)

theorem reachable_performAll {ops : List (Instant × Operation)} (hops : ∀ o ∈ ops, o.2.Within Allowed) :
    Reachable Allowed (performAll {} ops) :=
  steps_performAll hops

end Store

end Backlog
