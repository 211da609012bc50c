import Backlog.Llm.Basic
import Backlog.Proofs.Except

/-! # Asking a model

To ask a model is to send it one request and to read the reply. So the result depends on the client only
through what it answers to that request (`ask_congr`), and it is a value if and only if there is a reply that
can be read as one (`ask_eq_ok`). -/

namespace Backlog.Llm

variable {α : Type} {c c' : Client} {r : Json.Read α} {q : Request} {a : α}

theorem Client.requests_ask (c : Client) (r : Json.Read α) (q : Request) : (c.ask r q).requests = [q] := by
  unfold ask
  cases c.completeJson r q <;> rfl

theorem Client.ask_eq_ok :
    (c.ask r q).result = .ok a ↔ ∃ reply, c.complete q = .ok reply ∧ reply.read r = .ok a := by
  have hcomplete : (∃ usage, c.completeJson r q = .ok (a, usage)) ↔
      ∃ reply, c.complete q = .ok reply ∧ reply.read r = .ok a := by
    simp only [completeJson, bind_eq_ok, pure_eq_ok, Prod.mk.injEq]
    constructor
    · rintro ⟨usage, reply, hreply, _, ha, rfl, rfl⟩
      exact ⟨reply, hreply, ha⟩
    · rintro ⟨reply, hreply, ha⟩
      exact ⟨reply.usage, reply, hreply, a, ha, rfl, rfl⟩
  rw [← hcomplete, ask]
  cases c.completeJson r q with
  | error e => simp
  | ok p => simp [Prod.ext_iff]

/-- **Nothing but the answer to the request matters.** -/
theorem Client.ask_congr (h : c'.complete q = c.complete q) (r : Json.Read α) :
    (c'.ask r q).result = (c.ask r q).result := by
  have hcomplete : c'.completeJson r q = c.completeJson r q := by
    simp only [completeJson, h]
  unfold ask
  rw [hcomplete]
  cases c.completeJson r q <;> rfl

end Backlog.Llm
