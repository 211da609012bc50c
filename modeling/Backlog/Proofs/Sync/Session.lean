import Backlog.Proofs.Sync.Run
import Backlog.Proofs.Text.Ascending

/-! # Where a session comes from

A client gets its session by an introduction that is accepted (`Session.Granted`), and keeps who it is and since
when; the projects it follows are ascending at any time, and the moment at which something that counts was last
heard of it is that of a text that came over its connection.

* `goes_answer`: what an answered text leaves of a session.
* `served_of_run`: **what is known of a session** after a run. -/

namespace Backlog

variable {h : Hub} {a : Authenticator} {m : Moment} {c d : Connection} {s s' : Session} {id text : String}
  {ops : List Hub.Operation}

/-! ### Ascending projects -/

theorem ascending_firstProjects (first : Option String) : (Hub.firstProjects first).Pairwise (· < ·) := by
  unfold Hub.firstProjects
  cases first.filter fun p => !p.isEmpty with
  | none => exact .nil
  | some p => exact List.pairwise_singleton _ _

theorem ascending_addProject {q : String} {ps : List String} (hps : ps.Pairwise (· < ·)) :
    (Hub.addProject q ps).Pairwise (· < ·) := by
  unfold Hub.addProject
  split_ifs with hq
  · exact hps
  · have hnodup : (q :: ps).Nodup := List.nodup_cons.mpr ⟨by simpa using hq, hps.imp fun hlt => hlt.ne⟩
    exact Text.ascending_mergeSort hnodup

/-! ### Answers -/

/-- **A session that an introduction gives**: the client is who it is taken for, from this moment on. -/
def Session.Granted (s : Session) (a : Authenticator) (m : Moment) (text : String) : Prop :=
  ∃ token client first identity, ClientMessage.ofText text = .ok (.authenticate token client first) ∧
    a.authenticate m.time.seconds (some (bearerHeader token)) = .ok identity ∧
    s.user = identity.user ∧ s.client = client ∧ s.since = m.time

/-- Two sessions of one client that has introduced himself once. -/
structure Session.SameClient (s s' : Session) : Prop where
  user : s'.user = s.user
  client : s'.client = s.client
  since : s'.since = s.since

theorem Session.Granted.of_sameClient (hs : s.Granted a m text) (h : s.SameClient s') : s'.Granted a m text := by
  obtain ⟨token, client, first, identity, htext, hauth, huser, hclient, hsince⟩ := hs
  exact ⟨token, client, first, identity, htext, hauth, h.user.trans huser, h.client.trans hclient,
    h.since.trans hsince⟩

/-- **What an answered text leaves of a session**: it gives one to a connection, or the session stays that of its
client. -/
inductive Session.Goes (a : Authenticator) (m : Moment) (text : String) (c d : Connection) (s' : Session) :
    Prop where
  | granted : s'.Granted a m text → s'.projects.Pairwise (· < ·) → d.heard = m → Goes a m text c d s'
  | kept {s : Session} : c.session = some s → s.SameClient s' →
    (s.projects.Pairwise (· < ·) → s'.projects.Pairwise (· < ·)) → d.heard = c.heard ∨ d.heard = m →
    Goes a m text c d s'

theorem Session.Goes.same (hd : d.session = some s') : Goes a m text d d s' :=
  .kept hd ⟨rfl, rfl, rfl⟩ (fun hps => hps) (.inl rfl)

theorem goes_handled {message : ClientMessage} (hc : c.session = some s) (h : (c.handled m s message).1 = some d)
    (hd : d.session = some s') : Session.Goes a m text c d s' := by
  cases message with
  | authenticate token client first =>
    cases h
    exact .same hd
  | subscribe q =>
    simp only [Connection.handled] at h
    split_ifs at h
    · cases h
      exact .same hd
    · cases h
      cases hd
      exact .kept hc ⟨rfl, rfl, rfl⟩ ascending_addProject (.inl rfl)
  | unsubscribe q =>
    simp only [Connection.handled] at h
    split_ifs at h
    · cases h
      cases hd
      exact .kept hc ⟨rfl, rfl, rfl⟩ (fun hps => hps.filter _) (.inl rfl)
    · cases h
      exact .same hd
  | pong t =>
    cases h
    exact .kept hd ⟨rfl, rfl, rfl⟩ (fun hps => hps) (.inr rfl)

/-- **An answered text** gives a session or leaves it to its client. -/
theorem goes_answer (h : (c.answer a m text).1 = some d) (hd : d.session = some s') :
    Session.Goes a m text c d s' := by
  unfold Connection.answer at h
  cases htext : ClientMessage.ofText text with
  | error f =>
    rw [htext] at h
    cases h
    exact .same hd
  | ok message =>
    rw [htext] at h
    cases hs : c.session with
    | some s =>
      rw [hs] at h
      exact goes_handled hs h hd
    | none =>
      rw [hs] at h
      cases message with
      | authenticate token client first =>
        simp only [Connection.introduced] at h
        cases hauth : a.authenticate m.time.seconds (some (bearerHeader token)) with
        | error e =>
          rw [hauth] at h
          cases h
        | ok identity =>
          rw [hauth] at h
          cases h
          cases hd
          exact .granted ⟨token, client, first, identity, htext, hauth, rfl, rfl, rfl⟩
            (ascending_firstProjects first) rfl
      | subscribe q => cases h; exact .same hd
      | unsubscribe q => cases h; exact .same hd
      | pong t => cases h; exact .same hd

/-! ### Turns -/

/-- **A turn** leaves a connection with what an answered text leaves it, or its session and when it was heard. -/
theorem goes_turn {timeout : ℕ} {op : Hub.Operation} (h : (c.turn a timeout op).1 = some d)
    (hd : d.session = some s') :
    (∃ m text, op = .frame m c.id text ∧ Session.Goes a m text c d s') ∨ c.session = some s' ∧ d.heard = c.heard := by
  have same (hsame : c = d) : c.session = some s' ∧ d.heard = c.heard := by
    subst hsame
    exact ⟨hd, rfl⟩
  cases op with
  | attach m id => exact .inr (same (Option.some.inj h))
  | detach id =>
    simp only [Connection.turn] at h
    split_ifs at h
    exact .inr (same (Option.some.inj h))
  | hangUp id =>
    cases h
    refine .inr ⟨hd ▸ ?_, ?_⟩
    all_goals split_ifs <;> rfl
  | frame m id text =>
    simp only [Connection.turn] at h
    split_ifs at h with hid
    · exact .inl ⟨m, text, hid ▸ rfl, goes_answer h hd⟩
    · exact .inr (same (Option.some.inj h))
  | broadcast message => exact .inr (same (Option.some.inj h))
  | tick m =>
    simp only [Connection.turn] at h
    split_ifs at h
    all_goals exact .inr (same (Option.some.inj h))
  | closeAll reason => cases h
  | adopt a => exact .inr (same (Option.some.inj h))

namespace Hub

/-- **What is known of a session after some operations**: who introduced himself, when something was last heard of
him, and that his projects are ascending. -/
structure Served (h : Hub) (ops : List Operation) (id : String) (s : Session) (heard : Moment) : Prop where
  introduced : ∃ pre m text post, ops = pre ++ .frame m id text :: post ∧
    s.Granted (h.run pre).1.authenticator m text
  heard : ∃ text, .frame heard id text ∈ ops
  ascending : s.projects.Pairwise (· < ·)

theorem Served.concat {heard : Moment} (hs : h.Served ops id s heard) (op : Operation) :
    h.Served (ops ++ [op]) id s heard := by
  obtain ⟨⟨pre, m, text, post, rfl, hgranted⟩, ⟨text', hheard⟩, hascending⟩ := hs
  exact ⟨⟨pre, m, text, post ++ [op], by simp, hgranted⟩, ⟨text', List.mem_append_left _ hheard⟩, hascending⟩

/-- **A turn** keeps what is known of the session of its connection. -/
theorem served_turn (hid : c.id = id) {op : Operation}
    (ih : ∀ s, c.session = some s → h.Served ops id s c.heard)
    (hd : (c.turn (h.run ops).1.authenticator (h.run ops).1.timeout op).1 = some d) (hs : d.session = some s') :
    h.Served (ops ++ [op]) id s' d.heard := by
  rcases goes_turn hd hs with ⟨m, text, rfl, hgoes⟩ | ⟨hsame, hheard⟩
  · have hlast : Operation.frame m id text ∈ ops ++ [.frame m c.id text] := by simp [hid]
    cases hgoes with
    | granted hgranted hascending hheard =>
      exact ⟨⟨ops, m, text, [], by rw [hid], hgranted⟩, ⟨text, hheard ▸ hlast⟩, hascending⟩
    | kept hc hclient hascending hheard =>
      obtain ⟨⟨pre, m', text', post, hops, hgranted⟩, ⟨text'', hbefore⟩, hps⟩ := (ih _ hc).concat (.frame m c.id text)
      refine ⟨⟨pre, m', text', post, hops, hgranted.of_sameClient hclient⟩, ?_, hascending hps⟩
      rcases hheard with hheard | hheard
      · exact ⟨text'', hheard ▸ hbefore⟩
      · exact ⟨text, hheard ▸ hlast⟩
  · exact hheard ▸ (ih s' hsame).concat op

/-- **After a run** this is known of each session. -/
theorem served_of_run (hstart : h.connections = []) (hops : (attached ops).Nodup)
    (hc : (h.run ops).1.connection? id = some c) (hs : c.session = some s) : h.Served ops id s c.heard := by
  refine run_induction (motive := fun ops o _ => ∀ c s, o = some c → c.session = some s → h.Served ops id s c.heard)
    hstart id ?_ ?_ ?_ ?_ ops hops c s hc hs
  · intro c s hc
    cases hc
  · intro ops op w _ _ c s hc
    cases hc
  · intro ops m _ _ c s hc hs
    cases hc
    cases hs
  · intro ops op c w hc ih d s' hd hs
    exact served_turn (id_of_connection? hc) (fun s hs => ih c s rfl hs) hd hs

end Hub

end Backlog
