import Backlog.Proofs.Auth.Authenticator
import Backlog.Proofs.Sync.Alone

/-! # What the errors of the hub mean

An error that a client is sent either can be made good, and then nothing has changed, or it cannot, and then
the connection is closed (`Erring`, `erring_answer`). Its code tells which of the two it is, with one
exception: `not_authenticated` is the answer to a client that sends something else before it has introduced
itself, which can be made good, and also the answer to a client that introduces itself with a blank token
where tokens are checked, which cannot (`code_tells_iff`). -/

namespace Backlog

variable {h : Hub} {a : Authenticator} {m : Moment} {c : Connection} {op : Hub.Operation}
  {ops pre post : List Hub.Operation} {id text code message : String} {recoverable : Bool} {item : Outbound}

theorem Posted.mem_to {p : Posted} : item ∈ p.to id ↔ (id, item) ∈ p := by
  simp [Posted.to]

/-- The codes of errors that can be made good. -/
def complaintCodes : List String :=
  ["invalid_message", "not_authenticated", "already_authenticated", "not_subscribed"]

/-- The codes of errors that cannot. -/
def refusalCodes : List String := ["auth_failed", "token_expired", "auth_unavailable"]

/-! ### One connection -/

/-- **A blank introduction**: a client without a session introduces itself with a blank token. -/
def Connection.IntroducesBlank (c : Connection) (text : String) : Prop :=
  c.session = none ∧ ∃ token client project,
    ClientMessage.ofText text = .ok (.authenticate token client project) ∧ Text.isBlankText token = true

/-- **What an error among the answers to a text means** for the connection, by its code and whether it can be
made good. -/
inductive Connection.Erring (c : Connection) (text message : String) (r : Option Connection × List Outbound) :
    String → Bool → Prop where
  | complaint {code : String} : code ∈ complaintCodes → ¬ c.IntroducesBlank text → r.1 = some c →
    Erring c text message r code true
  | refusal {code : String} : code ∈ refusalCodes → ¬ c.IntroducesBlank text →
    r = (none, [.message (.error code message false), .close "authentication failed"]) →
    Erring c text message r code false
  | blank : c.IntroducesBlank text →
    r = (none, [.message (.error "not_authenticated" message false), .close "authentication failed"]) →
    Erring c text message r "not_authenticated" false

theorem Connection.erring_complaint {k t : String} (hcode : k ∈ complaintCodes)
    (hblank : ¬ c.IntroducesBlank text)
    (h : .message (.error code message recoverable) ∈ [Connection.complaint k t]) :
    c.Erring text message (some c, [Connection.complaint k t]) code recoverable := by
  cases List.mem_singleton.mp h
  exact .complaint hcode hblank rfl

theorem Connection.erring_introduced (ha : a.Configured) {token : String} {client : ClientType}
    {project : Option String} (hc : c.session = none)
    (htext : ClientMessage.ofText text = .ok (.authenticate token client project))
    (h : .message (.error code message recoverable) ∈ (c.introduced a m token client project).2) :
    c.Erring text message (c.introduced a m token client project) code recoverable := by
  have hblank : c.IntroducesBlank text ↔ Text.isBlankText token = true := by
    constructor
    · rintro ⟨-, token', client', project', htext', hblank⟩
      rw [htext] at htext'
      cases htext'
      exact hblank
    · exact fun hblank => ⟨hc, token, client, project, htext, hblank⟩
  unfold introduced at h ⊢
  cases hauth : a.authenticate m.time.seconds (some (bearerHeader token)) with
  | ok identity =>
    rw [hauth] at h
    simp at h
  | error e =>
    rw [hauth] at h
    simp only [List.mem_cons, Outbound.message.injEq, ServerMessage.error.injEq, reduceCtorEq,
      List.not_mem_nil, or_false] at h
    obtain ⟨rfl, rfl, rfl⟩ := h
    -- The code of the error is the authenticator's own, and that for a blank token is the odd one out.
    have hcode := ha.code_of_error hauth
    split_ifs at hcode with hb
    · rw [hcode]
      exact .blank (hblank.mpr hb) (by rw [← hcode])
    · refine .refusal ?_ (hblank.not.mpr hb) rfl
      rcases hcode with hcode | hcode <;> simp [hcode, refusalCodes]

/-- **What the errors among the answers to a text mean.** -/
theorem Connection.erring_answer (ha : a.Configured)
    (h : .message (.error code message recoverable) ∈ (c.answer a m text).2) :
    c.Erring text message (c.answer a m text) code recoverable := by
  unfold answer at h ⊢
  cases htext : ClientMessage.ofText text with
  | error f =>
    rw [htext] at h
    exact erring_complaint (by decide) (by simp [IntroducesBlank, htext]) h
  | ok msg =>
    rw [htext] at h
    cases hs : c.session with
    | some s =>
      rw [hs] at h
      have hblank : ¬ c.IntroducesBlank text := by simp [IntroducesBlank, hs]
      cases msg with
      | authenticate token client project => exact erring_complaint (by decide) hblank h
      | subscribe project =>
        simp only [handled] at h ⊢
        split_ifs at h ⊢
        · exact erring_complaint (by decide) hblank h
        · cases h
      | unsubscribe project =>
        simp only [handled] at h ⊢
        split_ifs at h ⊢
        · cases h
        · exact erring_complaint (by decide) hblank h
      | pong t => cases h
    | none =>
      rw [hs] at h
      cases msg with
      | authenticate token client project => exact erring_introduced ha hs htext h
      | subscribe project | unsubscribe project | pong t =>
        exact erring_complaint (by decide) (by simp [IntroducesBlank, htext]) h

namespace Hub

/-! ### One operation -/

/-- **A blank introduction** as an operation. -/
def IntroducesBlank (h : Hub) (op : Operation) (id : String) : Prop :=
  ∃ m text c, op = .frame m id text ∧ h.connection? id = some c ∧ c.IntroducesBlank text

/-- **The code of an error tells what it means**: whether it can be made good, and then the connection is still
registered, or not, and then the next item is the end. -/
structure CodeTells (h : Hub) (op : Operation) (id code message : String) (recoverable : Bool) : Prop where
  complaint : code ∈ complaintCodes → recoverable = true ∧ id ∈ (h.perform op).1.ids
  refusal : recoverable = false → code ∈ refusalCodes ∧
    ∃ reason, Posted.to (h.perform op).2 id = [.message (.error code message false), .close reason]

/-- **Errors answer texts**: no other operation posts one. -/
theorem error_of_perform (hd : h.Distinct)
    (herror : (id, .message (.error code message recoverable)) ∈ (h.perform op).2) :
    ∃ c m text, h.connection? id = some c ∧ op = .frame m id text ∧
      (h.perform op).1.connection? id = (c.answer h.authenticator m text).1 ∧
      Posted.to (h.perform op).2 id = (c.answer h.authenticator m text).2 ∧
      .message (.error code message recoverable) ∈ (c.answer h.authenticator m text).2 := by
  have hmem := Posted.mem_to.mpr herror
  cases hc : h.connection? id with
  | none =>
    -- Only by coming could a connection that is not there be concerned, and nothing is posted then.
    by_cases hop : ∃ m, op = .attach m id
    · obtain ⟨m, rfl⟩ := hop
      cases herror
    · rw [(perform_of_none hd hc fun m hm => hop ⟨m, hm⟩).2] at hmem
      cases hmem
  | some c =>
    obtain ⟨hconnection, hposted⟩ := perform_eq_turn hd hc op
    rw [hposted] at hmem
    have hwritable : c.writable = true := by
      by_contra hnot
      rw [Connection.hand, if_neg hnot] at hmem
      cases hmem
    rw [Connection.hand, if_pos hwritable] at hposted hmem
    cases op with
    | frame m id' text =>
      simp only [Connection.turn] at hconnection hposted hmem
      split_ifs at hconnection hposted hmem with hid
      · have hsame : id' = id := hid.symm.trans (id_of_connection? hc)
        subst hsame
        exact ⟨c, m, text, rfl, rfl, hconnection, hposted, hmem⟩
      · cases hmem
    | broadcast event =>
      simp only [Connection.turn] at hmem
      split_ifs at hmem with hany
      · cases List.mem_singleton.mp hmem
        cases hany
      · cases hmem
    | tick m =>
      simp only [Connection.turn] at hmem
      split_ifs at hmem <;> simp at hmem
    | attach m id' | detach id' | hangUp id' | adopt a => cases hmem
    | closeAll reason => cases List.mem_singleton.mp hmem

theorem code_tells_of_perform (hd : h.Distinct) (ha : h.authenticator.Configured)
    (herror : (id, .message (.error code message recoverable)) ∈ (h.perform op).2) :
    (h.CodeTells op id code message recoverable ↔ ¬ h.IntroducesBlank op id) ∧
    (recoverable = true → code ∈ complaintCodes ∧
      (h.perform op).1.connection? id = h.connection? id ∧ id ∈ (h.perform op).1.ids) ∧
    (recoverable = false → (code ∈ refusalCodes ∨ code = "not_authenticated") ∧
      Posted.to (h.perform op).2 id =
        [.message (.error code message false), .close "authentication failed"] ∧
      id ∉ (h.perform op).1.ids) := by
  obtain ⟨c, m, text, hc, rfl, hconnection, hposted, hmem⟩ := error_of_perform hd herror
  have hblank : h.IntroducesBlank (.frame m id text) id ↔ c.IntroducesBlank text := by
    constructor
    · rintro ⟨m', text', c', hop, hc', h⟩
      cases hop
      rw [hc] at hc'
      cases hc'
      exact h
    · exact fun h => ⟨m, text, c, rfl, hc, h⟩
  have hids : id ∈ (h.perform (.frame m id text)).1.ids ↔ (c.answer h.authenticator m text).1 ≠ none := by
    rw [← hconnection, ne_eq, connection?_eq_none, not_not]
  rw [hblank, hids, hc, hconnection]
  have herring := Connection.erring_answer ha hmem
  revert hconnection hposted hids herring
  generalize c.answer h.authenticator m text = r
  intro hconnection hposted hids herring
  cases herring with
  | complaint hcode hnot hstays =>
    refine ⟨iff_of_true ⟨fun _ => ⟨rfl, hids.mpr (by simp [hstays])⟩, by simp⟩ hnot, fun _ => ?_, by simp⟩
    exact ⟨hcode, hstays, by simp [hstays]⟩
  | refusal hcode hnot hleaves =>
    subst hleaves
    -- No code stands in both tables.
    have hnotComplaint : code ∉ complaintCodes := by
      intro hcomplaint
      simp only [refusalCodes, complaintCodes, List.mem_cons, List.not_mem_nil, or_false] at hcode hcomplaint
      rcases hcode with rfl | rfl | rfl <;> revert hcomplaint <;> decide
    refine ⟨iff_of_true ⟨fun hcomplaint => absurd hcomplaint hnotComplaint, fun _ => ⟨hcode, _, hposted⟩⟩ hnot,
      by simp, fun _ => ⟨Or.inl hcode, hposted, fun hne => hne rfl⟩⟩
  | blank hyes hleaves =>
    subst hleaves
    refine ⟨iff_of_false (fun htells => ?_) (not_not.mpr hyes), by simp,
      fun _ => ⟨Or.inr rfl, hposted, fun hne => hne rfl⟩⟩
    exact Bool.false_ne_true (htells.complaint (by decide)).1

/-! ### Runs -/

/-- **Only authenticators that configurations ask for** decide who a caller is. -/
theorem configured_run (ha : h.authenticator.Configured) (hadopt : ∀ a, .adopt a ∈ ops → a.Configured) :
    (h.run ops).1.authenticator.Configured := by
  induction ops using List.reverseRecOn with
  | nil => exact ha
  | append_singleton ops op ih =>
    have hprev := ih fun a hmem => hadopt a (List.mem_append_left _ hmem)
    have hterms : (h.run (ops ++ [op])).1.authenticator = (op.revise (h.run ops).1.terms).1 := by
      rw [run_concat]
      exact congrArg Prod.fst (terms_perform _ op)
    rw [hterms]
    cases op with
    | adopt a => exact hadopt a (List.mem_append_right _ List.mem_cons_self)
    | attach m id | detach id | hangUp id | frame m id text | broadcast message | tick m
    | closeAll reason => exact hprev

/-- **The code of an error tells what it means, but for one case.** Take a run where only authenticators that
configurations ask for decide who a caller is, and any error in it. Its code tells whether it can be made good
unless it answers a blank introduction. In any case, if it can be made good, it has one of the codes of
complaints and the connection stays as it was; if not, it has one of the codes of refusals or
`not_authenticated`, the next item is the end, and the connection is forgotten. -/
theorem code_tells_iff (hstart : h.connections = []) (ha : h.authenticator.Configured)
    (hadopt : ∀ a, .adopt a ∈ ops → a.Configured) (hops : (attached ops).Nodup)
    (hat : ops = pre ++ op :: post)
    (herror : (id, .message (.error code message recoverable)) ∈ ((h.run pre).1.perform op).2) :
    ((h.run pre).1.CodeTells op id code message recoverable ↔ ¬ (h.run pre).1.IntroducesBlank op id) ∧
    (recoverable = true → code ∈ complaintCodes ∧
      ((h.run pre).1.perform op).1.connection? id = (h.run pre).1.connection? id ∧
      id ∈ ((h.run pre).1.perform op).1.ids) ∧
    (recoverable = false → (code ∈ refusalCodes ∨ code = "not_authenticated") ∧
      Posted.to ((h.run pre).1.perform op).2 id =
        [.message (.error code message false), .close "authentication failed"] ∧
      id ∉ ((h.run pre).1.perform op).1.ids) := by
  subst hat
  have hpre : pre.Sublist (pre ++ op :: post) := List.sublist_append_left _ _
  exact code_tells_of_perform (distinct_run hstart (hops.sublist (hpre.flatMap _)))
    (configured_run ha fun a hmem => hadopt a (hpre.mem hmem)) herror

/-- A hub that checks tokens. -/
def guarded : Hub := { authenticator := .signed Sha256.hex "k", timeout := 1000 }

theorem configured_guarded : guarded.authenticator.Configured :=
  ⟨Sha256.hex, ⟨.signedToken, some "k"⟩,
    Authenticator.ofConfig_eq_ok.mpr (.inr ⟨rfl, "k", by decide, rfl, rfl⟩)⟩

/-- The introduction with a token. -/
def introduction (token : String) : Operation :=
  .frame default "ann" (ClientMessage.authenticate token .web none).write.render

theorem code_tells_iff_forged :
    guarded.authenticator.Configured ∧
    Posted.to (guarded.run [.attach default "ann", introduction "forged"]).2 "ann" =
      [.message (.error "auth_failed" "Invalid credentials: Malformed token" false),
        .close "authentication failed"] ∧
    (guarded.run [.attach default "ann"]).1.CodeTells (introduction "forged") "ann" "auth_failed"
      "Invalid credentials: Malformed token" false ∧
    "ann" ∉ ((guarded.run [.attach default "ann"]).1.perform (introduction "forged")).1.ids := by
  have htext : ClientMessage.ofText (ClientMessage.authenticate "forged" .web none).write.render =
      .ok (.authenticate "forged" .web none) := by decide +kernel
  have hnot : ¬ (guarded.run [.attach default "ann"]).1.IntroducesBlank (introduction "forged") "ann" := by
    rintro ⟨m, text, c, hop, -, -, token, client, project, htext', hblank⟩
    obtain ⟨-, -, rfl⟩ := Operation.frame.inj hop
    rw [htext] at htext'
    cases htext'
    revert hblank
    decide
  have hat : [.attach default "ann", introduction "forged"] =
      [.attach default "ann"] ++ introduction "forged" :: [] := rfl
  have herror : ("ann", .message (.error "auth_failed" "Invalid credentials: Malformed token" false)) ∈
      ((guarded.run [.attach default "ann"]).1.perform (introduction "forged")).2 := by decide +kernel
  obtain ⟨htells, -, hends⟩ :=
    code_tells_iff rfl configured_guarded (by simp [introduction]) (by decide) hat herror
  exact ⟨configured_guarded, by decide +kernel, htells.mpr hnot, (hends rfl).2.2⟩

/-- A blank token ends the visit too, with a code that says otherwise. -/
theorem code_misleads_blank :
    guarded.authenticator.Configured ∧
    Posted.to (guarded.run [.attach default "ann", introduction ""]).2 "ann" =
      [.message (.error "not_authenticated" "Authentication required" false),
        .close "authentication failed"] ∧
    ¬ (guarded.run [.attach default "ann"]).1.CodeTells (introduction "") "ann" "not_authenticated"
      "Authentication required" false := by
  refine ⟨configured_guarded, by decide +kernel, fun htells => ?_⟩
  exact Bool.false_ne_true (htells.complaint (by decide)).1

end Hub

end Backlog
