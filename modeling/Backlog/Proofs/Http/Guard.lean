import Backlog.Proofs.Http.Caller

/-! # Requests without a valid token

Where tokens are checked, a request without a valid token leaves the server as it is, tells nobody of anything,
and is a success only if it looks at the health or the metrics of the server (`Server.respond_of_uncredited`).
What is there for everybody is found at three paths (`Route.path_of_isOpen`) and changes nothing, and the guard
in front of all else lets nobody in who has no valid token (`Server.authorize_of_uncredited`). -/

namespace Backlog

open Text

variable {s : Server} {r : Request} {o : Occasion} {digest : Token.Digest} {secret path token : String}
  {route : Route}

/-! ### Paths -/

namespace Route

theorem path_of_segments {segments : List String}
    (h : (pieces (· == '/') path.toList).map String.ofList = segments) :
    path = "/".intercalate segments := by
  apply String.toList_injective
  rw [String.toList_intercalate, ← h, List.map_map]
  have hid : String.toList ∘ String.ofList = id := funext fun _ => String.toList_ofList
  rw [hid, List.map_id]
  exact (intercalate_pieces '/' path.toList).symm

theorem resource_of_named {x : Resource} {segment : String} (h : named x segment = some route) :
    route.resource = x := by
  unfold named at h
  split_ifs at h
  cases h
  rfl

theorem ofInner?_of_isOpen {segments : List String} (h : ofInner? segments = some route)
    (hopen : route.resource.isOpen = true) : segments = ["health"] ∧ route = ⟨.health, ""⟩ := by
  have hguarded : ∀ {x : Resource} {segment : String},
      x.isOpen = false → named x segment = some route → False := by
    intro x segment hx hnamed
    rw [resource_of_named hnamed, hx] at hopen
    cases hopen
  unfold ofInner? at h
  split at h
  · cases h; exact ⟨rfl, rfl⟩
  · cases h; cases hopen
  · cases h; cases hopen
  · exact (hguarded rfl h).elim
  · exact (hguarded rfl h).elim
  · exact (hguarded rfl h).elim
  · exact (hguarded rfl h).elim
  · exact (hguarded rfl h).elim
  · exact (hguarded rfl h).elim
  · exact (hguarded rfl h).elim
  · cases h

/-- **What is there for everybody is found at three paths.** -/
theorem path_of_isOpen (h : ofPath? path = some route) (hopen : route.resource.isOpen = true) :
    (path = "/api/v1/health" ∧ route = ⟨.health, ""⟩) ∨ (path = "/metrics" ∧ route = ⟨.metrics, ""⟩) ∨
      (path = "/ws" ∧ route = ⟨.socket, ""⟩) := by
  unfold ofPath? at h
  split at h
  · next segments hsegments =>
    have hpath := path_of_segments hsegments
    unfold ofSegments? at h
    split at h
    · cases h; exact .inr (.inl ⟨hpath, rfl⟩)
    · cases h; exact .inr (.inr ⟨hpath, rfl⟩)
    · obtain ⟨rfl, rfl⟩ := ofInner?_of_isOpen h hopen
      exact .inl ⟨hpath, rfl⟩
    · cases h
  · cases h

end Route

/-! ### The guard -/

/-- A request that carries a token: some `authorization` header has it. -/
def Request.Carries (r : Request) (token : String) : Prop :=
  ∃ v ∈ r.valuesOf "authorization", bearer? v = some token

theorem Request.carries_of_authorization? (h : r.authorization?.bind bearer? = some token) : r.Carries token := by
  obtain ⟨v, hv, htoken⟩ := Option.bind_eq_some_iff.mp h
  exact ⟨v, (List.mem_filter.mp (List.mem_of_getLast? hv)).1, htoken⟩

/-- **A server that checks tokens**, as its configuration says. -/
def Server.Checks (s : Server) (digest : Token.Digest) (secret : String) : Prop :=
  s.config.auth = ⟨.signedToken, some secret⟩ ∧ Authenticator.ofConfig digest s.config.auth = .ok s.authenticator

/-- **A request without a valid token**: none that it carries is accepted. -/
def Request.Uncredited (r : Request) (digest : Token.Digest) (secret : String) (now : Instant) : Prop :=
  ∀ token, r.Carries token → ∀ user, Token.verify digest secret token now.seconds ≠ .ok user

theorem AuthError.status_of_verify {now : ℤ} {f : AuthError}
    (h : Token.verify digest secret token now = .error f) :
    f.status = 401 := by
  cases f with
  | secretMissing => rcases Token.code_of_verify h with hcode | hcode <;> simp [AuthError.code] at hcode
  | _ => rfl

namespace Server

theorem authorize_of_uncredited {now : Instant} {x : Resource} (hs : s.Checks digest secret)
    (hr : r.Uncredited digest secret now) (hx : x.isOpen = false) :
    ∃ f : AuthError, s.authorize now x r = .error f ∧ f.status = 401 := by
  obtain ⟨hconfig, hauth⟩ := hs
  rw [hconfig] at hauth
  rcases Authenticator.ofConfig_eq_ok.mp hauth with ⟨hmethod, -⟩ | ⟨-, k, -, hk, hauthenticator⟩
  · cases hmethod
  · cases hk
    rw [authorize, if_neg (by simp [hx]), caller, hauthenticator, Authenticator.signed, if_neg (by simp)]
    dsimp only
    cases htoken : r.authorization?.bind bearer? with
    | none => exact ⟨.notAuthenticated, rfl, rfl⟩
    | some token =>
      dsimp only
      cases hverify : Token.verify digest secret token now.seconds with
      | ok user => exact absurd hverify (hr token (Request.carries_of_authorization? htoken) user)
      | error f => exact ⟨f, rfl, AuthError.status_of_verify hverify⟩

theorem handle_of_guarded (hs : s.Checks digest secret) (hr : r.Uncredited digest secret o.now)
    (hmethod : r.method ≠ .options) (hpath : Route.ofPath? r.path = some route)
    (hguarded : route.resource.isOpen = false) : s.handle o r = s.reply ⟨401, .empty⟩ := by
  obtain ⟨f, hf, hstatus⟩ := authorize_of_uncredited hs hr hguarded
  rw [handle_of_route hpath hmethod, hf]
  dsimp only
  rw [hstatus]

theorem handle_of_isOpen (hmethod : r.method ≠ .options) (hpath : Route.ofPath? r.path = some route)
    (hopen : route.resource.isOpen = true) :
    s.handle o r = s.answerAs o r route Identity.anonymous.user := by
  rw [handle_of_route hpath hmethod, authorize, if_pos hopen]

theorem health_path : Route.ofPath? "/api/v1/health" = some ⟨.health, ""⟩ := by decide +kernel

theorem metrics_path : Route.ofPath? "/metrics" = some ⟨.metrics, ""⟩ := by decide +kernel

/-- Nobody can do anything to what is there for everybody. -/
theorem answerAs_of_not_get {user : String} (hmethod : r.method = .post ∨ r.method = .patch)
    (hopen : route.resource.isOpen = true) : s.answerAs o r route user = s.reply ⟨405, .empty⟩ := by
  have haction : route.resource.action? r.method = none := by
    rcases hmethod with hm | hm
    · rw [hm]; revert hopen; cases route.resource <;> decide
    · rw [hm]; revert hopen; cases route.resource <;> decide
  rw [answerAs, haction]

/-- **A request without a valid token is only replied to**, and with success at two paths alone. -/
theorem handle_of_uncredited (hs : s.Checks digest secret) (hr : r.Uncredited digest secret o.now)
    (hmethod : r.method = .get ∨ r.method = .post ∨ r.method = .patch) :
    ∃ a, s.handle o r = s.reply a ∧
      (a.isSuccess = true ↔ r.method = .get ∧ (r.path = "/api/v1/health" ∨ r.path = "/metrics")) := by
  have hoptions : r.method ≠ .options := by rcases hmethod with h | h | h <;> simp [h]
  have hsegment : Form.segment? "" = some "" := by decide +kernel
  cases hpath : Route.ofPath? r.path with
  | none =>
    refine ⟨⟨404, .empty⟩, by rw [handle, if_neg hoptions, hpath], iff_of_false (by decide) ?_⟩
    rintro ⟨-, h | h⟩
    · rw [h, health_path] at hpath; cases hpath
    · rw [h, metrics_path] at hpath; cases hpath
  | some route =>
    cases hopen : route.resource.isOpen with
    | false =>
      refine ⟨⟨401, .empty⟩, handle_of_guarded hs hr hoptions hpath hopen, iff_of_false (by decide) ?_⟩
      rintro ⟨-, h | h⟩
      · rw [h, health_path] at hpath; cases hpath; cases hopen
      · rw [h, metrics_path] at hpath; cases hpath; cases hopen
    | true =>
      rw [handle_of_isOpen hoptions hpath hopen]
      rcases hmethod with hm | hm
      · rcases Route.path_of_isOpen hpath hopen with ⟨h, rfl⟩ | ⟨h, rfl⟩ | ⟨h, rfl⟩
        · exact ⟨.ok s.sync.writeHealth, by rw [answerAs, hm, hsegment]; rfl, iff_of_true rfl ⟨hm, .inl h⟩⟩
        · exact ⟨⟨200, .text s.sync.hub.counts.text⟩, by rw [answerAs, hm, hsegment]; rfl,
            iff_of_true rfl ⟨hm, .inr h⟩⟩
        · refine ⟨_, by rw [answerAs, hm, hsegment]; rfl, iff_of_false ?_ (by simp [h])⟩
          split_ifs <;> decide
      · refine ⟨⟨405, .empty⟩, answerAs_of_not_get hm hopen, iff_of_false (by decide) ?_⟩
        rintro ⟨hget, -⟩
        rcases hm with hm | hm <;> rw [hget] at hm <;> cases hm

/-- **Where tokens are checked, a request without a valid token changes nothing and tells nobody of anything.**
Whatever its path, headers and body are, the server is afterwards what it was, its store and its running
generations included. The answer is a success only at the health and the metrics of the server, and whoever asks
for what is guarded is refused. -/
theorem respond_of_uncredited (hs : s.Checks digest secret)
    (hmethod : r.method = .get ∨ r.method = .post ∨ r.method = .patch)
    (hr : r.Uncredited digest secret o.now) :
    ∃ a, s.respond o r = (s, a, []) ∧ (s.handle o r).events = [] ∧
      (a.isSuccess = true ↔ r.method = .get ∧ (r.path = "/api/v1/health" ∨ r.path = "/metrics")) ∧
      ∀ route, Route.ofPath? r.path = some route → route.resource.isOpen = false → a = ⟨401, .empty⟩ := by
  obtain ⟨a, hhandle, hsuccess⟩ := handle_of_uncredited hs hr hmethod
  have hhead : r.method ≠ .head := by rcases hmethod with h | h | h <;> simp [h]
  have hoptions : r.method ≠ .options := by rcases hmethod with h | h | h <;> simp [h]
  have hsent : sent r a = a := if_neg hhead
  refine ⟨a, ?_, by rw [hhandle]; rfl, hsuccess, fun route hpath hguarded => ?_⟩
  · rw [respond, hhandle]
    show (s, sent r a, []) = (s, a, [])
    rw [hsent]
  · have hreply := handle_of_guarded hs hr hoptions hpath hguarded
    rw [hhandle] at hreply
    exact congrArg Handled.response hreply

theorem checks_checked : checked.Checks Sha256.hex "k" :=
  ⟨rfl, Authenticator.ofConfig_eq_ok.mpr (.inr ⟨rfl, "k", by decide, rfl, rfl⟩)⟩

/-- A ticket is not given another title by a request whose signature is made up. -/
theorem respond_of_uncredited_forged :
    checked.Checks Sha256.hex "k" ∧ (retitling "jane.9.00ff").Uncredited Sha256.hex "k" anyTime.now ∧
      checked.respond anyTime (retitling "jane.9.00ff") = (checked, ⟨401, .empty⟩, []) := by
  have hr : (retitling "jane.9.00ff").Uncredited Sha256.hex "k" anyTime.now := by
    rintro token ⟨v, hv, htoken⟩ user hverify
    obtain rfl : v = bearerHeader "jane.9.00ff" := by simpa [retitling, Request.valuesOf] using hv
    have hcarried : bearer? (bearerHeader "jane.9.00ff") = some "jane.9.00ff" := by decide +kernel
    obtain rfl : "jane.9.00ff" = token := Option.some.inj (hcarried.symm.trans htoken)
    have hinvalid : Token.verify Sha256.hex "k" "jane.9.00ff" anyTime.now.seconds = .error .invalidSignature := by
      decide +kernel
    rw [hinvalid] at hverify
    cases hverify
  have hpath : Route.ofPath? (retitling "jane.9.00ff").path = some ⟨.ticket, "a"⟩ := by
    show Route.ofPath? "/api/v1/tickets/a" = _
    decide +kernel
  obtain ⟨a, hrespond, -, -, hrefused⟩ := respond_of_uncredited checks_checked (.inr (.inr rfl)) hr
  rw [hrefused _ hpath rfl] at hrespond
  exact ⟨checks_checked, hr, hrespond⟩

end Server

end Backlog
