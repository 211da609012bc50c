import Backlog.Proofs.Named

/-! # Messages are read back

Every message is read back from its text, and no two messages have the same text, be they sent by clients or to
them (`message_ofText_render`). A message is a tagged record: what has to be shown of each kind is that its fields
have names of their own, none of them that of the tag, and that they make up the record again (`Json.Carried`). The
time stamps of `pong` and `heartbeat` are whole numbers of 64 bits (`IsTimestamp`). -/

namespace Backlog

open Json

/-! ### Bodies of messages -/

namespace Message

/-- A whole number of 64 bits. -/
def IsTimestamp (t : ℤ) : Prop := -9223372036854775808 ≤ t ∧ t ≤ 9223372036854775807

theorem carried_authenticate (x : String × ClientType × Option String) :
    Carried "type" authenticateFields ("", .web, none) x where
  names := by decide
  copied := .string (sound_string _) <| .of (Named.sound_write _) (Named.readBuffered_write _) <|
    .sparse (fun s _ => ⟨sound_string s, rfl, Json.noConfusion⟩) (fun _ => rfl) <| .nil _

theorem carried_project (p : String) : Carried "type" projectFields "" p where
  names := by decide
  copied := .string (sound_string _) <| .nil _

theorem carried_timestamp {t : ℤ} (ht : IsTimestamp t) : Carried "type" timestampFields 0 t where
  names := by decide
  copied := .of (sound_ofInt ht.1 (by have := ht.2; dsimp only [id]; omega))
    (readInt_ofInt ht.1 ht.2 (by decide) (by decide)) <| .nil _

theorem carried_authSuccess (x : String × String × List String) :
    Carried "type" authSuccessFields ("", "", []) x where
  names := by decide
  copied := .string (sound_string _) <| .string (sound_string _) <|
    .of (sound_textList _) (readList_textList _) <| .nil _

theorem carried_ticketUpdated (x : String × String × List String × String) :
    Carried "type" ticketUpdatedFields ("", "", [], "") x where
  names := by decide
  copied := .string (sound_string _) <| .string (sound_string _) <|
    .of (sound_textList _) (readList_textList _) <| .string (sound_string _) <| .nil _

theorem carried_ticketMoved (x : String × String × TicketStatus × TicketStatus × String) :
    Carried "type" ticketMovedFields ("", "", .pending, .pending, "") x where
  names := by decide
  copied := .string (sound_string _) <| .string (sound_string _) <|
    .of (Named.sound_write _) (Named.readBuffered_write _) <|
    .of (Named.sound_write _) (Named.readBuffered_write _) <| .string (sound_string _) <| .nil _

theorem carried_projectMoved (x : String × ProjectStatus × ProjectStatus) :
    Carried "type" projectMovedFields ("", .analyzing, .analyzing) x where
  names := by decide
  copied := .string (sound_string _) <| .of (Named.sound_write _) (Named.readBuffered_write _) <|
    .of (Named.sound_write _) (Named.readBuffered_write _) <| .nil _

theorem carried_error (x : String × String × Bool) : Carried "type" errorFields ("", "", false) x where
  names := by decide
  copied := .string (sound_string _) <| .string (sound_string _) <| .of (sound_bool _) rfl <| .nil _

end Message

open Message

/-! ### Messages of clients -/

namespace ClientMessage

/-- **A message with a time stamp that exists**, if it has any. -/
def Stamped (m : ClientMessage) : Prop := ∀ t, m = .pong t → IsTimestamp t

variable {m : ClientMessage}

theorem whole_write (h : m.Stamped) : m.write.Whole := by
  cases m with
  | authenticate t c p => exact (carried_authenticate (t, c, p)).whole
  | subscribe p => exact (carried_project p).whole
  | unsubscribe p => exact (carried_project p).whole
  | pong t => exact (carried_timestamp (h t rfl)).whole

theorem read_write (h : m.Stamped) : read m.write = .ok m := by
  cases m with
  | authenticate t c p =>
    exact (carried_authenticate (t, c, p)).readTagged reader? "authenticate"
      (g := fun x => authenticate x.1 x.2.1 x.2.2) rfl
  | subscribe p => exact (carried_project p).readTagged reader? "subscribe" rfl
  | unsubscribe p => exact (carried_project p).readTagged reader? "unsubscribe" rfl
  | pong t => exact (carried_timestamp (h t rfl)).readTagged reader? "pong" rfl

theorem ofText_write (h : m.Stamped) : ofText m.write.render = .ok m := by
  rw [ofText, ofText_render read (whole_write h), read_write h]

end ClientMessage

/-! ### Messages to clients -/

namespace ServerMessage

/-- **A message with a time stamp that exists**, if it has any. -/
def Stamped (m : ServerMessage) : Prop := ∀ t, m = .heartbeat t → IsTimestamp t

variable {m : ServerMessage}

theorem whole_write (h : m.Stamped) : m.write.Whole := by
  cases m with
  | authSuccess u c ss => exact (carried_authSuccess (u, c, ss)).whole
  | event e =>
    cases e with
    | ticketUpdated p t cs a => exact (carried_ticketUpdated (p, t, cs, a)).whole
    | ticketMoved p t o n a => exact (carried_ticketMoved (p, t, o, n, a)).whole
    | projectMoved p o n => exact (carried_projectMoved (p, o, n)).whole
  | heartbeat t => exact (carried_timestamp (h t rfl)).whole
  | error c s r => exact (carried_error (c, s, r)).whole

theorem read_write (h : m.Stamped) : read m.write = .ok m := by
  cases m with
  | authSuccess u c ss =>
    exact (carried_authSuccess (u, c, ss)).readTagged reader? "auth_success"
      (g := fun x => authSuccess x.1 x.2.1 x.2.2) rfl
  | event e =>
    cases e with
    | ticketUpdated p t cs a =>
      exact (carried_ticketUpdated (p, t, cs, a)).readTagged reader? "ticket_updated"
        (g := fun x => event (.ticketUpdated x.1 x.2.1 x.2.2.1 x.2.2.2)) rfl
    | ticketMoved p t o n a =>
      exact (carried_ticketMoved (p, t, o, n, a)).readTagged reader? "ticket_status_changed"
        (g := fun x => event (.ticketMoved x.1 x.2.1 x.2.2.1 x.2.2.2.1 x.2.2.2.2)) rfl
    | projectMoved p o n =>
      exact (carried_projectMoved (p, o, n)).readTagged reader? "project_status_changed"
        (g := fun x => event (.projectMoved x.1 x.2.1 x.2.2)) rfl
  | heartbeat t => exact (carried_timestamp (h t rfl)).readTagged reader? "heartbeat" rfl
  | error c s r =>
    exact (carried_error (c, s, r)).readTagged reader? "error" (g := fun x => error x.1 x.2.1 x.2.2) rfl

theorem ofText_toText (h : m.Stamped) : Json.ofText read m.toText = .ok m := by
  rw [toText, ofText_render read (whole_write h), read_write h]

end ServerMessage

/-! ### All messages -/

/-- The kinds of what clients send are not those of what they are sent. -/
theorem ClientMessage.kind_ne (m : ClientMessage) (m' : ServerMessage) : m.kind ≠ m'.kind := by
  cases m' with
  | event e => cases m <;> cases e <;> simp [kind, ServerMessage.kind, Event.kind]
  | _ => cases m <;> simp [kind, ServerMessage.kind]

/-- No text is a message both of a client and to one. -/
theorem ClientMessage.render_ne_toText {m : ClientMessage} {m' : ServerMessage} (h : m.Stamped) (h' : m'.Stamped) :
    m.write.render ≠ m'.toText := by
  intro heq
  have hread := read_render (ClientMessage.whole_write h)
  rw [heq, ServerMessage.toText, read_render (ServerMessage.whole_write h')] at hread
  have hdocument : m'.write = m.write := congrArg Reading.document hread
  unfold ServerMessage.write ClientMessage.write tagged at hdocument
  injection hdocument with hmembers
  injection (List.cons.inj hmembers).1 with _ hkind
  injection hkind with hkind
  exact ClientMessage.kind_ne m m' hkind.symm

/-- **Every message is read back from its text, and no two messages have one text.** In particular the reader of
what clients send gives back an introduction that names no project. -/
theorem message_ofText_render :
    (∀ m : ClientMessage, m.Stamped → ClientMessage.ofText m.write.render = .ok m) ∧
    (∀ m : ServerMessage, m.Stamped → Json.ofText ServerMessage.read m.toText = .ok m) ∧
    (∀ m m' : ClientMessage, m.Stamped → m'.Stamped → m ≠ m' → m.write.render ≠ m'.write.render) ∧
    (∀ m m' : ServerMessage, m.Stamped → m'.Stamped → m ≠ m' → m.toText ≠ m'.toText) ∧
    (∀ (m : ClientMessage) (m' : ServerMessage), m.Stamped → m'.Stamped → m.write.render ≠ m'.toText) ∧
    ∀ token client, ClientMessage.ofText (ClientMessage.authenticate token client none).write.render =
      .ok (.authenticate token client none) := by
  refine ⟨fun m => ClientMessage.ofText_write, fun m => ServerMessage.ofText_toText, fun m m' h h' hne heq => ?_,
    fun m m' h h' hne heq => ?_, fun m m' => ClientMessage.render_ne_toText,
    fun token client => ClientMessage.ofText_write fun t ht => nomatch ht⟩
  · have hread := ClientMessage.ofText_write h
    rw [heq, ClientMessage.ofText_write h'] at hread
    exact hne (Except.ok.inj hread).symm
  · have hread := ServerMessage.ofText_toText h
    rw [heq, ServerMessage.ofText_toText h'] at hread
    exact hne (Except.ok.inj hread).symm

/-- The least time stamp, a text full of escapes, and pairs of messages that differ in their kind only. -/
theorem message_ofText_render_escapes :
    ClientMessage.ofText (ClientMessage.pong (-9223372036854775808)).write.render =
      .ok (.pong (-9223372036854775808)) ∧
    Json.ofText ServerMessage.read (ServerMessage.error "\"\\" "\x01\n\t😀é" false).toText =
      .ok (.error "\"\\" "\x01\n\t😀é" false) ∧
    (ClientMessage.subscribe "p1").write.render ≠ (ClientMessage.unsubscribe "p1").write.render ∧
    (ServerMessage.authSuccess "u" "c" []).toText ≠ (ServerMessage.authSuccess "u" "c" [""]).toText ∧
    (ClientMessage.pong 0).write.render ≠ (ServerMessage.heartbeat 0).toText := by
  obtain ⟨hclient, hserver, hclients, hservers, hboth, -⟩ := message_ofText_render
  have hleast : (ClientMessage.pong (-9223372036854775808)).Stamped := by
    rintro t ⟨⟩
    exact ⟨by decide, by decide⟩
  have hpong : (ClientMessage.pong 0).Stamped := by
    rintro t ⟨⟩
    exact ⟨by decide, by decide⟩
  have hbeat : (ServerMessage.heartbeat 0).Stamped := by
    rintro t ⟨⟩
    exact ⟨by decide, by decide⟩
  exact ⟨hclient _ hleast, hserver _ (by rintro t ⟨⟩),
    hclients _ _ (by rintro t ⟨⟩) (by rintro t ⟨⟩) (by decide),
    hservers _ _ (by rintro t ⟨⟩) (by rintro t ⟨⟩) (by decide), hboth _ _ hpong hbeat⟩

end Backlog
