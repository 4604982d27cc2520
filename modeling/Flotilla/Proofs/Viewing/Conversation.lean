import Flotilla.Proofs.Viewing.Run
import Flotilla.Proofs.Wire.Envelope

/-!
# Conversations

What a viewer gets from their socket, in whatever order texts and events come in. The socket takes
turns. The texts of its turns are those that the viewer has sent, in their order, and the events of
its turns are those that were taken from the subscription, in theirs, so the frames are a merge of
the replies and of the envelopes of the events. If a frame cannot be sent, its turn is the last one.

A reply says what became of its text, and the roles are requested to be looked up again exactly
in those turns in which the reply says so.
-/

namespace Flotilla

/-- A payload that gives a command: a record tagged with its name, or an array of the name alone. -/
inductive Command.Gives : Json → Command → Prop where
  | member {payload command} (h : payload.member? "command" = some (.str command.name)) :
      Gives payload command
  | alone {command : Command} : Gives (.arr [.str command.name]) command

/-- What a text is replied to with, and the command that it is taken for. -/
inductive Socket.Replies (now : Instant) (text : String) : Option Command → Envelope → Prop where
  | malformed {fault} (h : decodeText Envelope.decode text = .error fault) :
      Replies now text none (.failure "" now 400 "malformed JSON")
  | unknown {envelope} (h : decodeText Envelope.decode text = .ok envelope)
      (unknown : ∀ command, ¬Command.Gives envelope.payload command) :
      Replies now text none (.failure envelope.id now 404 "unknown command")
  | known {envelope command} (h : decodeText Envelope.decode text = .ok envelope)
      (given : Command.Gives envelope.payload command) :
      Replies now text (some command) (.response envelope.id now command.answer)

/-- An envelope that reports an error of the given code. -/
def Envelope.Fails (code : Nat) (envelope : Envelope) : Prop :=
  envelope.kind = .error ∧ envelope.payload.member? "code" = some (.nat code)

/-- An envelope that says that a refresh was requested. -/
def Envelope.Acknowledges (envelope : Envelope) : Prop :=
  envelope.kind = .response ∧ envelope.payload = .record [("refresh_requested", .bool true)]

namespace SocketEffect

/-- The frame that an effect sends, if it sends one. -/
@[simp] def frame? : SocketEffect → Option Envelope
  | .send envelope => some envelope
  | .requestRefresh => none

/-- Whether an effect requests a refresh. -/
@[simp] def isRequest : SocketEffect → Bool
  | .requestRefresh => true
  | .send _ => false

end SocketEffect

/-- Whether a move requests a refresh. -/
@[simp] def Watch.Move.isRefresh : Watch.Move → Bool
  | .refresh => true
  | _ => false

section Commands

variable {name : String} {payload : Json} {command : Command}

theorem Command.ofName?_eq_some_iff :
    Command.ofName? name = some command ↔ name = command.name := by
  constructor
  · intro h
    have hname := List.find?_some h
    exact (of_decide_eq_true hname).symm
  · rintro rfl
    cases command <;> rfl

theorem Command.ofPayload?_eq_some_iff :
    Command.ofPayload? payload = some command ↔ Command.Gives payload command := by
  unfold Command.ofPayload?
  split
  next name =>
    rw [Command.ofName?_eq_some_iff]
    constructor
    · rintro rfl
      exact .alone
    · rintro (h | _)
      · simp [Json.member?] at h
      · rfl
  next single =>
    constructor
    · intro h
      split at h
      next name hname =>
        obtain rfl := Command.ofName?_eq_some_iff.mp h
        exact .member hname
      next => simp at h
    · rintro (h | _)
      · rw [h]
        exact Command.ofName?_eq_some_iff.mpr rfl
      · exact absurd rfl (single _)

/-- What the reply to a text says, and what command the text is taken for. -/
theorem Socket.replies_reply (now : Instant) (text : String) :
    Socket.Replies now text (Socket.reply now text).1 (Socket.reply now text).2 := by
  unfold Socket.reply
  split
  next fault h => exact .malformed h
  next envelope h =>
    cases hcommand : Command.ofPayload? envelope.payload with
    | some command => exact .known h (Command.ofPayload?_eq_some_iff.mp hcommand)
    | none =>
        refine .unknown h fun command given => ?_
        simp [Command.ofPayload?_eq_some_iff.mpr given] at hcommand

theorem Socket.Replies.requestRefresh_mem_effects {now : Instant} {text : String}
    {command : Option Command} {envelope : Envelope}
    (h : Socket.Replies now text command envelope) :
    .requestRefresh ∈ Socket.effects command ↔ envelope.Acknowledges := by
  cases h with
  | malformed => simp [Socket.effects, Envelope.failure, Envelope.Acknowledges]
  | unknown => simp [Socket.effects, Envelope.failure, Envelope.Acknowledges]
  | @known _ command =>
      cases command <;>
        simp [Socket.effects, Envelope.response, Envelope.Acknowledges, Command.answer, Json.record]

/-- An envelope is replied to under its own name, and its payload decides whether that is an
error. -/
theorem Socket.Replies.of_envelope {now : Instant} {text : String} {command : Option Command}
    {envelope reply : Envelope} (h : Socket.Replies now text command reply)
    (decoded : decodeText Envelope.decode text = .ok envelope) :
    reply.id = envelope.id ∧
      (reply.Fails 404 ↔ ∀ command, ¬Command.Gives envelope.payload command) := by
  cases h with
  | malformed failed => simp [failed] at decoded
  | unknown decoded' unknown =>
      obtain rfl := Except.ok.inj (decoded'.symm.trans decoded)
      exact ⟨rfl, fun _ => unknown, fun _ => ⟨rfl, rfl⟩⟩
  | known decoded' given =>
      obtain rfl := Except.ok.inj (decoded'.symm.trans decoded)
      exact ⟨rfl, fun failed => by simp [Envelope.Fails, Envelope.response] at failed,
        fun unknown => absurd given (unknown _)⟩

end Commands

namespace Viewing

/-- The frames that were sent. -/
def sent (v : Viewing) : List Envelope := v.deeds.filterMap SocketEffect.frame?

/-- The texts that some moves bring to the socket. -/
def texts (moves : List Move) : List (Instant × String) :=
  moves.filterMap fun
    | .meet now _ (.text text) => some (now, text)
    | _ => none

/-- What has passed between a viewer and their socket: some turns, and a last one whose frame could
not be sent. -/
structure Conversation (v : Viewing) (moves : List Move) (t : Viewing) (turns : List Turn)
    (unsent : Option Turn) : Prop where
  texts : (turns ++ unsent.toList).filterMap Turn.text? = texts moves
  events : t.watch.taken = v.watch.taken ++ (turns ++ unsent.toList).filterMap Turn.event?
  deeds : t.deeds = v.deeds ++ turns.flatMap Turn.deeds ++ unsent.toList.flatMap Turn.before
  broken : unsent ≠ none → t.socket = .closed ∧ ∃ now signal, .meet now false signal ∈ moves

variable {v t u : Viewing} {move : Move} {moves : List Move} {turns : List Turn}
  {unsent : Option Turn}

/-- A turn requests a refresh exactly if its frame says so. -/
theorem Turn.requestRefresh_mem_deeds (turn : Turn) :
    .requestRefresh ∈ turn.deeds ↔ turn.frame.Acknowledges := by
  cases turn with
  | news => simp [Turn.deeds, Turn.before, Turn.frame, Envelope.ofEvent, Envelope.Acknowledges]
  | reply now text =>
      simpa [Turn.deeds, Turn.before, Turn.frame] using
        (Socket.replies_reply now text).requestRefresh_mem_effects

section Turns

variable {w x : Watch} {turn : Turn} {intact : Bool}

theorem texts_turn_cons :
    texts (.meet turn.now intact turn.signal :: moves) = turn.text?.toList ++ texts moves := by
  cases turn <;> rfl

theorem taken_effects (effects : List SocketEffect) :
    (effects.foldl Watch.obey w).taken = w.taken := by
  induction effects generalizing w with
  | nil => rfl
  | cons effect effects ih =>
      rw [List.foldl_cons, ih]
      cases effect <;> rfl

/-- A turn takes its event from the subscription, if it is about one. -/
theorem taken_turn (supplied : w.supply turn.signal = some x) :
    (turn.before.foldl Watch.obey x).taken = w.taken ++ turn.event?.toList := by
  rw [taken_effects]
  cases turn with
  | reply =>
      obtain rfl := Option.some.inj supplied
      simp
  | news now => exact (watching_news now true supplied).2

theorem taken_of_step {move : Watch.Move} (stepped : w.step move = some x) (other : move ≠ .take) :
    x.taken = w.taken := by
  cases Watch.steps_of_step stepped with
  | publish | close | refresh | forward => rfl
  | take => exact absurd rfl other

/-- A move that is no turn adds nothing. -/
theorem Conversation.cons (h : Conversation u moves t turns unsent)
    (textless : Viewing.texts [move] = []) (taken : u.watch.taken = v.watch.taken)
    (deeds : u.deeds = v.deeds) : Conversation v (move :: moves) t turns unsent := by
  refine ⟨?_, taken ▸ h.events, deeds ▸ h.deeds, fun hunsent => ?_⟩
  · have hcons : Viewing.texts (move :: moves) = Viewing.texts [move] ++ Viewing.texts moves :=
      List.filterMap_append (l := [move])
    rw [hcons, textless]
    exact h.texts
  · obtain ⟨closed, now, signal, hmem⟩ := h.broken hunsent
    exact ⟨closed, now, signal, List.mem_cons_of_mem _ hmem⟩

/-- Nothing passes once the socket is closed. -/
theorem conversation_of_closed (run : Run v moves t) (closed : v.socket = .closed) :
    Conversation v moves t [] none ∧ t.socket = .closed := by
  induction run with
  | nil v => exact ⟨⟨rfl, by simp, by simp, by simp⟩, closed⟩
  | cons stepped rest ih =>
      cases steps_of_step stepped with
      | publish watched =>
          obtain ⟨h, ended⟩ := ih closed
          exact ⟨h.cons rfl (taken_of_step watched (by simp)) rfl, ended⟩
      | close watched =>
          obtain ⟨h, ended⟩ := ih closed
          exact ⟨h.cons rfl (taken_of_step watched (by simp)) rfl, ended⟩
      | forward opened | serve opened | fail opened | skip opened | leave opened | exhaust opened =>
          simp [closed] at opened

/-- What passes along a run: one turn for each text and for each event. -/
theorem Run.conversation (run : Run v moves t) :
    ∃ turns unsent, Conversation v moves t turns unsent := by
  induction run with
  | nil v => exact ⟨[], none, rfl, by simp, by simp, by simp⟩
  | cons stepped rest ih =>
      obtain ⟨turns, unsent, h⟩ := ih
      cases steps_of_step stepped with
      | publish watched =>
          exact ⟨turns, unsent, h.cons rfl (taken_of_step watched (by simp)) rfl⟩
      | close watched =>
          exact ⟨turns, unsent, h.cons rfl (taken_of_step watched (by simp)) rfl⟩
      | forward _ watched =>
          exact ⟨turns, unsent, h.cons rfl (taken_of_step watched (by simp)) rfl⟩
      | @serve turn _ opened supplied =>
          refine ⟨turn :: turns, unsent, ?_, ?_, ?_, fun hunsent => ?_⟩
          · rw [texts_turn_cons, ← h.texts]
            cases turn <;> rfl
          · rw [h.events, taken_turn supplied]
            cases turn <;> simp [List.filterMap_cons]
          · simp [h.deeds]
          · obtain ⟨closed, now, signal, hmem⟩ := h.broken hunsent
            exact ⟨closed, now, signal, List.mem_cons_of_mem _ hmem⟩
      | @fail turn _ opened supplied =>
          obtain ⟨h, closed⟩ := conversation_of_closed rest rfl
          refine ⟨[], some turn, ?_, ?_, ?_, fun _ => ⟨closed, _, _, List.mem_cons_self ..⟩⟩
          · rw [texts_turn_cons, ← h.texts]
            cases turn <;> rfl
          · rw [h.events, taken_turn supplied]
            cases turn <;> simp [List.filterMap_cons]
          · simp [h.deeds]
      | skip => exact ⟨turns, unsent, h.cons rfl rfl rfl⟩
      | leave => exact ⟨turns, unsent, h.cons rfl rfl rfl⟩
      | exhaust => exact ⟨turns, unsent, h.cons rfl rfl rfl⟩

end Turns

section Requests

theorem countP_effects (command : Option Command) :
    (Socket.effects command).countP SocketEffect.isRequest =
      List.countP Watch.Move.isRefresh
        (if command = some .refreshAuthorization then [.refresh] else []) := by
  rcases command with _ | _ | _ <;> rfl

theorem countP_before (turn : Turn) (intact : Bool) :
    turn.before.countP SocketEffect.isRequest =
      (Move.watching (.meet turn.now intact turn.signal)).countP Watch.Move.isRefresh := by
  cases turn with
  | reply => exact countP_effects _
  | news => rfl

theorem Steps.requests (steps : Steps v move t) :
    t.deeds.countP SocketEffect.isRequest =
      v.deeds.countP SocketEffect.isRequest + move.watching.countP Watch.Move.isRefresh := by
  cases steps with
  | publish | close | forward | skip | leave | exhaust => rfl
  | serve => simp [Turn.deeds, ← countP_before]
  | fail => simp [← countP_before]

/-- The subscription is requested to refresh as often as the socket requests it. -/
theorem Run.requests (run : Run v moves t) :
    t.deeds.countP SocketEffect.isRequest = v.deeds.countP SocketEffect.isRequest +
      (moves.flatMap Move.watching).countP Watch.Move.isRefresh := by
  induction run with
  | nil => simp
  | cons stepped _ ih =>
      rw [ih, (steps_of_step stepped).requests, List.flatMap_cons, List.countP_append]
      omega

end Requests

section Frames

theorem filterMap_frame?_effects (command : Option Command) :
    (Socket.effects command).filterMap SocketEffect.frame? = [] := by
  rcases command with _ | _ | _ <;> rfl

theorem filterMap_frame?_before (turn : Turn) :
    turn.before.filterMap SocketEffect.frame? = [] := by
  cases turn with
  | reply => exact filterMap_frame?_effects _
  | news => rfl

/-- Each turn that is finished sends one frame. -/
theorem filterMap_frame?_deeds (turns : List Turn) :
    (turns.flatMap Turn.deeds).filterMap SocketEffect.frame? = turns.map Turn.frame := by
  induction turns with
  | nil => rfl
  | cons turn turns ih =>
      rw [List.flatMap_cons, List.filterMap_append, ih, Turn.deeds, List.filterMap_append,
        filterMap_frame?_before]
      rfl

theorem Conversation.sent (h : Conversation v moves t turns unsent) :
    t.sent = v.sent ++ turns.map Turn.frame := by
  have hunsent : (unsent.toList.flatMap Turn.before).filterMap SocketEffect.frame? = [] := by
    cases unsent with
    | none => rfl
    | some turn => simpa using filterMap_frame?_before turn
  rw [Viewing.sent, h.deeds, List.filterMap_append, List.filterMap_append, filterMap_frame?_deeds,
    hunsent, List.append_nil, Viewing.sent]

end Frames

section Opened

variable {bus : Bus} {viewer : ViewerId} {minRole : Role} {roles : Roles} {capacity : Nat}

/-- The conversation of a viewer with their socket. The socket takes one turn for each text, in the
order of the texts, and one for each event that is taken from the subscription, in the order of the
events; the frames that it sends are those of its turns, but for the last turn if its frame cannot
be sent. A text that is no envelope is replied to without a name and with the code 400, any other
under its own name, with the code 404 exactly if its payload gives no command. The payload of the
envelope of an event is read as the event. The subscription is requested to refresh exactly in the
turns whose frames say so. -/
theorem frames_merged (opened : open? bus viewer minRole roles capacity = some v)
    (run : Run v moves t) :
    (∃ turns unsent, Conversation v moves t turns unsent ∧ t.sent = turns.map Turn.frame) ∧
    (Watch.Run v.watch (moves.flatMap Move.watching) t.watch ∧
      (moves.flatMap Move.watching).countP Watch.Move.isRefresh =
        t.deeds.countP SocketEffect.isRequest) ∧
    (∀ turn : Turn, .requestRefresh ∈ turn.deeds ↔ turn.frame.Acknowledges) ∧
    (∀ now text, Socket.Replies now text (Socket.reply now text).1 (Turn.reply now text).frame ∧
      ∀ envelope, decodeText Envelope.decode text = .ok envelope →
        (Turn.reply now text).frame.id = envelope.id ∧
        ((Turn.reply now text).frame.Fails 404 ↔
          ∀ command, ¬Command.Gives envelope.payload command)) ∧
    ∀ now id event, ∃ payload,
      decodeText Envelope.decode (Turn.news now id event).frame.toJson.text =
        .ok ⟨id, .event, now, payload⟩ ∧
      ∀ later, decodeText (Event.decode later) payload.text = .ok event := by
  obtain ⟨turns, unsent, conversation⟩ := run.conversation
  have hdeeds : v.deeds = [] := by
    obtain ⟨watch, -, rfl⟩ := Option.map_eq_some_iff.mp opened
    rfl
  refine ⟨⟨turns, unsent, conversation, ?_⟩, ⟨run.watching, ?_⟩,
    fun turn => turn.requestRefresh_mem_deeds, fun now text => ⟨Socket.replies_reply now text, ?_⟩,
    fun now id event => ⟨event.toJson.sorted, Envelope.decodeText_ofEvent id now event, ?_⟩⟩
  · rw [conversation.sent, Viewing.sent, hdeeds]
    rfl
  · simp [run.requests, hdeeds]
  · exact fun envelope => (Socket.replies_reply now text).of_envelope
  · intro later
    exact event.decodeText_arranged later (Json.arranges_sorted _ (event.isProper_toJson 0))

open Move in
/-- A text that is no envelope, an event, and a text whose reply cannot be sent any more. -/
theorem frames_merged_sample : ∃ v t,
    open? Sample.bus Sample.viewer .user Sample.user 1 = some v ∧
    Run v [publish Sample.players, meet Sample.midnight true (.text "\x7b"), forward (.ok .empty),
      meet Sample.midnight true (.event "e1" Sample.players), meet Sample.midnight true .other,
      meet Sample.midnight false (.text "")] t ∧
    t.sent = [.failure "" Sample.midnight 400 "malformed JSON",
      .ofEvent "e1" Sample.midnight Sample.players] ∧
    ∃ turns unsent, t.sent = turns.map Turn.frame ∧
      (turns ++ Option.toList unsent).filterMap Turn.text? =
        [(Sample.midnight, "\x7b"), (Sample.midnight, "")] ∧
      (turns ++ Option.toList unsent).filterMap Turn.event? = [Sample.players] := by
  have hopen : open? Sample.bus Sample.viewer .user Sample.user 1 =
      some ⟨Sample.watch Sample.user, .opened, []⟩ := rfl
  obtain ⟨t, ht, hsent, htaken⟩ : ∃ t, run? step [publish Sample.players,
      meet Sample.midnight true (.text "\x7b"), forward (.ok .empty),
      meet Sample.midnight true (.event "e1" Sample.players), meet Sample.midnight true .other,
      meet Sample.midnight false (.text "")] ⟨Sample.watch Sample.user, .opened, []⟩ = some t ∧
      t.sent = [.failure "" Sample.midnight 400 "malformed JSON",
        .ofEvent "e1" Sample.midnight Sample.players] ∧ t.watch.taken = [Sample.players] :=
    ⟨_, rfl, rfl, rfl⟩
  have hrun := run?_iff.mp ht
  obtain ⟨turns, unsent, conversation, hframes⟩ := (frames_merged hopen hrun).1
  exact ⟨_, t, hopen, hrun, hsent, turns, unsent, hframes, conversation.texts,
    conversation.events.symm.trans htaken⟩

end Opened

end Viewing

end Flotilla
