import Flotilla.Proofs.Channel.Conduct

/-!
# What a channel tells

A channel tells a report by writing it down and publishing it. It does so at one occasion
only: when the question that is under way is answered. Nothing that it does otherwise tells
anything, and the question that it awaits an answer to is always the one that it asked last.

A channel that is cancelled has little left to tell. It asks nothing on its own account any
more, so at most the question that is under way is still answered, or two of them if the
session has only just begun.
-/

namespace Flotilla

namespace Effect

/-- Whether a report is written or published. -/
def tells : Effect → Bool
  | .write _ | .publish _ => true
  | _ => false

/-- The effects by which reports are told, each written and then published. -/
def telling (reports : List Report) : List Effect :=
  reports.flatMap fun report => [.write report, .publish report]

end Effect

namespace Effect

variable {effects : List Effect}

theorem length_telling (reports : List Report) :
    (telling reports).length = 2 * reports.length := by
  induction reports with
  | nil => rfl
  | cons report rest ih =>
      have hcons : telling (report :: rest) =
          .write report :: .publish report :: telling rest := rfl
      rw [hcons, List.length_cons, List.length_cons, List.length_cons, ih]
      omega

theorem filter_tells_of_silent (silent : ∀ effect ∈ effects, effect.tells = false) :
    effects.filter tells = [] :=
  List.filter_eq_nil_iff.mpr (by simpa using silent)

theorem filter_tells_answered (report : Report)
    (silent : ∀ effect ∈ effects, effect.tells = false) :
    (Effect.write report :: .publish report :: effects).filter tells = telling [report] := by
  rw [List.filter_cons_of_pos rfl, List.filter_cons_of_pos rfl, filter_tells_of_silent silent]
  rfl

end Effect

namespace Signal

/-- Whether a signal ends the question of a number with a report. -/
def Answers (signal : Signal) (errand : Errand) (id : Nat) (report : Report) : Prop :=
  ∃ result, signal.ending? id = some (.result result) ∧ errand.report? result = some report

end Signal

namespace Errand

/-- How many questions are left of those that a session asks on its own account, or on account
of one announcement, beginning with an errand. -/
def outstanding : Errand → Nat
  | .seedPlayers => 2
  | _ => 1

theorem outstanding_of_ne {errand : Errand} (h : errand ≠ .seedPlayers) :
    errand.outstanding = 1 := by
  cases errand with
  | seedPlayers => exact absurd rfl h
  | _ => rfl

end Errand

namespace Channel

variable {c next : Channel} {connection : Connection} {awaiting : Connection.Awaiting}
  {errand : Errand} {effects : List Effect} {signal : Signal} {report : Report}

section Server

theorem Fails.server (h : Fails c effects next) : next.server = c.server := by
  cases h <;> rfl

theorem Attempts.server (h : Attempts c effects next) : next.server = c.server := by
  cases h with
  | connect => rfl
  | unusable active resolved fails => exact fails.server
  | finish => rfl

theorem Listens.server (h : Listens c connection effects next) : next.server = c.server := by
  cases h <;> rfl

/-- A channel stays with its server. -/
theorem Steps.server (h : Steps c signal effects next) : next.server = c.server := by
  cases h with
  | start starting attempts => exact attempts.server
  | wake resting attempts => exact attempts.server
  | miss connecting missed fails => exact fails.server
  | answer asking later ended read listens => exact listens.server
  | excuse asking ended listens => exact listens.server
  | lose asking ended useless inexcusable fails => exact fails.server
  | notice listening announced listens => exact listens.server
  | drop listening broken fails => exact fails.server
  | _ => rfl

end Server

section Asking

theorem Fails.not_asking (h : Fails c effects next) :
    next.activity ≠ .asking connection awaiting errand := by
  cases h <;> simp

theorem Attempts.not_asking (h : Attempts c effects next) :
    next.activity ≠ .asking connection awaiting errand := by
  cases h with
  | connect => simp
  | unusable active resolved fails => exact fails.not_asking
  | finish => simp

theorem Listens.asking {kept : Connection} (h : Listens c connection effects next)
    (asking : next.activity = .asking kept awaiting errand) :
    effects = [.send (errand.request awaiting.id)] := by
  cases h with
  | finish => simp at asking
  | wait => simp at asking
  | ask =>
      obtain ⟨-, rfl, rfl⟩ := Activity.asking.inj asking
      rfl

/-- A channel that awaits an answer has just asked for it, or has been asking already. -/
theorem Steps.asking (h : Steps c signal effects next)
    (asking : next.activity = .asking connection awaiting errand) :
    (∃ before, effects = before ++ [.send (errand.request awaiting.id)]) ∨
      effects = [] ∧ signal.ending? awaiting.id = none ∧
        ∃ kept, c.activity = .asking kept awaiting errand := by
  cases h with
  | ignore ignores => simp only [Ignores, asking] at ignores
  | start starting attempts => exact absurd asking attempts.not_asking
  | wake resting attempts => exact absurd asking attempts.not_asking
  | begin =>
      obtain ⟨-, rfl, rfl⟩ := Activity.asking.inj asking
      exact .inl ⟨[_], rfl⟩
  | miss connecting missed fails => exact absurd asking fails.not_asking
  | heed => exact .inr ⟨rfl, rfl, _, asking⟩
  | stop => simp at asking
  | keep uncancelled before unended =>
      obtain ⟨-, rfl, rfl⟩ := Activity.asking.inj asking
      exact .inr ⟨rfl, unended, _, before⟩
  | seed =>
      obtain ⟨-, rfl, rfl⟩ := Activity.asking.inj asking
      exact .inl ⟨[_, _], rfl⟩
  | answer before later ended read listens =>
      obtain rfl := listens.asking asking
      exact .inl ⟨[_, _], rfl⟩
  | excuse before ended listens => exact .inl ⟨[], listens.asking asking⟩
  | lose before ended useless inexcusable fails => exact absurd asking fails.not_asking
  | notice listening announced listens => exact .inl ⟨[], listens.asking asking⟩
  | drop listening broken fails => exact absurd asking fails.not_asking
  | overhear uncancelled listening => simp [listening] at asking

end Asking

section Telling

theorem Fails.silent (h : Fails c effects next) : ∀ effect ∈ effects, effect.tells = false := by
  cases h <;> simp [Effect.tells]

theorem Attempts.silent (h : Attempts c effects next) :
    ∀ effect ∈ effects, effect.tells = false := by
  cases h with
  | connect => simp [Effect.tells]
  | unusable active resolved fails => simpa [Effect.tells] using fails.silent
  | finish => simp [Effect.tells]

theorem Listens.silent (h : Listens c connection effects next) :
    ∀ effect ∈ effects, effect.tells = false := by
  cases h <;> simp [Effect.tells]

/-- A channel tells nothing, or it tells what it has just been answered. -/
theorem Steps.tells (h : Steps c signal effects next) :
    (∀ effect ∈ effects, effect.tells = false) ∨
      ∃ connection awaiting errand report rest,
        c.activity = .asking connection awaiting errand ∧
        signal.Answers errand awaiting.id report ∧
        effects = .write report :: .publish report :: rest ∧
        ∀ effect ∈ rest, effect.tells = false := by
  cases h with
  | start starting attempts => exact .inl attempts.silent
  | wake resting attempts => exact .inl attempts.silent
  | miss connecting missed fails => exact .inl fails.silent
  | seed asking ended read =>
      exact .inr ⟨_, _, _, _, _, asking, ⟨_, ended, read⟩, rfl, by simp [Effect.tells]⟩
  | answer asking later ended read listens =>
      exact .inr ⟨_, _, _, _, _, asking, ⟨_, ended, read⟩, rfl, listens.silent⟩
  | excuse asking ended listens => exact .inl listens.silent
  | lose asking ended useless inexcusable fails => exact .inl fails.silent
  | notice listening announced listens => exact .inl listens.silent
  | drop listening broken fails => exact .inl fails.silent
  | _ => exact .inl (by simp [Effect.tells])

/-- A channel tells what it is answered, cancelled or not. -/
theorem Steps.tells_of_answers (h : Steps c signal effects next)
    (asking : c.activity = .asking connection awaiting errand)
    (answers : signal.Answers errand awaiting.id report) :
    effects.filter Effect.tells = Effect.telling [report] := by
  obtain ⟨result, hended, hread⟩ := answers
  cases h with
  | ignore ignores => simp [Ignores, asking] at ignores
  | start starting => simp [asking] at starting
  | wake resting => simp [asking] at resting
  | begin connecting => simp [asking] at connecting
  | miss connecting => simp [asking] at connecting
  | heed => simp [Signal.ending?] at hended
  | stop => simp [Signal.ending?] at hended
  | keep uncancelled before unended =>
      obtain ⟨-, rfl, -⟩ := Activity.asking.inj (before.symm.trans asking)
      simp [unended] at hended
  | seed before ended read =>
      obtain ⟨-, rfl, rfl⟩ := Activity.asking.inj (before.symm.trans asking)
      obtain rfl := Ending.result.inj (Option.some.inj (ended.symm.trans hended))
      obtain rfl := Option.some.inj (read.symm.trans hread)
      rfl
  | answer before later ended read listens =>
      obtain ⟨-, rfl, rfl⟩ := Activity.asking.inj (before.symm.trans asking)
      obtain rfl := Ending.result.inj (Option.some.inj (ended.symm.trans hended))
      obtain rfl := Option.some.inj (read.symm.trans hread)
      exact Effect.filter_tells_answered _ listens.silent
  | excuse before ended =>
      obtain ⟨-, rfl, rfl⟩ := Activity.asking.inj (before.symm.trans asking)
      simp [ended] at hended
  | lose before ended useless =>
      obtain ⟨-, rfl, rfl⟩ := Activity.asking.inj (before.symm.trans asking)
      obtain rfl := Option.some.inj (ended.symm.trans hended)
      simp [useless result rfl] at hread
  | notice listening => simp [asking] at listening
  | drop listening => simp [asking] at listening
  | overhear uncancelled listening => simp [asking] at listening

end Telling

/-- What holds of every channel at any time: it is finished only if it is cancelled, and once
it is cancelled it is finished unless it has not begun or a question is under way. -/
structure Orderly (c : Channel) : Prop where
  finished : c.activity = .finished → c.cancelled = true
  busy : c.cancelled = true → c.activity = .starting ∨
    (∃ connection awaiting errand, c.activity = .asking connection awaiting errand) ∨
    c.activity = .finished

theorem orderly_create (server : Server) (settings : ChannelSettings) (cancelled : Bool) :
    (create server settings cancelled).Orderly :=
  ⟨by simp [create], fun _ => .inl rfl⟩

theorem Fails.orderly (h : Fails c effects next) : next.Orderly := by
  cases h with
  | rest active => exact ⟨by simp, fun cancelled => by simp [active] at cancelled⟩
  | finish cancelled => exact ⟨fun _ => cancelled, fun _ => .inr (.inr rfl)⟩

theorem Attempts.orderly (h : Attempts c effects next) : next.Orderly := by
  cases h with
  | connect active => exact ⟨by simp, fun cancelled => by simp [active] at cancelled⟩
  | unusable active resolved fails => exact fails.orderly
  | finish cancelled => exact ⟨fun _ => cancelled, fun _ => .inr (.inr rfl)⟩

theorem orderly_ask (c : Channel) (connection : Connection) (errand : Errand) :
    (c.ask connection errand).1.Orderly :=
  ⟨by simp [ask], fun _ => .inr (.inl ⟨_, _, _, rfl⟩)⟩

theorem Listens.orderly (h : Listens c connection effects next) : next.Orderly := by
  cases h with
  | finish cancelled => exact ⟨fun _ => cancelled, fun _ => .inr (.inr rfl)⟩
  | wait active => exact ⟨by simp, fun cancelled => by simp [active] at cancelled⟩
  | ask => exact orderly_ask _ _ _

theorem Orderly.step (h : c.Orderly) (steps : Steps c signal effects next) : next.Orderly := by
  cases steps with
  | ignore => exact h
  | start starting attempts => exact attempts.orderly
  | wake resting attempts => exact attempts.orderly
  | begin => exact orderly_ask _ _ _
  | miss connecting missed fails => exact fails.orderly
  | heed busy =>
      exact ⟨fun _ => rfl, fun _ => busy⟩
  | stop => exact ⟨fun _ => rfl, fun _ => .inr (.inr rfl)⟩
  | keep => exact ⟨by simp, fun _ => .inr (.inl ⟨_, _, _, rfl⟩)⟩
  | seed => exact orderly_ask _ _ _
  | answer asking later ended read listens => exact listens.orderly
  | excuse asking ended listens => exact listens.orderly
  | lose asking ended useless inexcusable fails => exact fails.orderly
  | notice listening announced listens => exact listens.orderly
  | drop listening broken fails => exact fails.orderly
  | overhear => exact h

theorem Fails.cancelled (h : Fails c effects next) (cancelled : c.cancelled = true) :
    next.cancelled = true := by
  cases h <;> exact cancelled

theorem Attempts.cancelled (h : Attempts c effects next) (cancelled : c.cancelled = true) :
    next.cancelled = true := by
  cases h with
  | connect => exact cancelled
  | unusable active resolved fails => exact fails.cancelled cancelled
  | finish => exact cancelled

theorem Listens.cancelled (h : Listens c connection effects next) (cancelled : c.cancelled = true) :
    next.cancelled = true := by
  cases h <;> exact cancelled

/-- To be cancelled is for good. -/
theorem Steps.cancelled (h : Steps c signal effects next) (cancelled : c.cancelled = true) :
    next.cancelled = true := by
  cases h with
  | ignore => exact cancelled
  | start starting attempts => exact attempts.cancelled cancelled
  | wake resting attempts => exact attempts.cancelled cancelled
  | miss connecting missed fails => exact fails.cancelled cancelled
  | answer asking later ended read listens => exact listens.cancelled cancelled
  | excuse asking ended listens => exact listens.cancelled cancelled
  | lose asking ended useless inexcusable fails => exact fails.cancelled cancelled
  | notice listening announced listens => exact listens.cancelled cancelled
  | drop listening broken fails => exact fails.cancelled cancelled
  | heed => rfl
  | stop => rfl
  | _ => exact cancelled

theorem cancelled_cancel (c : Channel) : (c.step .cancel).1.cancelled = true := by
  obtain ⟨server, settings, reconnect, cancelled, status, activity⟩ := c
  cases activity <;> rfl

/-- How many reports a channel may still tell once it is cancelled. -/
def outstanding (c : Channel) : Nat :=
  match c.activity with
  | .asking _ _ errand => errand.outstanding
  | _ => 0

theorem Fails.outstanding (h : Fails c effects next) : next.outstanding = 0 := by
  cases h <;> rfl

theorem Attempts.outstanding (h : Attempts c effects next) : next.outstanding = 0 := by
  cases h with
  | connect => rfl
  | unusable active resolved fails => exact fails.outstanding
  | finish => rfl

theorem Listens.outstanding (h : Listens c connection effects next)
    (cancelled : c.cancelled = true) : next.outstanding = 0 := by
  cases h with
  | finish => rfl
  | wait active => simp [cancelled] at active
  | ask active => simp [cancelled] at active

/-- Whatever a cancelled channel tells is counted against what it may still tell. -/
theorem Steps.outstanding (h : Steps c signal effects next) (orderly : c.Orderly)
    (cancelled : c.cancelled = true) :
    ∃ reports, effects.filter Effect.tells = Effect.telling reports ∧
      reports.length + next.outstanding ≤ c.outstanding := by
  have silent (h : ∀ effect ∈ effects, effect.tells = false)
      (le : next.outstanding ≤ c.outstanding) :
      ∃ reports, effects.filter Effect.tells = Effect.telling reports ∧
        reports.length + next.outstanding ≤ c.outstanding :=
    ⟨[], Effect.filter_tells_of_silent h, by simpa using le⟩
  have hbusy := orderly.busy cancelled
  cases h with
  | ignore => exact silent (by simp) (Nat.le_refl _)
  | start starting attempts => exact silent attempts.silent (by simp [attempts.outstanding])
  | wake resting attempts => exact silent attempts.silent (by simp [attempts.outstanding])
  | begin connecting => simp [connecting] at hbusy
  | miss connecting missed fails => exact silent fails.silent (by simp [fails.outstanding])
  | heed => exact silent (by simp) (Nat.le_refl _)
  | stop => exact silent (by simp [Effect.tells]) (Nat.zero_le _)
  | keep uncancelled asking unended =>
      refine silent (by simp) (Nat.le_of_eq ?_)
      simp [Channel.outstanding, asking]
  | @seed signal connection awaiting result report asking ended read =>
      refine ⟨[report], rfl, ?_⟩
      simp [Channel.outstanding, asking, ask, Errand.outstanding]
  | @answer signal connection awaiting errand result report effects next asking later ended read
      listens =>
      refine ⟨[report], Effect.filter_tells_answered report listens.silent, ?_⟩
      rw [listens.outstanding cancelled]
      simp [Channel.outstanding, asking, Errand.outstanding_of_ne later]
  | excuse asking ended listens =>
      exact silent listens.silent (by simp [listens.outstanding cancelled])
  | lose asking ended useless inexcusable fails =>
      exact silent fails.silent (by simp [fails.outstanding])
  | notice listening => simp [listening] at hbusy
  | drop listening broken fails => exact silent fails.silent (by simp [fails.outstanding])
  | overhear => exact silent (by simp) (Nat.le_refl _)

end Channel

/-! A server that answers for the examples of the theory: nobody plays there, and nobody is
banned. -/

namespace Sample

def host : Server := ⟨⟨3, by decide⟩, "secret", .paper⟩

/-- All servers have the same endpoint. -/
def policy : ChannelSettings := ⟨"ws://host", ⟨10⟩, .fixed ⟨1⟩⟩

/-- The answer to the first question of a session. -/
def nobody : Signal := .arrival (.text "\x7b\"id\":1,\"result\":[]\x7d")

/-- The answer to the second one. -/
def spotless : Signal := .arrival (.text "\x7b\"id\":2,\"result\":[]\x7d")

/-- What their template spells: it has no place for an identifier. -/
def address : List Char := ['w', 's', ':', '/', '/', 'h', 'o', 's', 't']

theorem ofChars?_address :
    Uri.ofChars? address = some ⟨['h', 'o', 's', 't'], some ['w', 's'], ['/'], none⟩ := by
  have hsize : ¬Uri.byteBound ≤ (String.ofList address).utf8ByteSize := by decide
  have hscheme : Uri.scheme? address = some (['w', 's'], ['h', 'o', 's', 't']) := by
    have hmark : "://".toList = [':', '/', '/'] := by simp
    rw [Uri.scheme?, hmark]
    rfl
  rw [Uri.ofChars?, if_neg hsize, hscheme]
  · rfl
  · simp [address]
  · simp [address]

theorem resolve_host : ∃ uri,
    Endpoint.resolve (Endpoint.ofTemplate policy.template host.id) host.secret = .ok uri := by
  have hfill : Placeholder.fill '{' ['i', 'd', '}'] host.id.render policy.template.toList =
      address := by
    simp [policy, address, Placeholder.fill, Split.after?]
  have hsecret : host.secret.toList.all Header.isValueChar = true := by
    simp only [host]
    decide
  rw [Endpoint.resolve, Endpoint.ofTemplate, hfill, Uri.parse?, String.toList_ofList,
    ofChars?_address]
  simp [hsecret]

theorem report?_seedPlayers : Errand.seedPlayers.report? (.arr []) = some (.players []) := rfl

theorem report?_seedBans : Errand.seedBans.report? (.arr []) = some (.bans []) := rfl

/-- The surface of an answer with an empty list. -/
def emptyAnswer (digit : Char) : Tree :=
  .object [(.text (some "id"), .number ⟨false, [digit], [], none⟩),
    (.text (some "result"), .array [] true)] true

theorem decode_nobody :
    Frame.decode "\x7b\"id\":1,\"result\":[]\x7d" = .ok (.response 1 (.arr [])) := by
  have hmembers : Frame.decodeMembers maxDepth (emptyAnswer '1') =
      .ok ⟨some 1, none, some (.arr []), none⟩ := rfl
  exact Frame.decode_eq_ofMembers (Document.read_toList rfl rfl) hmembers

theorem ending?_nobody : nobody.ending? 1 = some (.result (.arr [])) := by
  simp [nobody, Signal.ending?, decode_nobody]

theorem decode_spotless :
    Frame.decode "\x7b\"id\":2,\"result\":[]\x7d" = .ok (.response 2 (.arr [])) := by
  have hmembers : Frame.decodeMembers maxDepth (emptyAnswer '2') =
      .ok ⟨some 2, none, some (.arr []), none⟩ := rfl
  exact Frame.decode_eq_ofMembers (Document.read_toList rfl rfl) hmembers

theorem ending?_spotless : spotless.ending? 2 = some (.result (.arr [])) := by
  simp [spotless, Signal.ending?, decode_spotless]

/-- The channel of the server in a session, while it does something. -/
def connected (activity : Activity) : Channel :=
  ⟨host, policy, .start policy.backoff, false, ⟨.connected, 0, ⟨1⟩⟩, activity⟩

/-- What the channel does while its first question is under way. -/
def first : Activity := .asking ⟨2, [], ⟨10⟩⟩ ⟨1, Request.playersMethod⟩ .seedPlayers

/-- What it does while the second one is. -/
def second : Activity := .asking ⟨3, [], ⟨10⟩⟩ ⟨2, Request.bansMethod⟩ .seedBans

/-- The channel tries to connect. -/
theorem step_start : ∃ uri, (Channel.create host policy false).step .start =
    (⟨host, policy, .start policy.backoff, false, ⟨.connecting, 0, ⟨1⟩⟩, .connecting⟩,
      [.show ⟨.connecting, 0, ⟨1⟩⟩, .connect uri host.secret]) := by
  obtain ⟨uri, resolved⟩ := resolve_host
  refine ⟨uri, ?_⟩
  simp only [Channel.create, Channel.step, Channel.attempt, Channel.enter, Channel.endpoint,
    resolved]
  rfl

theorem answers_nobody : nobody.Answers .seedPlayers 1 (.players []) :=
  ⟨.arr [], ending?_nobody, report?_seedPlayers⟩

/-- The channel is told who plays. -/
theorem step_nobody : (connected first).step nobody =
    (connected second,
      [.write (.players []), .publish (.players []), .send (Errand.seedBans.request 2)]) := by
  have hended := ending?_nobody
  simp only [nobody] at hended ⊢
  simp only [Channel.step, connected, first, Channel.hear_eq, hended, Channel.conclude,
    report?_seedPlayers]
  rfl

/-- The channel is told who is banned. -/
theorem step_spotless : (connected second).step spotless =
    (connected (.listening ⟨3, [], ⟨10⟩⟩), [.write (.bans []), .publish (.bans [])]) := by
  have hended := ending?_spotless
  simp only [spotless] at hended ⊢
  simp only [Channel.step, connected, second, Channel.hear_eq, hended, Channel.conclude,
    report?_seedBans]
  rfl

end Sample

end Flotilla
