import Flotilla.Deployment
import Flotilla.Proofs.Http.Routing
import Flotilla.Proofs.Settings.Validation
import Flotilla.Proofs.Watch.Settling
import Flotilla.Viewer.Socket

/-!
# Capacities that are too large

The settings are read without a look at how large a bus or a queue can be. A capacity of zero does
no harm, as room for one event is made in any case. Beyond the largest capacity of a bus there is no
gateway at all, and beyond that of a queue there is a gateway that never admits a watcher: on what
terms watchers are admitted is settled once for all when the gateway is set up, whatever happens
afterwards.
-/

namespace Flotilla

/-- Whatever a fold leaves alone with every item, it leaves alone altogether. -/
theorem view_foldl {σ α τ : Type} (view : σ → τ) {step : σ → α → σ}
    (kept : ∀ s a, view (step s a) = view s) (s : σ) (items : List α) :
    view (items.foldl step s) = view s := by
  refine List.foldlRecOn (motive := fun next => view next = view s) items step rfl ?_
  intro next same item _
  exact (kept next item).trans same

namespace Subscription

variable (bus : Bus) (source : RoleSource) (s : Subscription)

theorem outage_settle : (s.settle bus source).1.outage = source.outage := by
  obtain ⟨moves, notes, -, hsource, -⟩ := @Watch.run_settle bus source s [] []
  rw [hsource]
  rfl

theorem outage_collect (count : Nat) : (s.collect bus count source).2.1.outage = source.outage := by
  obtain ⟨moves, notes, -, hsource, -⟩ := @Watch.run_collect bus count source s [] []
  rw [hsource]
  rfl

end Subscription

/-- On what terms watchers are admitted. -/
structure Terms where
  minRole : Role
  queueCapacity : Nat
  outage : Option String

namespace Observatory

/-- The terms on which an observatory admits watchers. -/
def terms (o : Observatory) : Terms := ⟨o.minRole, o.queueCapacity, o.source.outage⟩

variable {o next : Observatory} {name : String} {viewer : ViewerId} {roles : Roles}

theorem accept?_eq_none_iff :
    o.accept? name viewer roles = none ↔ Subscription.maxCapacity < o.queueCapacity := by
  simp [accept?, Subscription.create?]

/-- Whoever is admitted gets a queue with room for one event at least. -/
theorem watcher_of_accept? (accepted : o.accept? name viewer roles = some next) :
    ∃ watcher, next.watchers.get? name = some watcher ∧
      watcher.capacity = max o.queueCapacity 1 := by
  obtain ⟨watcher, created, rfl⟩ := Option.map_eq_some_iff.mp accepted
  have hcapacity : watcher.capacity = max o.queueCapacity 1 := by
    unfold Subscription.create? at created
    split at created
    next => exact congrArg Subscription.capacity (Option.some.inj created).symm
    next => cases created
  exact ⟨watcher, by simp, hcapacity⟩

theorem terms_of_accept? (accepted : o.accept? name viewer roles = some next) :
    next.terms = o.terms := by
  obtain ⟨watcher, -, rfl⟩ := Option.map_eq_some_iff.mp accepted
  rfl

theorem terms_requestRefresh (o : Observatory) (name : String) :
    (o.requestRefresh name).terms = o.terms := by
  unfold requestRefresh
  split <;> rfl

theorem terms_hear (o : Observatory) (now : Instant) (name text : String) :
    (o.hear now name text).2.terms = o.terms := by
  unfold hear
  split
  next => exact o.terms_requestRefresh name
  next => rfl

theorem terms_drop (o : Observatory) (name : String) : (o.drop name).2.terms = o.terms := by
  unfold drop
  split <;> rfl

theorem terms_of_collect {limit : Option Nat} {events : List Event} {ended : Bool}
    (collected : o.collect name limit = some (events, ended, next)) : next.terms = o.terms := by
  obtain ⟨watcher, -, heq⟩ := Option.map_eq_some_iff.mp collected
  obtain ⟨-, -, rfl⟩ := by simpa using heq
  -- to take events may ask the source, and nothing else of the terms is touched
  exact congrArg (Terms.mk _ _) (Subscription.outage_collect o.bus o.source watcher _)

theorem terms_settleAll (o : Observatory) (watchers : List (String × Subscription)) :
    (o.settleAll watchers).terms = o.terms := by
  induction watchers generalizing o with
  | nil => rfl
  | cons entry rest ih =>
      rw [settleAll, ih]
      exact congrArg (Terms.mk _ _) (Subscription.outage_settle o.bus o.source entry.2)

theorem terms_settle (o : Observatory) : o.settle.terms = o.terms :=
  terms_settleAll _ _

end Observatory

namespace Gateway

variable {g : Gateway} {now : Instant} {request : HttpRequest} {call : Call} {viewer : ViewerId}
  {name : String}

theorem terms_relay (g : Gateway) (now : Instant) (server : ServerId) (effect : Effect) :
    (relay now server g effect).observatory.terms = g.observatory.terms := by
  cases effect <;> rfl

theorem terms_signal (g : Gateway) (now : Instant) (number : Nat) (signal : Signal) :
    (g.signal now number signal).2.observatory.terms = g.observatory.terms := by
  unfold Gateway.signal
  split
  next => rfl
  next channel _ =>
    exact view_foldl (fun next : Gateway => next.observatory.terms)
      (fun next effect => next.terms_relay now channel.server.id effect) _ _

theorem terms_respond (g : Gateway) (now : Instant) (request : HttpRequest) :
    (g.respond now request).2.observatory.terms = g.observatory.terms := by
  rcases g.performs_respond now request with hsame | ⟨call, -, performs⟩
  · rw [hsame]
  · generalize (g.respond now request).2 = next at performs
    generalize (g.respond now request).1.all HttpResponse.isFailure = failed at performs
    cases performs <;> rfl

theorem enter_eq_none_iff {roles : Roles} : (g.enter name viewer roles).1 = none ↔
    Subscription.maxCapacity < g.observatory.queueCapacity := by
  have hnone : (g.asked (g.observatory.source.loads + 1)).observatory.accept? name viewer roles =
      none ↔ Subscription.maxCapacity < g.observatory.queueCapacity :=
    Observatory.accept?_eq_none_iff
  unfold Gateway.enter
  split
  next haccepted => simpa [haccepted] using hnone
  next haccepted => simpa [haccepted] using hnone

/-- While the authority is within reach, whoever comes to watch gets no answer exactly if there can
be no queue for them. -/
theorem accept_eq_none_iff (reach : g.observatory.source.outage = none) :
    (g.accept viewer name).1 = none ↔
      Subscription.maxCapacity < g.observatory.queueCapacity := by
  rw [accept_eq, RoleSource.answer, reach]
  unfold Authority.load
  cases g.observatory.source.authority.viewers.get? viewer <;> exact enter_eq_none_iff

theorem perform_eq_none_iff (reach : g.observatory.source.outage = none) :
    (g.perform now call).1 = none ↔ (∃ viewer name, call = .watch viewer name) ∧
      Subscription.maxCapacity < g.observatory.queueCapacity := by
  cases call with
  | watch viewer name => simpa [perform] using accept_eq_none_iff reach
  | _ => simp [perform]

/-- Nobody is left without an answer but whoever asks to watch. -/
theorem respond_eq_none_iff (reach : g.observatory.source.outage = none) :
    (g.respond now request).1 = none ↔
      (∃ viewer name, request.Asks now (.watch viewer name)) ∧
        Subscription.maxCapacity < g.observatory.queueCapacity := by
  constructor
  · intro unanswered
    unfold respond at unanswered
    split at unanswered
    next => cases unanswered
    next =>
      cases hcall : Call.ofRequest now request with
      | error =>
          simp only [hcall] at unanswered
          split at unanswered <;> cases unanswered
      | ok call =>
          have hnone : (g.perform now call).1 = none := by
            simp only [hcall] at unanswered
            split at unanswered
            next => exact Option.map_eq_none_iff.mp unanswered
            next => exact unanswered
          obtain ⟨⟨viewer, name, rfl⟩, excessive⟩ := (perform_eq_none_iff reach).mp hnone
          exact ⟨⟨viewer, name, Call.asks_of_ofRequest hcall rfl⟩, excessive⟩
  · rintro ⟨⟨viewer, name, asks⟩, excessive⟩
    rw [respond_of_asks asks]
    exact (perform_eq_none_iff reach).mpr ⟨⟨viewer, name, rfl⟩, excessive⟩

end Gateway

namespace Deployment

variable {d next later : Deployment}

/-- The terms on which a deployment admits watchers. -/
def terms (d : Deployment) : Terms := d.gateway.observatory.terms

theorem terms_arm (d : Deployment) (number : Nat) (effect : Effect) :
    (arm number d effect).terms = d.terms := by
  cases effect <;> rfl

theorem terms_pass (d : Deployment) (now : Instant) (number : Nat) (signal : Signal) :
    (d.pass now number signal).2.terms = d.terms :=
  (view_foldl terms (fun next effect => next.terms_arm number effect) _ _).trans
    (d.gateway.terms_signal now number signal)

theorem terms_signal (d : Deployment) (now : Instant) (number : Nat) (signal : Signal) :
    (d.signal now number signal).terms = d.terms := by
  have passed := d.terms_pass now number signal
  unfold Deployment.signal
  generalize d.pass now number signal = outcome at passed ⊢
  obtain ⟨effects, after⟩ := outcome
  dsimp only
  split
  next answer _ => exact (after.terms_pass now number answer).trans passed
  next => exact passed

theorem terms_begin (d : Deployment) (now : Instant) : (d.begin now).terms = d.terms :=
  view_foldl terms (fun next number => next.terms_signal now number .start) _ _

theorem terms_ring (d : Deployment) (now : Instant) (number : Nat) :
    (ring now d number).terms = d.terms :=
  terms_signal _ now number .alarm

theorem terms_ringAll (d : Deployment) (now : Instant) (rounds : Nat) :
    (ringAll now rounds d).terms = d.terms := by
  induction rounds generalizing d with
  | zero => rfl
  | succ rounds ih =>
      unfold ringAll
      split
      next => rfl
      next due _ =>
        rw [ih]
        exact view_foldl terms (fun next number => next.terms_ring now number) _ _

theorem terms_settle (d : Deployment) (now : Instant) : (d.settle now).terms = d.terms :=
  (Observatory.terms_settle _).trans
    (((d.begin now).terms_ringAll now maxRounds).trans (d.terms_begin now))

/-- The deployment with another observatory. -/
def withObservatory (d : Deployment) (o : Observatory) : Deployment :=
  { d with gateway := { d.gateway with observatory := o } }

/-- What may happen to a deployment. -/
inductive Move where
  /-- A request comes in. -/
  | request (now : Instant) (request : HttpRequest)
  /-- A server or the network lets a channel know something. -/
  | signal (now : Instant) (number : Nat) (signal : Signal)
  /-- Somebody within publishes an event. -/
  | publish (event : Event)
  /-- Somebody within admits a watcher. -/
  | accept (name : String) (viewer : ViewerId) (roles : Roles)
  /-- A watcher sends a text. -/
  | hear (now : Instant) (name text : String)
  /-- A watcher takes events. -/
  | collect (name : String) (limit : Option Nat)
  /-- A watcher leaves. -/
  | drop (name : String)
  | shutdown
  /-- Time passes. -/
  | advance (span : Span)
  /-- Whatever is to happen by now happens. -/
  | settle (now : Instant)

/-- One move, or `none` if it cannot be made. -/
def step : Move → Deployment → Option Deployment
  | .request now request, d => some (d.respond now request).2
  | .signal now number signal, d => some (d.signal now number signal)
  | .publish event, d => some { d with gateway := (d.gateway.publish event).2 }
  | .accept name viewer roles, d =>
    (d.gateway.observatory.accept? name viewer roles).map d.withObservatory
  | .hear now name text, d => some (d.withObservatory (d.gateway.observatory.hear now name text).2)
  | .collect name limit, d =>
    (d.gateway.observatory.collect name limit).map fun collected => d.withObservatory collected.2.2
  | .drop name, d => some (d.withObservatory (d.gateway.observatory.drop name).2)
  | .shutdown, d =>
    some { d with gateway := { d.gateway with fleet := d.gateway.fleet.shutdown.2 } }
  | .advance span, d => some (d.advance span)
  | .settle now, d => some (d.settle now)

/-- Moves made one after the other. -/
abbrev Run : Deployment → List Move → Deployment → Prop := Flotilla.Run step

theorem terms_of_step {move : Move} (stepped : step move d = some next) : next.terms = d.terms := by
  cases move with
  | request now request =>
      obtain rfl := Option.some.inj stepped
      exact d.gateway.terms_respond now request
  | signal now number signal =>
      obtain rfl := Option.some.inj stepped
      exact d.terms_signal now number signal
  | accept name viewer roles =>
      obtain ⟨o, accepted, rfl⟩ := Option.map_eq_some_iff.mp stepped
      exact Observatory.terms_of_accept? accepted
  | hear now name text =>
      obtain rfl := Option.some.inj stepped
      exact d.gateway.observatory.terms_hear now name text
  | collect name limit =>
      obtain ⟨⟨events, ended, o⟩, collected, rfl⟩ := Option.map_eq_some_iff.mp stepped
      exact Observatory.terms_of_collect collected
  | drop name =>
      obtain rfl := Option.some.inj stepped
      exact d.gateway.observatory.terms_drop name
  | settle now =>
      obtain rfl := Option.some.inj stepped
      exact d.terms_settle now
  | publish | shutdown | advance =>
      obtain rfl := Option.some.inj stepped
      rfl

/-- On what terms watchers are admitted does not depend on what has happened. -/
theorem terms_of_run {moves : List Move} (run : Run d moves later) : later.terms = d.terms :=
  run.invariant (P := fun next => next.terms = d.terms)
    (fun _ _ _ _ same stepped => (terms_of_step stepped).trans same) rfl

variable {settings : Settings} {network : Network}

theorem create?_eq_none_iff :
    create? settings network = none ↔ Bus.maxCapacity < settings.busCapacity := by
  simp [create?, Gateway.create?, Bus.create?]

theorem terms_of_create? (created : create? settings network = some d) :
    d.terms = ⟨settings.minRole, settings.queueCapacity, none⟩ := by
  obtain ⟨g, hg, rfl⟩ := Option.map_eq_some_iff.mp created
  obtain ⟨bus, -, rfl⟩ := Option.map_eq_some_iff.mp hg
  rfl

/-- The bus has room for an event, also if none was asked for. -/
theorem slots_of_create? (created : create? settings network = some d) :
    0 < d.gateway.observatory.bus.slots := by
  obtain ⟨g, hg, rfl⟩ := Option.map_eq_some_iff.mp created
  obtain ⟨bus, hbus, rfl⟩ := Option.map_eq_some_iff.mp hg
  unfold Bus.create? at hbus
  split at hbus
  next =>
    obtain rfl := Option.some.inj hbus
    exact Nat.pos_of_isPowerOfTwo (Nat.isPowerOfTwo_nextPowerOfTwo _)
  next => cases hbus

end Deployment

namespace Settings

variable {lookup : String → Option String} {settings : Settings}

/-- There is no gateway with the settings that are read exactly if the capacity of the bus is too
large for any bus. If there is one, then after whatever has happened a watcher cannot be admitted,
and is left without an answer, exactly if the capacity of their queue is too large for any queue.
Nothing that was read makes a bus or a queue without any room. -/
theorem capacities_exact (accepted : read lookup = .ok settings) (network : Network) :
    InForce 10000 (lookup "EVENT_BUS_CAPACITY") settings.busCapacity ∧
    InForce 256 (lookup "OBSERVER_QUEUE_CAPACITY") settings.queueCapacity ∧
    (Deployment.create? settings network = none ↔ Bus.maxCapacity < settings.busCapacity) ∧
    ∀ d, Deployment.create? settings network = some d →
      0 < d.gateway.observatory.bus.slots ∧
      ∀ moves later, Deployment.Run d moves later →
        (∀ name viewer roles, later.gateway.observatory.accept? name viewer roles = none ↔
          Subscription.maxCapacity < settings.queueCapacity) ∧
        (∀ name viewer roles next,
          later.gateway.observatory.accept? name viewer roles = some next →
            ∃ watcher, next.watchers.get? name = some watcher ∧
              watcher.capacity = max settings.queueCapacity 1) ∧
        ∀ now request, (later.respond now request).1 = none ↔
          (∃ viewer name, request.Asks now (.watch viewer name)) ∧
            Subscription.maxCapacity < settings.queueCapacity := by
  have described := read_eq_ok_iff.mp accepted
  refine ⟨described.busCapacity, described.queueCapacity, Deployment.create?_eq_none_iff, ?_⟩
  intro d created
  refine ⟨Deployment.slots_of_create? created, ?_⟩
  intro moves later run
  have terms := (Deployment.terms_of_run run).trans (Deployment.terms_of_create? created)
  have hcapacity : later.gateway.observatory.queueCapacity = settings.queueCapacity :=
    congrArg Terms.queueCapacity terms
  have reach : later.gateway.observatory.source.outage = none := congrArg Terms.outage terms
  rw [← hcapacity]
  exact ⟨fun _ _ _ => Observatory.accept?_eq_none_iff,
    fun _ _ _ _ admitted => Observatory.watcher_of_accept? admitted,
    fun _ _ => Gateway.respond_eq_none_iff reach⟩

/-- With the usual settings a second watcher is admitted after the first one. -/
theorem capacities_exact_sample : ∃ settings d later,
    read (fun _ => none) = .ok settings ∧ Deployment.create? settings .down = some d ∧
      Deployment.Run d [.accept "first" Sample.viewer .empty] later ∧
      later.gateway.observatory.accept? "second" Sample.viewer .empty ≠ none := by
  obtain ⟨settings, d, accepted, created, usual⟩ : ∃ settings d,
      read (fun _ => none) = .ok settings ∧ Deployment.create? settings .down = some d ∧
        settings.queueCapacity = 256 := ⟨_, _, rfl, rfl, rfl⟩
  have moderate : ¬Subscription.maxCapacity < settings.queueCapacity := by
    rw [usual]
    decide
  obtain ⟨-, -, -, exact⟩ := capacities_exact accepted .down
  obtain ⟨-, admitting⟩ := exact d created
  obtain ⟨firstIff, -, -⟩ := admitting [] d (.nil d)
  obtain ⟨next, admitted⟩ := Option.ne_none_iff_exists'.mp
    (mt (firstIff "first" Sample.viewer .empty).mp moderate)
  have run : Deployment.Run d [.accept "first" Sample.viewer .empty] (d.withObservatory next) :=
    .cons (Option.map_eq_some_iff.mpr ⟨next, admitted, rfl⟩) (.nil _)
  obtain ⟨secondIff, -, -⟩ := admitting _ _ run
  exact ⟨settings, d, _, accepted, created, run, mt (secondIff _ _ _).mp moderate⟩

/-- Settings are read that no gateway can be set up with, and others with which a gateway admits no
watcher. -/
theorem not_always_startable :
    (∃ settings,
      read (Function.update (fun _ => none) "EVENT_BUS_CAPACITY" (some "9223372036854775808")) =
          .ok settings ∧
        Gateway.create? settings = none) ∧
    ∃ settings g,
      read (Function.update (fun _ => none) "OBSERVER_QUEUE_CAPACITY"
          (some "2305843009213693952")) = .ok settings ∧
        Gateway.create? settings = some g ∧
        ∀ name viewer roles, g.observatory.accept? name viewer roles = none :=
  ⟨⟨_, rfl, rfl⟩, _, _, rfl, rfl, fun _ _ _ => rfl⟩

end Settings

end Flotilla
