import Mathlib.Data.List.Basic
import Flotilla.Http.Service
import Flotilla.Proofs.Fleet.Harbour

/-!
# The footprint of requests

Whatever is asked of the gateway, the method and the path of the request tell what may be
changed. `HttpRequest.Asks` lists the requests that may change something at all, and
`Gateway.Performs` all that it can come to when the gateway does what it is asked for. A failure is
always told before anything is changed; the only trace that it leaves is that the authority may have
been asked.

The fleet is taken as it may be in the middle of the calls of many callers. There a channel follows
one server only, so no request touches the channel of a server that it does not name. Requests that
come one after the other keep the fleet in such a state, and publish nothing that only channels tell
of.
-/

namespace Flotilla

namespace HttpRequest

variable {now : Instant} {request : HttpRequest} {call : Call}

/-- Whether a request is made by a method and under a path, where it has these parameters. -/
def Addresses (request : HttpRequest) (method : String) (path : List Segment)
    (parameters : List (List Char)) : Prop :=
  request.method = method ∧ Route.parameters? path (Route.pieces request.uri.path) = some parameters

/-- The requests that may change something, and what they ask for. -/
inductive Asks (now : Instant) (request : HttpRequest) : Call → Prop where
  | track {server}
      (address : request.Addresses "POST" [.fixed "api", .fixed "v1", .fixed "instances"] [])
      (body : request.content Server.decode = .ok server) : Asks now request (.trackServer server)
  | untrack {piece id} (address : request.Addresses "DELETE" Route.server [piece])
      (named : Call.parameter Id.parse? piece = .ok id) : Asks now request (.untrackServer id)
  | invalidate {piece id}
      (address : request.Addresses "DELETE" (Route.server ++ [.fixed "status"]) [piece])
      (named : Call.parameter Id.parse? piece = .ok id) : Asks now request (.invalidateStatus id)
  | publish {event}
      (address : request.Addresses "POST" [.fixed "api", .fixed "v1", .fixed "events"] [])
      (body : request.content (Event.decode now) = .ok event) :
      Asks now request (.publishEvent event)
  | grant {first second viewer server role}
      (address : request.Addresses "PUT"
        (Route.viewer ++ [.fixed "roles", .parameter "id"]) [first, second])
      (viewerNamed : Call.parameter Id.parse? first = .ok viewer)
      (serverNamed : Call.parameter Id.parse? second = .ok server)
      (body : request.content Role.decodeGrant = .ok role) :
      Asks now request (.grantRole viewer server role)
  | revoke {piece viewer} (address : request.Addresses "DELETE" Route.viewer [piece])
      (named : Call.parameter Id.parse? piece = .ok viewer) :
      Asks now request (.revokeViewer viewer)
  | watch {viewer name} (address : request.Addresses "GET" [.fixed "ws"] [])
      (head : request.watcher = .ok (viewer, name)) : Asks now request (.watch viewer name)

end HttpRequest

namespace Route

/-- How many parameters a path has. -/
def arity : List Segment → Nat
  | [] => 0
  | .fixed _ :: segments => arity segments
  | .parameter _ :: segments => arity segments + 1

/-- A path finds as many parameters as it has. -/
theorem length_parameters? {path : List Segment} {pieces parameters : List (List Char)}
    (h : parameters? path pieces = some parameters) : parameters.length = arity path := by
  fun_induction parameters? path pieces generalizing parameters with
  | case1 =>
      obtain rfl := Option.some.inj h
      rfl
  | case2 text segments pieces ih => exact ih h
  | case5 name segments piece pieces named ih =>
      obtain ⟨rest, hrest, rfl⟩ := Option.map_eq_some_iff.mp h
      simp [arity, ih hrest]
  | case3 | case4 | case6 => cases h

end Route

namespace Call

variable {now : Instant} {request : HttpRequest} {call : Call}

/-- Whether a call only wants to know something. -/
def isReading : Call → Bool
  | .health | .listServers _ | .readStatus .. | .readConnection _ | .readDocumentation => true
  | _ => false

/-- Whoever makes a call has found a route for it. -/
theorem exists_route (made : ofRequest now request = .ok call) :
    ∃ route ∈ Route.all, ∃ parameters, serving request.method = route.method ∧
      Route.parameters? route.path (Route.pieces request.uri.path) = some parameters ∧
      read now request route.operation parameters = .ok call := by
  unfold ofRequest at made
  split at made
  next => cases made
  next =>
    split at made
    next route parameters hfound =>
      have hmethod := List.find?_some hfound
      obtain ⟨found, hroute, hfits⟩ := List.mem_filterMap.mp (List.mem_of_find?_eq_some hfound)
      obtain ⟨pieces, hpieces, heq⟩ := Option.map_eq_some_iff.mp hfits
      obtain ⟨rfl, rfl⟩ := Prod.mk.inj heq
      exact ⟨found, hroute, pieces, (of_decide_eq_true hmethod).symm, hpieces, made⟩
    next => cases made

/-- Only the method of plain reading serves another one beside itself. -/
theorem eq_of_serving {method served : String} (h : serving method = served) (ne : served ≠ "GET") :
    method = served := by
  unfold serving at h
  split at h
  next => exact absurd h.symm ne
  next => exact h

theorem bind_eq_ok {ε α β : Type} {x : Except ε α} {f : α → Except ε β} {b : β} :
    x >>= f = .ok b ↔ ∃ a, x = .ok a ∧ f a = .ok b := by
  cases x <;> simp [bind, Except.bind]

theorem bind_pure_eq_ok {ε α β : Type} {x : Except ε α} {f : α → β} {b : β} :
    (x >>= fun a => pure (f a)) = .ok b ↔ ∃ a, x = .ok a ∧ f a = b := by
  simp [bind_eq_ok, pure, Except.pure]

/-- Nobody is handed a connection who only asks for the head of an answer. -/
theorem method_of_watcher {watcher : ViewerId × String} (h : request.watcher = .ok watcher) :
    request.method = "GET" := by
  obtain ⟨name, hname, -⟩ := bind_eq_ok.mp h
  unfold HttpRequest.handshake at hname
  split at hname
  next => simp [Except.mapError] at hname
  next hmethod => exact Classical.not_not.mp hmethod

/-- Whatever a request asks for that may change something, it asks for by its method, its path and
its body. The cases are the routes, in their order. -/
theorem asks_of_ofRequest (made : ofRequest now request = .ok call)
    (changing : call.isReading = false) : request.Asks now call := by
  obtain ⟨route, hroute, parameters, hmethod, hfits, hread⟩ := exists_route made
  simp only [Route.all, List.mem_cons, List.not_mem_nil, or_false] at hroute
  have harity := Route.length_parameters? hfits
  rcases hroute with rfl | rfl | rfl | rfl | rfl | rfl | rfl | rfl | rfl | rfl | rfl | rfl
  -- `/health`
  · obtain rfl := List.length_eq_zero_iff.mp harity
    cases hread
    cases changing
  -- `/api/v1/instances`, to follow a server
  · obtain rfl := List.length_eq_zero_iff.mp harity
    obtain ⟨server, hbody, rfl⟩ := bind_pure_eq_ok.mp hread
    exact .track ⟨eq_of_serving hmethod (by decide), hfits⟩ hbody
  -- `/api/v1/instances`, to list the followed servers
  · obtain rfl := List.length_eq_zero_iff.mp harity
    obtain ⟨page, -, rfl⟩ := bind_pure_eq_ok.mp hread
    cases changing
  -- `/api/v1/instances/{id}`
  · obtain ⟨piece, rfl⟩ := List.length_eq_one_iff.mp harity
    obtain ⟨id, hnamed, rfl⟩ := bind_pure_eq_ok.mp hread
    exact .untrack ⟨eq_of_serving hmethod (by decide), hfits⟩ hnamed
  -- `/api/v1/instances/{id}/status`
  · obtain ⟨piece, rfl⟩ := List.length_eq_one_iff.mp harity
    obtain ⟨id, hnamed, rfl⟩ := bind_pure_eq_ok.mp hread
    exact .invalidate ⟨eq_of_serving hmethod (by decide), hfits⟩ hnamed
  -- `/api/v1/instances/{id}/status/{key}`
  · obtain ⟨first, second, rfl⟩ := List.length_eq_two.mp harity
    obtain ⟨id, -, hrest⟩ := bind_eq_ok.mp hread
    obtain ⟨key, -, rfl⟩ := bind_pure_eq_ok.mp hrest
    cases changing
  -- `/api/v1/instances/{id}/connection`
  · obtain ⟨piece, rfl⟩ := List.length_eq_one_iff.mp harity
    obtain ⟨id, -, rfl⟩ := bind_pure_eq_ok.mp hread
    cases changing
  -- `/api/v1/events`
  · obtain rfl := List.length_eq_zero_iff.mp harity
    obtain ⟨event, hbody, rfl⟩ := bind_pure_eq_ok.mp hread
    exact .publish ⟨eq_of_serving hmethod (by decide), hfits⟩ hbody
  -- `/api/v1/viewers/{viewer}/roles/{id}`
  · obtain ⟨first, second, rfl⟩ := List.length_eq_two.mp harity
    obtain ⟨viewer, hviewer, hrest⟩ := bind_eq_ok.mp hread
    obtain ⟨server, hserver, hrest⟩ := bind_eq_ok.mp hrest
    obtain ⟨role, hbody, rfl⟩ := bind_pure_eq_ok.mp hrest
    exact .grant ⟨eq_of_serving hmethod (by decide), hfits⟩ hviewer hserver hbody
  -- `/api/v1/viewers/{viewer}`
  · obtain ⟨piece, rfl⟩ := List.length_eq_one_iff.mp harity
    obtain ⟨viewer, hnamed, rfl⟩ := bind_pure_eq_ok.mp hread
    exact .revoke ⟨eq_of_serving hmethod (by decide), hfits⟩ hnamed
  -- `/ws`
  · obtain rfl := List.length_eq_zero_iff.mp harity
    obtain ⟨⟨viewer, name⟩, hwatcher, rfl⟩ := bind_pure_eq_ok.mp hread
    exact .watch ⟨method_of_watcher hwatcher, hfits⟩ hwatcher
  -- `/api-docs/openapi.json`
  · obtain rfl := List.length_eq_zero_iff.mp harity
    cases hread
    cases changing

end Call

namespace Gateway

/-- The gateway, after its authority has been asked so often. -/
def asked (g : Gateway) (loads : Nat) : Gateway :=
  { g with observatory := { g.observatory with source := { g.observatory.source with loads } } }

/-- Nothing has changed, but that the authority may have been asked. -/
def Untouched (g next : Gateway) : Prop := ∃ loads, next = g.asked loads

theorem Untouched.refl (g : Gateway) : g.Untouched g := ⟨g.observatory.source.loads, rfl⟩

/-- All that it can come to when the gateway does what a call asks for. Between the call and the
gateway after it stands whether the answer tells of a failure, or there is none. -/
inductive Performs (g : Gateway) (now : Instant) : Call → Bool → Gateway → Prop where
  | spare {call failed} (loads : Nat) : Performs g now call failed (g.asked loads)
  | track {server} (unserved : g.fleet.isServed server.id = false) :
      Performs g now (.trackServer server) false { g with fleet := g.fleet.launch server }
  | untrack {id number} (followed : g.fleet.tracked.get? id = some number) :
      Performs g now (.untrackServer id) false
        { g with fleet := ((g.fleet.unfollow id).signal number .cancel).2 }
  | invalidate {id} :
      Performs g now (.invalidateStatus id) false { g with fleet := (g.fleet.invalidate id).2 }
  | announce {event} (unreported : event.kind.isReported = false) :
      Performs g now (.publishEvent event) false (g.publish event).2
  | grant {viewer server role} :
      Performs g now (.grantRole viewer server role) false (g.grant now viewer server role)
  | revoke {viewer} :
      Performs g now (.revokeViewer viewer) false
        ((g.withAuthority (g.authority.revoke viewer).2).publish
          ⟨.updated none (some [viewer]), now⟩).2
  | join {viewer name loads watcher departed} :
      Performs g now (.watch viewer name) false
        { g.asked loads with
          observatory :=
            { (g.asked loads).observatory with
              bus := g.observatory.bus.join.2
              watchers := g.observatory.watchers.insert name watcher
              departed := departed } }

variable {g next : Gateway} {now : Instant} {request : HttpRequest} {call : Call} {failed : Bool}

@[simp] theorem authority_withAuthority (g : Gateway) (authority : Authority) :
    (g.withAuthority authority).authority = authority := rfl

/-- Admits a watcher after the authority has been asked. -/
def enter (g : Gateway) (name : String) (viewer : ViewerId) (roles : Roles) :
    Option HttpResponse × Gateway :=
  match (g.asked (g.observatory.source.loads + 1)).observatory.accept? name viewer roles with
  | some observatory =>
    (some (.bare 101), { g.asked (g.observatory.source.loads + 1) with observatory := observatory })
  | none => (none, g.asked (g.observatory.source.loads + 1))

theorem accept_eq (g : Gateway) (viewer : ViewerId) (name : String) :
    g.accept viewer name =
      match g.observatory.source.answer viewer with
      | .ok roles => g.enter name viewer roles
      | .error (.unknownViewer _) => g.enter name viewer .empty
      | .error error => (some (Refusal.ofAuthorityError error).response,
          g.asked (g.observatory.source.loads + 1)) := rfl

theorem performs_perform (g : Gateway) (now : Instant) (call : Call) :
    g.Performs now call ((g.perform now call).1.all HttpResponse.isFailure)
      (g.perform now call).2 := by
  cases call with
  | health | listServers | readStatus | readConnection | readDocumentation =>
      exact .spare g.observatory.source.loads
  | trackServer server =>
      cases hserved : g.fleet.isServed server.id with
      | true =>
          have hsame : (g.perform now (.trackServer server)).2 = g := by
            simp [perform, track, Fleet.track_eq, hserved]
          rw [hsame]
          exact .spare g.observatory.source.loads
      | false =>
          simp only [perform, track, Fleet.track_eq, hserved]
          exact .track hserved
  | untrackServer id =>
      cases htracked : g.fleet.tracked.get? id with
      | none =>
          have hsame : (g.perform now (.untrackServer id)).2 = g := by
            simp [perform, Fleet.untrack, htracked]
          rw [hsame]
          exact .spare g.observatory.source.loads
      | some number =>
          simp only [perform, Fleet.untrack_eq htracked]
          exact .untrack htracked
  | invalidateStatus id => exact .invalidate
  | publishEvent event =>
      cases hreported : event.kind.isReported with
      | true =>
          simp only [perform, announce, hreported, if_true]
          exact .spare g.observatory.source.loads
      | false =>
          simp only [perform, announce, hreported, Bool.false_eq_true, if_false]
          exact .announce hreported
  | grantRole viewer server role => exact .grant
  | revokeViewer viewer =>
      cases hknown : (g.authority.revoke viewer).1 with
      | true =>
          simp only [perform, dismiss, revoke, hknown, if_true]
          exact .revoke
      | false =>
          simp only [perform, dismiss, revoke, hknown, Bool.false_eq_true, if_false]
          exact .spare g.observatory.source.loads
  | watch viewer name =>
      have enter (roles : Roles) : g.Performs now (.watch viewer name)
          ((g.enter name viewer roles).1.all HttpResponse.isFailure)
          (g.enter name viewer roles).2 := by
        unfold Gateway.enter
        split
        next observatory haccepted =>
          obtain ⟨watcher, -, rfl⟩ := Option.map_eq_some_iff.mp haccepted
          exact .join
        next => exact .spare _
      change g.Performs now (.watch viewer name)
        ((g.accept viewer name).1.all HttpResponse.isFailure) (g.accept viewer name).2
      rw [accept_eq]
      split
      next roles _ => exact enter roles
      next => exact enter .empty
      next => exact .spare _

theorem untouched_of_performs (performs : g.Performs now call true next) : g.Untouched next := by
  cases performs with
  | spare loads => exact ⟨loads, rfl⟩

namespace Performs

/-- What is known of a server is dropped by a call that says so. -/
theorem store {id : ServerId} (performs : g.Performs now call failed next)
    (changed : next.fleet.store.snapshot id ≠ g.fleet.store.snapshot id) :
    call = .invalidateStatus id ∧ next.fleet.store.snapshot id = none := by
  cases performs with
  | untrack followed => exact absurd (by simp [Fleet.unfollow]) changed
  | @invalidate server =>
      rw [Fleet.store_invalidate, StatusStore.snapshot_invalidate] at changed ⊢
      by_cases heq : id = server
      · subst heq
        simp
      · simp [heq] at changed
  | _ => exact absurd rfl changed

/-- The roles of a viewer are changed by calls that name the viewer. -/
theorem roles {viewer : ViewerId} (performs : g.Performs now call failed next)
    (changed : next.authority.viewers.get? viewer ≠ g.authority.viewers.get? viewer) :
    (∃ server role, call = .grantRole viewer server role ∧
        next.authority.viewers.get? viewer =
          some (((g.authority.viewers.get? viewer).getD .empty).set server role)) ∨
      call = .revokeViewer viewer ∧ next.authority.viewers.get? viewer = none := by
  cases performs with
  | @grant other server role =>
      rw [authority_grant, Authority.grant, Index.get?_insert] at changed ⊢
      by_cases heq : viewer = other
      · subst heq
        exact .inl ⟨server, role, rfl, if_pos rfl⟩
      · simp [heq] at changed
  | @revoke other =>
      rw [authority_publish, authority_withAuthority, Authority.revoke, Index.get?_erase]
        at changed ⊢
      by_cases heq : viewer = other
      · subst heq
        exact .inr ⟨rfl, if_pos rfl⟩
      · simp [heq] at changed
  | _ => exact absurd rfl changed

/-- A server is followed from now on, or not any more, by calls that name the server. -/
theorem followed {id : ServerId} (performs : g.Performs now call failed next)
    (changed : next.fleet.tracked.get? id ≠ g.fleet.tracked.get? id) :
    (∃ server, server.id = id ∧ call = .trackServer server ∧ g.fleet.isServed id = false) ∨
      call = .untrackServer id ∧ next.fleet.tracked.get? id = none := by
  cases performs with
  | @track server unserved =>
      rw [Fleet.launch, Index.get?_insert] at changed
      by_cases heq : id = server.id
      · exact .inl ⟨server, heq.symm, rfl, heq ▸ unserved⟩
      · simp [heq] at changed
  | @untrack other number followed =>
      rw [Fleet.tracked_signal, Fleet.unfollow, Index.get?_erase] at changed ⊢
      by_cases heq : id = other
      · exact .inr ⟨heq ▸ rfl, if_pos heq⟩
      · simp [heq] at changed
  | _ => exact absurd rfl changed

/-- A channel is set up or cancelled by calls that name its server. -/
theorem channels (charted : g.fleet.Charted) {number : Nat}
    (performs : g.Performs now call failed next)
    (changed : next.fleet.channels.get? number ≠ g.fleet.channels.get? number) :
    (∃ server, call = .trackServer server ∧ g.fleet.channels.get? number = none ∧
        next.fleet.channels.get? number =
          some (.create server g.fleet.settings g.fleet.stopped)) ∨
      ∃ channel, call = .untrackServer channel.server.id ∧
        g.fleet.channels.get? number = some channel ∧
        next.fleet.channels.get? number = some (channel.step .cancel).1 := by
  cases performs with
  | @track server unserved =>
      rw [Fleet.launch, Index.get?_insert] at changed ⊢
      by_cases heq : number = g.fleet.nextNumber
      · subst heq
        exact .inl ⟨server, rfl, charted.fresh, if_pos rfl⟩
      · simp [heq] at changed
  | @untrack id own followed =>
      obtain ⟨channel, hchannel, rfl, -⟩ := charted.mapped followed
      rw [Fleet.get?_signal] at changed ⊢
      by_cases heq : number = own
      · subst heq
        exact .inr ⟨channel, rfl, hchannel, by simp [Fleet.unfollow, hchannel]⟩
      · simp [heq, Fleet.unfollow] at changed
  | _ => exact absurd rfl changed

/-- At most one event is published, and none that only channels tell of. -/
theorem published (performs : g.Performs now call failed next) :
    next.observatory.bus.log = g.observatory.bus.log ∨
      ∃ event, event.kind.isReported = false ∧
        next.observatory.bus.log = g.observatory.bus.log.push event := by
  cases performs with
  | announce unreported => exact .inr ⟨_, unreported, rfl⟩
  | grant | revoke => exact .inr ⟨_, rfl, rfl⟩
  | _ => exact .inl rfl

/-- Nobody begins to watch but whoever asks for it, and under no name but their own. -/
theorem watched (performs : g.Performs now call failed next) :
    next.observatory.bus.receivers = g.observatory.bus.receivers ∧
        next.observatory.watchers = g.observatory.watchers ∨
      ∃ viewer name, call = .watch viewer name ∧
        next.observatory.bus.receivers = g.observatory.bus.receivers + 1 ∧
        ∀ other, other ≠ name →
          next.observatory.watchers.get? other = g.observatory.watchers.get? other := by
  cases performs with
  | @join viewer name =>
      refine .inr ⟨viewer, name, rfl, rfl, fun other hne => ?_⟩
      rw [Index.get?_insert, if_neg hne]
  | _ => exact .inl ⟨rfl, rfl⟩

/-- No call stops the fleet, closes the bus or puts the authority out of reach. -/
theorem standing (performs : g.Performs now call failed next) :
    next.fleet.stopped = g.fleet.stopped ∧
      next.observatory.bus.isOpen = g.observatory.bus.isOpen ∧
      next.observatory.source.outage = g.observatory.source.outage := by
  cases performs with
  | untrack => exact ⟨Fleet.stopped_signal _ _ _, rfl, rfl⟩
  | _ => exact ⟨rfl, rfl, rfl⟩

end Performs

/-- A request has no effect but those that its method, its path and its body ask for. -/
structure Footprint (g : Gateway) (now : Instant) (request : HttpRequest) (next : Gateway) :
    Prop where
  /-- What is known of a server is dropped on request. -/
  store : ∀ id, next.fleet.store.snapshot id ≠ g.fleet.store.snapshot id →
    request.Asks now (.invalidateStatus id) ∧ next.fleet.store.snapshot id = none
  /-- A role is given to a viewer, or the viewer is struck off the record. -/
  roles : ∀ viewer,
    next.authority.viewers.get? viewer ≠ g.authority.viewers.get? viewer →
      (∃ server role, request.Asks now (.grantRole viewer server role) ∧
          next.authority.viewers.get? viewer =
            some (((g.authority.viewers.get? viewer).getD .empty).set server role)) ∨
        request.Asks now (.revokeViewer viewer) ∧ next.authority.viewers.get? viewer = none
  /-- A server is followed that was not served, or it is not followed any more. -/
  followed : ∀ id, next.fleet.tracked.get? id ≠ g.fleet.tracked.get? id →
    (∃ server, server.id = id ∧ request.Asks now (.trackServer server) ∧
        g.fleet.isServed id = false) ∨
      request.Asks now (.untrackServer id) ∧ next.fleet.tracked.get? id = none
  /-- A new channel is set up for the server, or its own one is cancelled; the channels of other
  servers are left alone. -/
  channels : ∀ number,
    next.fleet.channels.get? number ≠ g.fleet.channels.get? number →
      (∃ server, request.Asks now (.trackServer server) ∧
          g.fleet.channels.get? number = none ∧
          next.fleet.channels.get? number =
            some (.create server g.fleet.settings g.fleet.stopped)) ∨
        ∃ channel, request.Asks now (.untrackServer channel.server.id) ∧
          g.fleet.channels.get? number = some channel ∧
          next.fleet.channels.get? number = some (channel.step .cancel).1
  /-- At most one event is published, and none that only channels tell of. -/
  published : next.observatory.bus.log = g.observatory.bus.log ∨
    ∃ event, event.kind.isReported = false ∧
      next.observatory.bus.log = g.observatory.bus.log.push event
  /-- A viewer begins to watch under one name. -/
  watched : next.observatory.bus.receivers = g.observatory.bus.receivers ∧
      next.observatory.watchers = g.observatory.watchers ∨
    ∃ viewer name, request.Asks now (.watch viewer name) ∧
      next.observatory.bus.receivers = g.observatory.bus.receivers + 1 ∧
      ∀ other, other ≠ name →
        next.observatory.watchers.get? other = g.observatory.watchers.get? other
  /-- The fleet is not stopped, the bus not closed and the authority not put out of reach. -/
  standing : next.fleet.stopped = g.fleet.stopped ∧
    next.observatory.bus.isOpen = g.observatory.bus.isOpen ∧
    next.observatory.source.outage = g.observatory.source.outage

theorem footprint_of_performs (charted : g.fleet.Charted)
    (made : Call.ofRequest now request = .ok call) (performs : g.Performs now call failed next) :
    g.Footprint now request next where
  store id changed := by
    obtain ⟨rfl, hnone⟩ := performs.store changed
    exact ⟨Call.asks_of_ofRequest made rfl, hnone⟩
  roles viewer changed := by
    rcases performs.roles changed with ⟨server, role, rfl, hroles⟩ | ⟨rfl, hnone⟩
    · exact .inl ⟨server, role, Call.asks_of_ofRequest made rfl, hroles⟩
    · exact .inr ⟨Call.asks_of_ofRequest made rfl, hnone⟩
  followed id changed := by
    rcases performs.followed changed with ⟨server, hid, rfl, unserved⟩ | ⟨rfl, hnone⟩
    · exact .inl ⟨server, hid, Call.asks_of_ofRequest made rfl, unserved⟩
    · exact .inr ⟨Call.asks_of_ofRequest made rfl, hnone⟩
  channels number changed := by
    rcases performs.channels charted changed with ⟨server, rfl, hfresh⟩ | ⟨channel, rfl, hchannel⟩
    · exact .inl ⟨server, Call.asks_of_ofRequest made rfl, hfresh⟩
    · exact .inr ⟨channel, Call.asks_of_ofRequest made rfl, hchannel⟩
  published := performs.published
  watched := by
    rcases performs.watched with hsame | ⟨viewer, name, rfl, hjoined⟩
    · exact .inl hsame
    · exact .inr ⟨viewer, name, Call.asks_of_ofRequest made rfl, hjoined⟩
  standing := performs.standing

theorem footprint_of_untouched (untouched : g.Untouched next) : g.Footprint now request next := by
  obtain ⟨loads, rfl⟩ := untouched
  constructor
  case published => exact .inl rfl
  case watched => exact .inl ⟨rfl, rfl⟩
  case standing => exact ⟨rfl, rfl, rfl⟩
  all_goals exact fun _ changed => absurd rfl changed

/-- A request makes a call or leaves the gateway as it is. -/
theorem performs_respond (g : Gateway) (now : Instant) (request : HttpRequest) :
    (g.respond now request).2 = g ∨
      ∃ call, Call.ofRequest now request = .ok call ∧
        g.Performs now call ((g.respond now request).1.all HttpResponse.isFailure)
          (g.respond now request).2 := by
  by_cases hoptions : request.method = "OPTIONS"
  · exact .inl (by simp [respond, hoptions])
  · cases hcall : Call.ofRequest now request with
    | error rejection => exact .inl (by simp [respond, hoptions, hcall])
    | ok call =>
        refine .inr ⟨call, rfl, ?_⟩
        have hnext : (g.respond now request).2 = (g.perform now call).2 := by
          simp [respond, hoptions, hcall]
        have hfailed : (g.respond now request).1.all HttpResponse.isFailure =
            (g.perform now call).1.all HttpResponse.isFailure := by
          simp only [respond, hoptions, hcall, if_false]
          -- the head of an answer tells of a failure if the answer does
          split
          next => exact Option.all_map
          next => rfl
        rw [hnext, hfailed]
        exact g.performs_perform now call

theorem published_respond (g : Gateway) (now : Instant) (request : HttpRequest) :
    (g.respond now request).2.observatory.bus.log = g.observatory.bus.log ∨
      ∃ event : Event, event.kind.isReported = false ∧
        (g.respond now request).2.observatory.bus.log = g.observatory.bus.log.push event := by
  rcases g.performs_respond now request with hsame | ⟨call, -, performs⟩
  · exact .inl (by rw [hsame])
  · exact performs.published

/-- The state after a request is again one that callers of the fleet can bring about. -/
theorem exists_run_respond {h : Harbour} (free : h.entering = none) (moored : g.fleet = h.fleet)
    (now : Instant) (request : HttpRequest) :
    ∃ moves after, Harbour.Run h moves after ∧ after.entering = none ∧
      (g.respond now request).2.fleet = after.fleet := by
  rcases g.performs_respond now request with hsame | ⟨call, -, performs⟩
  · exact ⟨[], h, .nil h, free, by rw [hsame, moored]⟩
  · generalize (g.respond now request).2 = next at performs
    generalize (g.respond now request).1.all HttpResponse.isFailure = failed at performs
    cases performs with
    | @track server unserved =>
        rw [moored] at unserved ⊢
        have hhailed :
            Harbour.step (.hail server) h = some { h with entering := some server } := by
          simp [Harbour.step, free, unserved]
        exact ⟨[.hail server, .launch], _, .cons hhailed (.cons rfl (.nil _)), rfl, rfl⟩
    | @untrack id number followed =>
        rw [moored] at followed ⊢
        have hleft : Harbour.step (.unfollow id) h =
            some ({ h with fleet := h.fleet.unfollow id, leaving := number :: h.leaving }.tell
              (.untracked id true)) := by
          simp [Harbour.step, free, followed]
        exact ⟨[.unfollow id, .dismiss number], _,
          .cons hleft (.cons (if_pos List.mem_cons_self) (.nil _)), free, rfl⟩
    | @invalidate id =>
        rw [moored]
        exact ⟨[.invalidate id], _, .cons rfl (.nil _), free, rfl⟩
    | _ => exact ⟨[], h, .nil h, free, moored⟩

/-- The gateway after requests that come one after the other, each at its instant. -/
def serve (g : Gateway) : List (Instant × HttpRequest) → Gateway
  | [] => g
  | (now, request) :: rest => (g.respond now request).2.serve rest

/-- Whatever requests come, the fleet stays one that callers can bring about. -/
theorem exists_run_serve {h : Harbour} (free : h.entering = none) (moored : g.fleet = h.fleet)
    (requests : List (Instant × HttpRequest)) :
    ∃ moves after, Harbour.Run h moves after ∧ after.entering = none ∧
      (g.serve requests).fleet = after.fleet := by
  induction requests generalizing g h with
  | nil => exact ⟨[], h, .nil h, free, moored⟩
  | cons entry rest ih =>
      obtain ⟨first, between, hfirst, hfree, hmoored⟩ :=
        exists_run_respond free moored entry.1 entry.2
      obtain ⟨more, after, hrest, hafter⟩ := ih hfree hmoored
      exact ⟨first ++ more, after, hfirst.append hrest, hafter⟩

/-- Whatever requests come, they publish at most one event each, and none that only channels tell
of. -/
theorem log_serve (g : Gateway) (requests : List (Instant × HttpRequest)) :
    ∃ events : List Event, events.length ≤ requests.length ∧
      (∀ event ∈ events, event.kind.isReported = false) ∧
      (g.serve requests).observatory.bus.log.toList = g.observatory.bus.log.toList ++ events := by
  induction requests generalizing g with
  | nil => exact ⟨[], Nat.le_refl _, by simp, (List.append_nil _).symm⟩
  | cons entry rest ih =>
      obtain ⟨events, hlength, hevents, hlog⟩ := ih (g.respond entry.1 entry.2).2
      have hserve : g.serve (entry :: rest) = (g.respond entry.1 entry.2).2.serve rest := rfl
      rw [hserve, hlog, List.length_cons]
      rcases g.published_respond entry.1 entry.2 with hsame | ⟨event, hevent, hpushed⟩
      · exact ⟨events, by omega, hevents, by rw [hsame]⟩
      · refine ⟨event :: events, by rw [List.length_cons]; omega,
          List.forall_mem_cons.mpr ⟨hevent, hevents⟩, ?_⟩
        rw [hpushed, Array.toList_push, List.append_assoc, List.singleton_append]

end Gateway

namespace Sample

/-- A gateway that follows one server. -/
def gateway : Gateway where
  fleet := (Fleet.create policy).launch host
  observatory := .create ⟨"events", 16, #[], 0, true⟩ (.ofAuthority .empty) .user 8

/-- A request to stop following the server. -/
def dismissal : HttpRequest where
  method := "DELETE"
  uri := ⟨[], none, "/api/v1/instances/00000000-0000-0000-0000-000000000003".toList, none⟩
  headers := []
  body := ""
  handover := none

def morning : Instant := ⟨20000, 30000, 500, by decide, by decide, by decide, .inl (by decide)⟩

end Sample

namespace Gateway

variable {g : Gateway}

/-- Whatever comes to the gateway, in whatever state of the fleet: a request that is answered with a
failure, or not at all, leaves the gateway untouched, and any other has no effect but what it asks
for. -/
theorem respond_footprint {settings : ChannelSettings} {moves : List Harbour.Move} {h : Harbour}
    (run : Harbour.Run (.start settings) moves h) (moored : g.fleet = h.fleet) (now : Instant)
    (request : HttpRequest) :
    ((g.respond now request).1.all HttpResponse.isFailure = true →
        g.Untouched (g.respond now request).2) ∧
      g.Footprint now request (g.respond now request).2 := by
  have charted : g.fleet.Charted := moored ▸ (run.sound (Harbour.sound_start settings)).charted
  rcases g.performs_respond now request with hsame | ⟨call, hcall, performs⟩
  · have untouched : g.Untouched (g.respond now request).2 := by
      rw [hsame]
      exact .refl g
    exact ⟨fun _ => untouched, footprint_of_untouched untouched⟩
  · refine ⟨fun failed => ?_, footprint_of_performs charted hcall performs⟩
    rw [failed] at performs
    exact untouched_of_performs performs

/-- The server is not followed any more after the request, which can only be because the request
asks for it. -/
theorem respond_footprint_sample : ∃ h,
    Harbour.Run (.start Sample.policy) [.hail Sample.host, .launch] h ∧
      Sample.gateway.fleet = h.fleet ∧
      (Sample.gateway.respond Sample.morning Sample.dismissal).2.fleet.tracked.get? Sample.host.id =
        none ∧
      Sample.dismissal.Asks Sample.morning (.untrackServer Sample.host.id) := by
  obtain ⟨h, hrun, moored⟩ : ∃ h, run? Harbour.step [.hail Sample.host, .launch]
      (.start Sample.policy) = some h ∧ Sample.gateway.fleet = h.fleet := ⟨_, rfl, rfl⟩
  have run := run?_iff.mp hrun
  have hafter : (Sample.gateway.respond Sample.morning Sample.dismissal).2.fleet.tracked.get?
      Sample.host.id = none := by decide +kernel
  have hchanged : (Sample.gateway.respond Sample.morning Sample.dismissal).2.fleet.tracked.get?
      Sample.host.id ≠ Sample.gateway.fleet.tracked.get? Sample.host.id := by
    rw [hafter]
    decide
  obtain ⟨-, footprint⟩ := respond_footprint run moored Sample.morning Sample.dismissal
  refine ⟨h, run, moored, hafter, ?_⟩
  rcases footprint.followed Sample.host.id hchanged with ⟨server, -, -, unserved⟩ | ⟨asks, -⟩
  · exact absurd unserved (by decide)
  · exact asks

end Gateway

end Flotilla
