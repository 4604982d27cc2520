import Flotilla.Proofs.Http.Footprint

/-!
# Routes are unambiguous

No two routes fit a method and a path, so a request that is addressed to a route gets to its
operation, with the parameters that the route finds in the path. Every request that asks for a
change makes the call that it asks for, and no other one.
-/

namespace Flotilla

namespace Route

/-- Whether a path may fit two patterns at once: they are of the same length, and where both have a
fixed piece it is the same one. -/
def overlaps : List Segment → List Segment → Bool
  | [], [] => true
  | .fixed text :: path, .fixed other :: others => text = other && overlaps path others
  | _ :: path, _ :: others => overlaps path others
  | _, _ => false

theorem overlaps_of_parameters? {path others : List Segment}
    {pieces parameters found : List (List Char)} (h : parameters? path pieces = some parameters)
    (h' : parameters? others pieces = some found) : overlaps path others = true := by
  induction path generalizing others pieces parameters found with
  | nil =>
      cases pieces with
      | cons => simp [parameters?] at h
      | nil =>
          cases others with
          | nil => rfl
          | cons other => cases other <;> simp [parameters?] at h'
  | cons segment path ih =>
      cases pieces with
      | nil => cases segment <;> simp [parameters?] at h
      | cons piece pieces =>
          cases others with
          | nil => simp [parameters?] at h'
          | cons other others =>
              cases segment <;> cases other <;>
                simp only [parameters?, Option.ite_none_right_eq_some,
                  Option.ite_none_left_eq_some, Option.map_eq_some_iff] at h h' <;>
                grind [overlaps, String.toList_inj]

/-- Routes of one method that one path may fit are the same. -/
theorem unambiguous : ∀ route ∈ all, ∀ other ∈ all, route.method = other.method →
    overlaps route.path other.path = true →
    route.operation = other.operation ∧ route.path = other.path := by decide

end Route

namespace Call

variable {now : Instant} {request : HttpRequest} {call other : Call}

/-- A request that is addressed to a route gets to its operation. -/
theorem ofRequest_of_addresses (operation : Operation) {method : String} {path : List Segment}
    {parameters : List (List Char)}
    (routed : ∃ route ∈ Route.all,
      route.operation = operation ∧ route.method = method ∧ route.path = path)
    (whole : method ≠ "HEAD") (address : request.Addresses method path parameters) :
    ofRequest now request = read now request operation parameters := by
  obtain ⟨route, mem, rfl, rfl, rfl⟩ := routed
  obtain ⟨hmethod, hfits⟩ := address
  have hserving : serving request.method = route.method := by rw [hmethod, serving, if_neg whole]
  have hunder : (route, parameters) ∈ Route.under request.uri.path :=
    List.mem_filterMap.mpr ⟨route, mem, by rw [hfits]; rfl⟩
  unfold ofRequest
  split
  next hnone => simp [hnone] at hunder
  next =>
    split
    next other found hfound =>
      have hserved : other.method = serving request.method := by
        simpa using List.find?_some hfound
      obtain ⟨_, hother, hfits'⟩ := List.mem_filterMap.mp (List.mem_of_find?_eq_some hfound)
      obtain ⟨_, hfound', heq⟩ := Option.map_eq_some_iff.mp hfits'
      obtain ⟨rfl, rfl⟩ := Prod.mk.inj heq
      obtain ⟨hoperation, hpath⟩ := Route.unambiguous route mem _ hother
        (hserving.symm.trans hserved.symm) (Route.overlaps_of_parameters? hfits hfound')
      rw [← hpath, hfits] at hfound'
      rw [← hoperation, Option.some.inj hfound']
    next hnone =>
      exact absurd hserving.symm (by simpa using List.find?_eq_none.mp hnone _ hunder)

/-- A request that asks for a change makes the call that it asks for. -/
theorem ofRequest_of_asks (asks : request.Asks now call) : ofRequest now request = .ok call := by
  cases asks with
  | track address body =>
      rw [ofRequest_of_addresses .trackServer (by decide) (by decide) address]
      exact bind_pure_eq_ok.mpr ⟨_, body, rfl⟩
  | untrack address named =>
      rw [ofRequest_of_addresses .untrackServer (by decide) (by decide) address]
      exact bind_pure_eq_ok.mpr ⟨_, named, rfl⟩
  | invalidate address named =>
      rw [ofRequest_of_addresses .invalidateStatus (by decide) (by decide) address]
      exact bind_pure_eq_ok.mpr ⟨_, named, rfl⟩
  | publish address body =>
      rw [ofRequest_of_addresses .publishEvent (by decide) (by decide) address]
      exact bind_pure_eq_ok.mpr ⟨_, body, rfl⟩
  | grant address viewerNamed serverNamed body =>
      rw [ofRequest_of_addresses .grantRole (by decide) (by decide) address]
      exact bind_eq_ok.mpr ⟨_, viewerNamed, bind_eq_ok.mpr ⟨_, serverNamed,
        bind_pure_eq_ok.mpr ⟨_, body, rfl⟩⟩⟩
  | revoke address named =>
      rw [ofRequest_of_addresses .revokeViewer (by decide) (by decide) address]
      exact bind_pure_eq_ok.mpr ⟨_, named, rfl⟩
  | watch address head =>
      rw [ofRequest_of_addresses .watch (by decide) (by decide) address]
      exact bind_pure_eq_ok.mpr ⟨_, head, rfl⟩

theorem method_of_asks (asks : request.Asks now call) :
    request.method ∈ ["POST", "DELETE", "PUT", "GET"] := by
  cases asks <;> simp [‹request.Addresses _ _ _›.1]

/-- A request asks for one thing at most. -/
theorem eq_of_asks (asks : request.Asks now call) (asksToo : request.Asks now other) :
    call = other :=
  Except.ok.inj ((ofRequest_of_asks asks).symm.trans (ofRequest_of_asks asksToo))

end Call

/-- A request that asks for a change is answered by what is performed for it. -/
theorem Gateway.respond_of_asks {now : Instant} {request : HttpRequest} {call : Call}
    (asks : request.Asks now call) (g : Gateway) : g.respond now request = g.perform now call := by
  have hmethod := Call.method_of_asks asks
  have hoptions : request.method ≠ "OPTIONS" := by
    intro heq
    simp [heq] at hmethod
  have hhead : request.method ≠ "HEAD" := by
    intro heq
    simp [heq] at hmethod
  simp [respond, hoptions, hhead, Call.ofRequest_of_asks asks]

end Flotilla
