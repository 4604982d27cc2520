import Flotilla.Proofs.Http.Routing
import Flotilla.Proofs.RoleChange.Office
import Flotilla.Proofs.Run

/-!
# Viewers struck off the record

What requests say about a viewer stands until it is undone: a role until another word on the same
server, and the record of the viewer until they are struck off. A viewer is on record from the first
role on that is given to them, even if it is no role, so whoever is on record need not hold any
role. To strike off a viewer is refused exactly if they are not on record.
-/

namespace Flotilla

namespace Gateway

/-- A role, or none, has been given to the viewer, who has not been struck off since. -/
def OnRecord (viewer : ViewerId) : List (Instant × HttpRequest) → Prop :=
  Lasting (fun entry => ∃ server role, entry.2.Asks entry.1 (.grantRole viewer server role))
    fun entry => entry.2.Asks entry.1 (.revokeViewer viewer)

/-- The role has been given to the viewer on the server, and there is no other word on it since. -/
def Granted (viewer : ViewerId) (server : ServerId) (role : Role) :
    List (Instant × HttpRequest) → Prop :=
  Lasting (fun entry => entry.2.Asks entry.1 (.grantRole viewer server role))
    fun entry => entry.2.Asks entry.1 (.revokeViewer viewer) ∨
      ∃ other, entry.2.Asks entry.1 (.grantRole viewer server other)

variable {g : Gateway} {now : Instant} {request : HttpRequest} {viewer : ViewerId}
  {requests : List (Instant × HttpRequest)}

theorem respond_grant {server : ServerId} {role : Role}
    (asks : request.Asks now (.grantRole viewer server role)) (g : Gateway) :
    (g.respond now request).2 = g.grant now viewer server role := by
  rw [respond_of_asks asks]
  rfl

theorem respond_revoke_unknown (asks : request.Asks now (.revokeViewer viewer))
    (unknown : g.authority.viewers.get? viewer = none) :
    g.respond now request = (some (Refusal.unknownViewer viewer).response, g) := by
  simp [respond_of_asks asks, perform, dismiss, revoke, Authority.revoke, Index.contains, unknown]

theorem respond_revoke_known (asks : request.Asks now (.revokeViewer viewer))
    (known : (g.authority.viewers.get? viewer).isSome = true) :
    g.respond now request =
      (some (.bare 204), ((g.withAuthority ⟨g.authority.viewers.erase viewer⟩).publish
        ⟨.updated none (some [viewer]), now⟩).2) := by
  simp [respond_of_asks asks, perform, dismiss, revoke, Authority.revoke, Index.contains, known]

/-- What a request does to the record of a viewer. -/
theorem viewers_respond (g : Gateway) (now : Instant) (request : HttpRequest) (viewer : ViewerId) :
    (∃ server role, request.Asks now (.grantRole viewer server role) ∧
        (g.respond now request).2.authority.viewers.get? viewer =
          some ((g.authority.rolesOf viewer).set server role)) ∨
      request.Asks now (.revokeViewer viewer) ∧
        (g.respond now request).2.authority.viewers.get? viewer = none ∨
      (∀ server role, ¬request.Asks now (.grantRole viewer server role)) ∧
        ¬request.Asks now (.revokeViewer viewer) ∧
        (g.respond now request).2.authority.viewers.get? viewer =
          g.authority.viewers.get? viewer := by
  by_cases hgrant : ∃ server role, request.Asks now (.grantRole viewer server role)
  · obtain ⟨server, role, asks⟩ := hgrant
    refine .inl ⟨server, role, asks, ?_⟩
    simp [respond_grant asks, Authority.grant, Authority.rolesOf]
  by_cases hrevoke : request.Asks now (.revokeViewer viewer)
  · refine .inr (.inl ⟨hrevoke, ?_⟩)
    cases hknown : g.authority.viewers.get? viewer with
    | none => rw [respond_revoke_unknown hrevoke hknown, hknown]
    | some roles =>
        rw [respond_revoke_known hrevoke (by rw [hknown]; rfl)]
        simp
  · simp only [not_exists] at hgrant
    refine .inr (.inr ⟨hgrant, hrevoke, ?_⟩)
    rcases g.performs_respond now request with hsame | ⟨call, made, performs⟩
    · rw [hsame]
    · by_contra changed
      rcases performs.roles changed with ⟨server, role, rfl, -⟩ | ⟨rfl, -⟩
      · exact hgrant server role (Call.asks_of_ofRequest made rfl)
      · exact hrevoke (Call.asks_of_ofRequest made rfl)

/-- What the authority has on record of a viewer after some requests. -/
structure Recorded (viewer : ViewerId) (requests : List (Instant × HttpRequest)) (g : Gateway) :
    Prop where
  known : (g.authority.viewers.get? viewer).isSome = true ↔ OnRecord viewer requests
  held : ∀ server role, role ≠ .none →
    ((g.authority.rolesOf viewer).roleOn server = role ↔ Granted viewer server role requests)

theorem recorded_create {settings : Settings} (created : create? settings = some g)
    (viewer : ViewerId) : Recorded viewer [] g := by
  obtain ⟨bus, -, rfl⟩ := Option.map_eq_some_iff.mp created
  constructor
  case known => exact iff_of_false Bool.false_ne_true not_lasting_nil
  case held =>
    intro server role proper
    exact iff_of_false (fun none => proper none.symm) not_lasting_nil

namespace Recorded

variable {next : Gateway}

theorem grant {given : ServerId} {granted : Role} (recorded : Recorded viewer requests g)
    (asks : request.Asks now (.grantRole viewer given granted))
    (hviewers : next.authority.viewers.get? viewer =
      some ((g.authority.rolesOf viewer).set given granted)) :
    Recorded viewer (requests ++ [(now, request)]) next := by
  have unrevoked : ¬request.Asks now (.revokeViewer viewer) := by
    intro revoked
    cases Call.eq_of_asks asks revoked
  constructor
  case known =>
    rw [hviewers]
    exact iff_of_true rfl (lasting_concat_iff.mpr (.inl ⟨given, granted, asks⟩))
  case held =>
    intro server role proper
    rw [Authority.rolesOf, hviewers, Option.getD_some, Roles.roleOn_set, Granted,
      lasting_concat_iff]
    split
    case isTrue heq =>
      -- whatever was said of this server before counts no more
      subst heq
      constructor
      · rintro rfl
        exact .inl asks
      · rintro (regranted | ⟨-, undisturbed⟩)
        · cases Call.eq_of_asks asks regranted
          rfl
        · exact absurd (.inr ⟨granted, asks⟩) undisturbed
    case isFalse hne =>
      have elsewhere : ∀ other, ¬request.Asks now (.grantRole viewer server other) := by
        intro other regranted
        cases Call.eq_of_asks asks regranted
        exact hne rfl
      rw [recorded.held server role proper]
      simp [elsewhere, unrevoked, Granted]

theorem revoke (asks : request.Asks now (.revokeViewer viewer))
    (hviewers : next.authority.viewers.get? viewer = none) :
    Recorded viewer (requests ++ [(now, request)]) next := by
  have ungranted : ∀ server role, ¬request.Asks now (.grantRole viewer server role) := by
    intro server role granted
    cases Call.eq_of_asks asks granted
  constructor
  case known =>
    rw [hviewers, OnRecord, lasting_concat_iff]
    simp [ungranted, asks]
  case held =>
    intro server role proper
    rw [Authority.rolesOf, hviewers, Option.getD_none, Roles.roleOn_empty, Granted,
      lasting_concat_iff]
    simp [ungranted, asks, proper.symm]

theorem spare (recorded : Recorded viewer requests g)
    (ungranted : ∀ server role, ¬request.Asks now (.grantRole viewer server role))
    (unrevoked : ¬request.Asks now (.revokeViewer viewer))
    (hviewers : next.authority.viewers.get? viewer = g.authority.viewers.get? viewer) :
    Recorded viewer (requests ++ [(now, request)]) next := by
  constructor
  case known =>
    rw [hviewers, recorded.known, OnRecord, lasting_concat_iff]
    simp [ungranted, unrevoked]
  case held =>
    intro server role proper
    rw [Authority.rolesOf, hviewers, Granted, lasting_concat_iff]
    exact (recorded.held server role proper).trans (by simp [ungranted, unrevoked, Granted])

/-- A request changes the record by what it says of the viewer. -/
theorem respond (recorded : Recorded viewer requests g) (now : Instant) (request : HttpRequest) :
    Recorded viewer (requests ++ [(now, request)]) (g.respond now request).2 := by
  rcases g.viewers_respond now request viewer with
    ⟨server, role, asks, hviewers⟩ | ⟨asks, hviewers⟩ | ⟨ungranted, unrevoked, hviewers⟩
  · exact recorded.grant asks hviewers
  · exact .revoke asks hviewers
  · exact recorded.spare ungranted unrevoked hviewers

end Recorded

theorem serve_concat (g : Gateway) (requests : List (Instant × HttpRequest)) (now : Instant)
    (request : HttpRequest) :
    g.serve (requests ++ [(now, request)]) = ((g.serve requests).respond now request).2 := by
  induction requests generalizing g with
  | nil => rfl
  | cons entry rest ih => exact ih _

/-- The record of a viewer is what the requests say about them, however many there are. -/
theorem recorded_serve {settings : Settings} (created : create? settings = some g)
    (viewer : ViewerId) (requests : List (Instant × HttpRequest)) :
    Recorded viewer requests (g.serve requests) := by
  induction requests using List.reverseRecOn with
  | nil => exact recorded_create created viewer
  | append_singleton requests entry ih =>
      rw [serve_concat]
      exact ih.respond entry.1 entry.2

/-- Whoever holds a role is on record. -/
theorem onRecord_of_granted {server : ServerId} {role : Role}
    (h : Granted viewer server role requests) : OnRecord viewer requests :=
  h.mono (fun granted => ⟨server, role, granted⟩) .inl

/-- What it comes to that a viewer is to be struck off after some requests. -/
structure Dismissed (viewer : ViewerId) (requests : List (Instant × HttpRequest)) (now : Instant)
    (before : Gateway) (answer : Option HttpResponse) (after : Gateway) : Prop where
  /-- It is refused exactly if the viewer is not on record. -/
  refused_iff : answer = some (Refusal.unknownViewer viewer).response ↔ ¬OnRecord viewer requests
  /-- Nothing happens then. -/
  untouched : ¬OnRecord viewer requests → after = before
  /-- Otherwise it is done, and told to everybody. -/
  done : OnRecord viewer requests → answer = some (.bare 204) ∧
    after.observatory.bus.log =
      before.observatory.bus.log.push ⟨.updated none (some [viewer]), now⟩
  /-- The viewer is not on record afterwards. -/
  struckOff : after.authority.load viewer = .error (.unknownViewer viewer)
  /-- Nobody else is concerned. -/
  others : ∀ other, other ≠ viewer →
    after.authority.viewers.get? other = before.authority.viewers.get? other
  /-- Nobody is refused who held a role. -/
  roleless : answer = some (Refusal.unknownViewer viewer).response →
    ∀ server, (before.authority.rolesOf viewer).roleOn server = .none
  /-- The roles that were held are those that were given last. -/
  held : ∀ server role, role ≠ .none →
    ((before.authority.rolesOf viewer).roleOn server = role ↔ Granted viewer server role requests)
  /-- It is refused exactly if no role was held, unless the viewer was on record without any. -/
  faithful_iff : (answer = some (Refusal.unknownViewer viewer).response ↔
      ∀ server, (before.authority.rolesOf viewer).roleOn server = .none) ↔
    (OnRecord viewer requests → ∃ server role, role ≠ .none ∧ Granted viewer server role requests)

/-- No role is held exactly if none that was given still stands. -/
theorem Recorded.roleless_iff (recorded : Recorded viewer requests g) :
    (∀ server, (g.authority.rolesOf viewer).roleOn server = .none) ↔
      ¬∃ server role, role ≠ .none ∧ Granted viewer server role requests := by
  constructor
  · rintro roleless ⟨server, role, proper, granted⟩
    exact proper (((recorded.held server role proper).mpr granted).symm.trans (roleless server))
  · intro ungranted server
    by_contra proper
    exact ungranted ⟨server, _, proper, (recorded.held server _ proper).mp rfl⟩

theorem Recorded.dismissed (recorded : Recorded viewer requests g)
    (asks : request.Asks now (.revokeViewer viewer)) :
    Dismissed viewer requests now g (g.respond now request).1 (g.respond now request).2 := by
  have hknown := recorded.known
  cases hviewers : g.authority.viewers.get? viewer with
  | none =>
      have unrecorded : ¬OnRecord viewer requests := by simpa [hviewers] using hknown
      have roleless : ∀ server, (g.authority.rolesOf viewer).roleOn server = .none := by
        refine recorded.roleless_iff.mpr ?_
        rintro ⟨server, role, -, granted⟩
        exact unrecorded (onRecord_of_granted granted)
      rw [respond_revoke_unknown asks hviewers]
      exact {
        refused_iff := iff_of_true rfl unrecorded
        untouched := fun _ => rfl
        done := fun onRecord => absurd onRecord unrecorded
        struckOff := by simp [Authority.load, hviewers]
        others := fun _ _ => rfl
        roleless := fun _ => roleless
        held := recorded.held
        faithful_iff := iff_of_true (iff_of_true rfl roleless) (absurd · unrecorded) }
  | some roles =>
      have onRecord : OnRecord viewer requests := by simpa [hviewers] using hknown
      have accepted :
          some (HttpResponse.bare 204) ≠ some (Refusal.unknownViewer viewer).response := by
        intro heq
        have hstatus := congrArg HttpResponse.status (Option.some.inj heq)
        cases hstatus
      rw [respond_revoke_known asks (by rw [hviewers]; rfl)]
      exact {
        refused_iff := iff_of_false accepted (not_not_intro onRecord)
        untouched := fun unrecorded => absurd onRecord unrecorded
        done := fun _ => ⟨rfl, rfl⟩
        struckOff := by simp [Authority.load]
        others := fun other hne => by simp [hne]
        roleless := fun refused => absurd refused accepted
        held := recorded.held
        faithful_iff := by
          rw [recorded.roleless_iff]
          simp [accepted, onRecord] }

end Gateway

namespace Sample

/-- Somebody who has never been given a role. -/
def novice : ViewerId := ⟨7, by decide⟩

/-- A request to give the viewer a role on a server. -/
def appointment (role : Role) : HttpRequest where
  method := "PUT"
  uri := ⟨[], none, ("/api/v1/viewers/00000000-0000-0000-0000-000000000007" ++
    "/roles/00000000-0000-0000-0000-000000000003").toList, none⟩
  headers := [⟨"content-type", "application/json"⟩]
  body := "\x7b\"role\":\"" ++ role.name ++ "\"\x7d"
  handover := none

/-- A request to strike the viewer off the record. -/
def farewell : HttpRequest where
  method := "DELETE"
  uri := ⟨[], none, "/api/v1/viewers/00000000-0000-0000-0000-000000000007".toList, none⟩
  headers := []
  body := ""
  handover := none

theorem asks_appointment (now : Instant) (role : Role) :
    (appointment role).Asks now (.grantRole novice host.id role) := by
  have address : (appointment role).Addresses "PUT"
      (Route.viewer ++ [.fixed "roles", .parameter "id"])
      ["00000000-0000-0000-0000-000000000007".toList,
        "00000000-0000-0000-0000-000000000003".toList] := by
    cases role <;> exact ⟨rfl, by decide +kernel⟩
  have body : (appointment role).content Role.decodeGrant = .ok role := by
    cases role <;> decide +kernel
  exact .grant address (by decide +kernel) (by decide +kernel) body

theorem asks_farewell (now : Instant) : farewell.Asks now (.revokeViewer novice) := by
  have address : farewell.Addresses "DELETE" Route.viewer
      ["00000000-0000-0000-0000-000000000007".toList] := ⟨rfl, by decide +kernel⟩
  exact .revoke address (by decide +kernel)

end Sample

namespace Gateway

/-- Whatever was asked of the gateway since it was set up: to strike off a viewer is refused,
without any effect, exactly if the viewer is not on record. It is done otherwise, also for whoever
is on record without a role. -/
theorem dismissal_exact {settings : Settings} (created : create? settings = some g)
    (requests : List (Instant × HttpRequest)) (asks : request.Asks now (.revokeViewer viewer)) :
    Dismissed viewer requests now (g.serve requests) ((g.serve requests).respond now request).1
      ((g.serve requests).respond now request).2 :=
  (recorded_serve created viewer requests).dismissed asks

/-- A viewer who was given a role is struck off. -/
theorem dismissal_exact_sample : ∃ settings g,
    Settings.read (fun _ => none) = .ok settings ∧ create? settings = some g ∧
      (((g.serve [(Sample.morning, Sample.appointment .admin)]).authority.rolesOf
        Sample.novice).roleOn Sample.host.id = .admin) ∧
      ((g.serve [(Sample.morning, Sample.appointment .admin)]).respond Sample.morning
        Sample.farewell).1 = some (.bare 204) := by
  obtain ⟨settings, g, accepted, created⟩ : ∃ settings g,
      Settings.read (fun _ => none) = .ok settings ∧ create? settings = some g := ⟨_, _, rfl, rfl⟩
  have asks := Sample.asks_appointment Sample.morning .admin
  have dismissed := dismissal_exact created [(Sample.morning, Sample.appointment .admin)]
    (Sample.asks_farewell Sample.morning)
  have onRecord : OnRecord Sample.novice ([] ++ [(Sample.morning, Sample.appointment .admin)]) :=
    lasting_concat_iff.mpr (.inl ⟨_, _, asks⟩)
  have granted : Granted Sample.novice Sample.host.id .admin
      ([] ++ [(Sample.morning, Sample.appointment .admin)]) :=
    lasting_concat_iff.mpr (.inl asks)
  exact ⟨settings, g, accepted, created, (dismissed.held _ _ (by decide)).mpr granted,
    (dismissed.done onRecord).1⟩

/-- A viewer to whom nothing but no role was given is struck off too, though they hold none. -/
theorem not_always_refused : ∃ settings g,
    Settings.read (fun _ => none) = .ok settings ∧ create? settings = some g ∧
      ∃ requests, (∀ entry ∈ requests, entry.2.Asks entry.1
          (.grantRole Sample.novice Sample.host.id .none)) ∧
        Sample.farewell.Asks Sample.morning (.revokeViewer Sample.novice) ∧
        (∀ server, ((g.serve requests).authority.rolesOf Sample.novice).roleOn server = .none) ∧
        ((g.serve requests).respond Sample.morning Sample.farewell).1 = some (.bare 204) ∧
        ((g.serve requests).respond Sample.morning Sample.farewell).2 ≠ g.serve requests := by
  obtain ⟨settings, g, accepted, created⟩ : ∃ settings g,
      Settings.read (fun _ => none) = .ok settings ∧ create? settings = some g := ⟨_, _, rfl, rfl⟩
  have asks := Sample.asks_appointment Sample.morning .none
  have farewell := Sample.asks_farewell Sample.morning
  have recorded := recorded_serve created Sample.novice
    ([] ++ [(Sample.morning, Sample.appointment .none)])
  have onRecord : OnRecord Sample.novice ([] ++ [(Sample.morning, Sample.appointment .none)]) :=
    lasting_concat_iff.mpr (.inl ⟨_, _, asks⟩)
  obtain ⟨answered, told⟩ := (recorded.dismissed farewell).done onRecord
  refine ⟨settings, g, accepted, created, [(Sample.morning, Sample.appointment .none)],
    List.forall_mem_singleton.mpr asks, farewell, recorded.roleless_iff.mpr ?_, answered, ?_⟩
  · rintro ⟨server, role, proper, granted⟩
    rcases lasting_concat_iff.mp granted with asksToo | ⟨granted, -⟩
    · cases Call.eq_of_asks asks asksToo
      exact proper rfl
    · exact not_lasting_nil granted
  · intro heq
    rw [List.nil_append, heq] at told
    have hsize := congrArg Array.size told
    simp at hsize

end Gateway

end Flotilla
