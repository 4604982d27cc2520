import Flotilla.Proofs.RoleChange.News

/-!
# The roles of a viewer who connects

The roles of a viewer who connects are looked up first, and the subscription is taken out
afterwards. A change that is recorded and told between the two is neither in the roles that
were looked up nor among the events of the subscription, so that nothing tells the viewer of
it. Any event that lists the viewer makes up for it, as the roles are looked up again then.
-/

namespace Flotilla

namespace Office

/-- Roles change only when a change of them is recorded. -/
theorem Run.rolesOf {o o' : Office} {moves : List Move} {viewer : ViewerId} (run : Run o moves o')
    (others : ∀ change, .record change ∈ moves → change.viewer ≠ viewer) :
    o'.authority.rolesOf viewer = o.authority.rolesOf viewer := by
  refine run.invariant (P := fun o' =>
    o'.authority.rolesOf viewer = o.authority.rolesOf viewer) ?_ rfl
  intro move hmove s t h stepped
  cases move with
  | record change =>
      obtain rfl := Option.some.inj stepped
      exact (RoleChange.rolesOf_record_of_ne (others change hmove) _).trans h
  | tell change now =>
      simp only [step] at stepped
      split at stepped
      next =>
        obtain rfl := Option.some.inj stepped
        exact h
      next => simp at stepped
  | publish event =>
      simp only [step] at stepped
      split at stepped
      next =>
        obtain rfl := Option.some.inj stepped
        exact h
      next => simp at stepped
  | close =>
      obtain rfl := Option.some.inj stepped
      exact h

end Office

namespace Scene

variable {s t : Scene} {start : Nat} {roles recorded initial : Roles} {move : Move}
  {moves : List Move}

/-- That no event of the subscription lists the viewer. -/
def Unnamed (start : Nat) (s : Scene) : Prop :=
  ∀ position, start ≤ position → ¬ s.watch.Names position

/-- How a viewer stands whom no event has listed: they hold the roles that they came with,
and the roles on record are those of the beginning, up to changes that are not told yet. -/
structure Undisturbed (roles recorded : Roles) (s : Scene) : Prop where
  unrefreshed : s.watch.Unrefreshed
  held : s.watch.subscription.roles = roles
  onRecord : s.authority.rolesOf s.viewer = recorded ∨
    ∃ change ∈ s.untold, change.viewer = s.viewer

theorem Unnamed.of_steps (h : Unnamed start t) (steps : Steps s move t) : Unnamed start s :=
  fun position hstart names => h position hstart (steps.grows.names names)

theorem Unnamed.isLoading (h : Unnamed start s) (account : s.watch.Account start initial)
    (unrefreshed : s.watch.Unrefreshed) : s.watch.subscription.isLoading = false := by
  cases hloading : s.watch.subscription.isLoading with
  | false => rfl
  | true => exact absurd (account.names_of_isLoading unrefreshed hloading) (h _ account.start_le)

theorem Undisturbed.step (h : Undisturbed roles recorded s)
    (account : s.watch.Account start initial) (steps : Steps s move t) (hmove : move ≠ .refresh)
    (unnamed : Unnamed start t) : Undisturbed roles recorded t := by
  have unrefreshed := steps.unrefreshed h.unrefreshed hmove
  have hloading := (unnamed.of_steps steps).isLoading account h.unrefreshed
  cases steps with
  | @record change =>
      refine ⟨unrefreshed, h.held, ?_⟩
      by_cases hviewer : change.viewer = s.viewer
      · by_cases htold : change.IsTold s.authority
        · exact .inr ⟨change, by simp [htold], hviewer⟩
        · simpa [viewer, htold, RoleChange.rolesOf_record_of_not_isTold htold] using h.onRecord
      · rcases h.onRecord with heq | ⟨other, hmem, hother⟩
        · exact .inl ((RoleChange.rolesOf_record_of_ne hviewer _).trans heq)
        · refine .inr ⟨other, ?_, hother⟩
          simp only
          split
          · exact List.mem_cons_of_mem _ hmem
          · exact hmem
  | @tell change now watch untold published =>
      cases published with
      | publish =>
          have hstart : start ≤ s.watch.bus.log.size :=
            Nat.le_trans account.start_le account.decided_le_size
          -- A change of the viewer would be told by an event that lists them.
          have hviewer : change.viewer ≠ s.viewer := by
            intro heq
            refine unnamed s.watch.bus.log.size hstart ⟨change.event now, by simp, ?_⟩
            exact (change.affects_event now _).mpr heq
          refine ⟨unrefreshed, h.held, ?_⟩
          rcases h.onRecord with heq | ⟨other, hmem, hother⟩
          · exact .inl heq
          · have hne : other ≠ change := fun heq => hviewer (heq ▸ hother)
            exact .inr ⟨other, (List.mem_erase_of_ne hne).mpr hmem, hother⟩
  | publish published =>
      cases published with
      | publish => exact ⟨unrefreshed, h.held, h.onRecord⟩
  | close closed =>
      cases closed with
      | close => exact ⟨unrefreshed, h.held, h.onRecord⟩
  | refresh => exact absurd rfl hmove
  | forward forwarded =>
      cases forwarded with
      | forward forwards =>
          refine ⟨unrefreshed, (forwards.roles_of_not_isLoading hloading).trans h.held, ?_⟩
          simpa only [viewer, forwards.viewer] using h.onRecord
  | take taken =>
      cases taken with
      | take => exact ⟨unrefreshed, h.held, h.onRecord⟩

/-- A viewer whom no event lists stays as they came. -/
theorem Run.undisturbed (run : Run s moves t) (account : s.watch.Account start initial)
    (requestless : .refresh ∉ moves) (unnamed : Unnamed start t)
    (h : Undisturbed roles recorded s) : Undisturbed roles recorded t := by
  have invariant := run.invariant (P := fun s => s.watch.Account start initial ∧
    (Unnamed start s → Undisturbed roles recorded s)) ?_ ⟨account, fun _ => h⟩
  · exact invariant.2 unnamed
  · rintro move hmove s t ⟨account, h⟩ stepped
    have steps := steps_of_step stepped
    refine ⟨steps.account account, fun hunnamed => ?_⟩
    exact (h (hunnamed.of_steps steps)).step account steps
      (fun heq => requestless (heq ▸ hmove)) hunnamed

/-- Once an event lists the viewer, they are informed, whatever roles they came with. -/
theorem Run.informed_of_names (run : Run s moves t) (account : s.watch.Account start initial)
    (kept : t.watch.ledger.losses = []) (unnamed : Unnamed start s)
    (named : ¬ Unnamed start t) : Informed t.watch.bus.log.size t := by
  have invariant := run.invariant_of_kept (P := fun s => s.watch.Account start initial ∧
    (¬ Unnamed start s → Informed s.watch.bus.log.size s)) kept ?_
    ⟨account, fun h => absurd unnamed h⟩
  · exact invariant.2 named
  · rintro move - s t ⟨account, h⟩ steps hkept
    refine ⟨steps.account account, fun hnamed => ?_⟩
    simp only [Unnamed, not_forall, not_not] at hnamed
    obtain ⟨position, hstart, names⟩ := hnamed
    -- An event that lists the viewer is either still to come or was there before the move.
    by_cases ahead : t.watch.subscription.receiver.next ≤ position
    · obtain ⟨event, present, -⟩ := id names
      exact .upcoming ahead (Subscription.lt_size_of_present present) names
    · have hlt : position < s.watch.bus.log.size := by
        have := steps.next_le account
        omega
      have hbefore : ¬ Unnamed start s :=
        fun hunnamed => hunnamed position hstart (steps.grows.names_of_lt hlt names)
      exact (h hbefore).step_size account steps hkept

/-- An informed viewer whom nothing is left to tell holds the roles on record. -/
theorem Informed.roles_eq (h : Informed t.watch.bus.log.size t)
    (account : t.watch.Account start initial) (unrefreshed : t.watch.Unrefreshed)
    (consumed : t.watch.decided = t.watch.bus.log.size)
    (told : ∀ change ∈ t.untold, change.viewer ≠ t.viewer) :
    t.watch.subscription.roles = t.authority.rolesOf t.viewer := by
  cases h with
  | current roles => exact roles
  | upcoming ahead below =>
      have hnext : t.watch.decided ≤ t.watch.subscription.receiver.next :=
        Subscription.decided_le_next _
      omega
  | asking asked =>
      obtain ⟨event, present, -⟩ := account.names_of_isLoading unrefreshed asked
      have hlt := Subscription.lt_size_of_present present
      omega
  | recorded untold concerned => exact absurd concerned (told _ untold)

section Accepted

variable {o o' : Office} {viewer : ViewerId} {minRole : Role} {capacity : Nat}
  {offices : List Office.Move}

/-- A viewer whom no event lists holds in the end what they came with, and what is on record
was on record when they came. -/
theorem roles_of_unnamed (accepted : o.accept? viewer minRole roles capacity = some s)
    (run : Run s moves t) (requestless : .refresh ∉ moves)
    (told : ∀ change ∈ t.untold, change.viewer ≠ viewer) (unnamed : Unnamed o.bus.log.size t) :
    t.watch.subscription.roles = roles ∧
      t.authority.rolesOf viewer = o.authority.rolesOf viewer := by
  obtain ⟨opened, hauthority, -⟩ := Office.open?_of_accept? accepted
  have hviewer := viewer_of_accept? accepted
  have ht : t.viewer = viewer := run.grows.viewer.trans hviewer
  have unrefreshed := Watch.unrefreshed_of_open opened
  have undisturbed : Undisturbed roles (o.authority.rolesOf viewer) t := by
    refine run.undisturbed (Watch.account_of_open opened) requestless unnamed
      ⟨unrefreshed, ?_, .inl ?_⟩
    · rw [Watch.eq_of_open opened]
    · rw [hviewer, hauthority]
  refine ⟨undisturbed.held, ?_⟩
  rcases undisturbed.onRecord with heq | ⟨change, hmem, hchange⟩
  · rw [← heq, ht]
  · exact absurd (hchange.trans ht) (told change hmem)

/-- A viewer whom some event lists holds in the end what is on record. -/
theorem roles_of_named (accepted : o.accept? viewer minRole roles capacity = some s)
    (run : Run s moves t) (requestless : .refresh ∉ moves) (kept : t.watch.ledger.losses = [])
    (told : ∀ change ∈ t.untold, change.viewer ≠ viewer)
    (consumed : t.watch.decided = t.watch.bus.log.size) (named : ¬ Unnamed o.bus.log.size t) :
    t.watch.subscription.roles = t.authority.rolesOf viewer := by
  obtain ⟨opened, -, -⟩ := Office.open?_of_accept? accepted
  have account := Watch.account_of_open opened
  have unrefreshed := run.unrefreshed (Watch.unrefreshed_of_open opened) requestless
  have ht : t.viewer = viewer := run.grows.viewer.trans (viewer_of_accept? accepted)
  have unnamed : Unnamed o.bus.log.size s := by
    rintro position hstart ⟨event, present, -⟩
    have hlt := Subscription.lt_size_of_present present
    simp only [Watch.eq_of_open opened, Bus.log_join] at hlt
    omega
  have informed := run.informed_of_names account kept unnamed named
  rw [← ht] at told ⊢
  exact informed.roles_eq (run.account account) unrefreshed consumed told

/-- When a viewer who connected holds the roles on record in the end. Their roles are looked
up, then the subscription is taken out, and any changes of roles go on meanwhile and
afterwards. Let all of them be told in the end, let nothing be lost or requested, and let
the forwarder have decided on every event. Then the roles held are those on record exactly
if an event of the subscription listed the viewer, or if what was looked up agreed with the
record at the moment at which the subscription was taken out. That is so if no change of
their roles was recorded in between. -/
theorem snapshot_current_iff (between : Office.Run o offices o')
    (accepted : o'.accept? viewer minRole (o.authority.rolesOf viewer) capacity = some s)
    (run : Run s moves t) (requestless : .refresh ∉ moves)
    (kept : t.watch.ledger.losses = []) (told : ∀ change ∈ t.untold, change.viewer ≠ viewer)
    (consumed : t.watch.decided = t.watch.bus.log.size) :
    ((∀ server, t.watch.subscription.roles.roleOn server =
        (t.authority.rolesOf viewer).roleOn server) ↔
      (∃ position, o'.bus.log.size ≤ position ∧ t.watch.Names position) ∨
      ∀ server, (o.authority.rolesOf viewer).roleOn server =
        (o'.authority.rolesOf viewer).roleOn server) ∧
    ((∀ change, .record change ∈ offices → change.viewer ≠ viewer) →
      ∀ server, t.watch.subscription.roles.roleOn server =
        (t.authority.rolesOf viewer).roleOn server) := by
  have hiff : (∀ server, t.watch.subscription.roles.roleOn server =
      (t.authority.rolesOf viewer).roleOn server) ↔
      (∃ position, o'.bus.log.size ≤ position ∧ t.watch.Names position) ∨
      ∀ server, (o.authority.rolesOf viewer).roleOn server =
        (o'.authority.rolesOf viewer).roleOn server := by
    by_cases unnamed : Unnamed o'.bus.log.size t
    · obtain ⟨hheld, hrecord⟩ := roles_of_unnamed accepted run requestless told unnamed
      rw [hheld, hrecord]
      constructor
      · exact .inr
      · rintro (⟨position, hstart, names⟩ | hagree)
        · exact absurd names (unnamed position hstart)
        · exact hagree
    · rw [roles_of_named accepted run requestless kept told consumed unnamed]
      simp only [Unnamed, not_forall, not_not] at unnamed
      obtain ⟨position, hstart, names⟩ := unnamed
      exact ⟨fun _ => .inl ⟨position, hstart, names⟩, fun _ _ => rfl⟩
  refine ⟨hiff, fun others => hiff.mpr (.inr ?_)⟩
  intro server
  rw [between.rolesOf others]

/-- A change that is recorded while the viewer connects and told afterwards is not missed. -/
theorem snapshot_current_sample : ∃ (o' : Office) (s t : Scene),
    Office.Run Sample.office [.record Sample.grant] o' ∧
    o'.accept? Sample.viewer .user (Sample.office.authority.rolesOf Sample.viewer) 1 = some s ∧
    Run s [.office (.tell Sample.grant Sample.midnight), .forward, .forward] t ∧
    ∀ server, t.watch.subscription.roles.roleOn server =
      (t.authority.rolesOf Sample.viewer).roleOn server := by
  obtain ⟨o', s, t, ho, hs, ht, hkept, htold, hconsumed, hnames⟩ : ∃ o' s t,
      run? Office.step [.record Sample.grant] Sample.office = some o' ∧
      o'.accept? Sample.viewer .user (Sample.office.authority.rolesOf Sample.viewer) 1 = some s ∧
      run? step [.office (.tell Sample.grant Sample.midnight), .forward, .forward] s = some t ∧
      t.watch.ledger.losses = [] ∧ t.untold = [] ∧ t.watch.decided = t.watch.bus.log.size ∧
      o'.bus.log.size ≤ 0 ∧ t.watch.Names 0 :=
    ⟨_, _, _, rfl, rfl, rfl, rfl, rfl, rfl, Nat.le_refl 0, _, rfl, by decide⟩
  have hcurrent := snapshot_current_iff (run?_iff.mp ho) hs (run?_iff.mp ht) (by simp) hkept
    (by simp [htold]) hconsumed
  exact ⟨o', s, t, run?_iff.mp ho, hs, run?_iff.mp ht, hcurrent.1.mpr (.inl ⟨0, hnames⟩)⟩

/-- A change that is recorded and told while the viewer connects is missed: an event that they
may see is dropped, and it stays that way. -/
theorem not_always_snapshot_current : ¬ ∀ (o o' : Office) (offices : List Office.Move)
    (viewer : ViewerId) (minRole : Role) (capacity : Nat) (s t : Scene) (moves : List Move),
    Office.Run o offices o' →
    o'.accept? viewer minRole (o.authority.rolesOf viewer) capacity = some s →
    Run s moves t → .refresh ∉ moves → t.watch.ledger.losses = [] → t.untold = [] →
    t.watch.Quiet →
    ∀ server, t.watch.subscription.roles.roleOn server =
      (t.authority.rolesOf viewer).roleOn server := by
  intro h
  obtain ⟨o', s, t, ho, hs, ht, hkept, htold, hquiet, hroles⟩ : ∃ o' s t,
      run? Office.step [.record Sample.grant, .tell Sample.grant Sample.midnight] Sample.office =
        some o' ∧
      o'.accept? Sample.viewer .user (Sample.office.authority.rolesOf Sample.viewer) 1 = some s ∧
      run? step [.office (.publish Sample.players), .forward, .forward] s = some t ∧
      t.watch.ledger.losses = [] ∧ t.untold = [] ∧ t.watch.Quiet ∧
      t.watch.subscription.roles.roleOn Sample.server ≠
        (t.authority.rolesOf Sample.viewer).roleOn Sample.server :=
    ⟨_, _, _, rfl, rfl, rfl, rfl, rfl, ⟨fun _ => rfl, rfl⟩, by decide⟩
  exact hroles (h _ _ _ _ _ _ s t _ (run?_iff.mp ho) hs (run?_iff.mp ht) (by simp) hkept htold
    hquiet Sample.server)

end Accepted

end Scene

end Flotilla
