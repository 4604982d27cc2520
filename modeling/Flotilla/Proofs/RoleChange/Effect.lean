import Flotilla.Proofs.RoleChange.News

/-!
# Role changes take effect

A viewer begins to watch with the roles on record. Their roles are changed any number of
times, by anybody, while events are published and forwarded. Once the last of these changes
has been told, every event published from then on is let through exactly if the final
roles of the viewer show it.
-/

namespace Flotilla

namespace Scene

variable {s t : Scene} {bound start : Nat} {roles initial : Roles} {move : Move} {moves : List Move}

/-- That the roles of the viewer on record are final, and what this makes of the decisions on
events from the position `bound` on. -/
structure Settled (bound : Nat) (roles : Roles) (s : Scene) : Prop where
  onRecord : s.authority.rolesOf s.viewer = roles
  told : ∀ change ∈ s.untold, change.viewer ≠ s.viewer
  informed : Informed bound s
  verdict : ∀ position admitted, .judged position admitted ∈ s.watch.ledger →
    bound ≤ position → ∃ event, s.watch.bus.log[position]? = some event ∧
      (admitted = true ↔ roles.Visible s.watch.subscription.minRole event)

namespace Settled

/-- Decisions that were made by the final roles stay what they are. -/
theorem verdict_of_grows (h : Settled bound roles s) (grows : s.watch.Grows t.watch)
    {position : Nat} {admitted : Bool} (hmem : .judged position admitted ∈ s.watch.ledger)
    (hbound : bound ≤ position) : ∃ event, t.watch.bus.log[position]? = some event ∧
      (admitted = true ↔ roles.Visible t.watch.subscription.minRole event) := by
  obtain ⟨event, present, hadmitted⟩ := h.verdict position admitted hmem hbound
  exact ⟨event, grows.log present, by rw [grows.minRole, hadmitted]⟩

/-- The forwarder decides by the final roles. News from below the bound would be found before
any event behind it. -/
theorem verdict_of_forwards (h : Settled bound roles s) (account : s.watch.Account start initial)
    {notes : Ledger} {subscription : Subscription}
    (forwards : s.watch.subscription.Forwards s.watch.bus (s.authority.load s.viewer) notes
      subscription) {position : Nat} {admitted : Bool}
    (hmem : .judged position admitted ∈ notes) (hbound : bound ≤ position) :
    ∃ event, s.watch.bus.log[position]? = some event ∧
      (admitted = true ↔ roles.Visible s.watch.subscription.minRole event) := by
  cases forwards with
  | heedGranted => simp at hmem
  | heedStored => simp at hmem
  | skip => simp at hmem
  | fetch => simp at hmem
  | @pass _ event selecting unasked present unaffected =>
      obtain ⟨rfl, rfl⟩ : position = s.watch.subscription.receiver.next ∧
          admitted = s.watch.subscription.admits event := by simpa using hmem
      -- Whatever is on its way stands below the bound, and the event does not.
      have hroles : s.watch.subscription.roles = roles := by
        cases h.informed with
        | current agree => exact agree.trans h.onRecord
        | upcoming ahead below => omega
        | asking loading => simp [Subscription.isLoading_of_selecting selecting] at loading
        | recorded hmem concerned => exact absurd concerned (h.told _ hmem)
      refine ⟨event, present, ?_⟩
      rw [Subscription.admits_iff, hroles]
  | park => simp at hmem
  | finish => simp at hmem
  | learn => simp at hmem
  | @learnFor event loading =>
      obtain ⟨last, hnext, present, -⟩ := account.attached.loading event loading
      obtain ⟨rfl, rfl⟩ := by simpa [hnext] using hmem
      refine ⟨event, present, ?_⟩
      rw [Subscription.admits_iff, ← h.onRecord]
      simp only [Authority.update_load]
  | release => simp at hmem

theorem step (h : Settled bound roles s) (account : s.watch.Account start initial)
    (steps : Steps s move t) (kept : t.watch.ledger.losses = [])
    (final : ∀ change, move = .office (.record change) → change.viewer ≠ s.viewer) :
    Settled bound roles t := by
  have grows := steps.grows
  have hinformed : Informed bound t := by
    apply h.informed.step steps kept
    intro change now hmove hviewer
    subst hmove
    cases steps with
    | tell recorded => exact absurd hviewer (h.told _ recorded)
  cases steps with
  | @record change =>
      refine ⟨?_, ?_, hinformed, fun _ _ => h.verdict_of_grows grows⟩
      · exact (RoleChange.rolesOf_record_of_ne (final change rfl) _).trans h.onRecord
      · intro other hmem
        simp only at hmem
        split at hmem
        · rcases List.mem_cons.mp hmem with rfl | hmem
          · exact final _ rfl
          · exact h.told other hmem
        · exact h.told other hmem
  | tell recorded published =>
      cases published with
      | publish =>
          refine ⟨h.onRecord, ?_, hinformed, fun _ _ => h.verdict_of_grows grows⟩
          intro other hmem
          exact h.told other (List.mem_of_mem_erase hmem)
  | publish published =>
      cases published with
      | publish => exact ⟨h.onRecord, h.told, hinformed, fun _ _ => h.verdict_of_grows grows⟩
  | close closed =>
      cases closed with
      | close => exact ⟨h.onRecord, h.told, hinformed, fun _ _ => h.verdict_of_grows grows⟩
  | refresh requested =>
      cases requested with
      | refresh =>
          rw [Subscription.requestRefresh_eq] at grows hinformed ⊢
          exact ⟨h.onRecord, h.told, hinformed, fun _ _ => h.verdict_of_grows grows⟩
  | forward forwarded =>
      cases forwarded with
      | forward forwards =>
          refine ⟨?_, ?_, hinformed, ?_⟩
          · simpa only [viewer, forwards.viewer] using h.onRecord
          · simpa only [viewer, forwards.viewer] using h.told
          · intro position admitted hmem hbound
            rcases List.mem_append.mp hmem with hmem | hmem
            · exact h.verdict_of_grows grows hmem hbound
            · obtain ⟨event, present, hadmitted⟩ :=
                h.verdict_of_forwards account forwards hmem hbound
              exact ⟨event, present, by rw [grows.minRole, hadmitted]⟩
  | take taken =>
      cases taken with
      | take => exact ⟨h.onRecord, h.told, hinformed, fun _ _ => h.verdict_of_grows grows⟩

end Settled

/-- As long as the roles of the viewer do not change again, all decisions are made by them. -/
theorem Run.settled (run : Run s moves t) (account : s.watch.Account start initial)
    (kept : t.watch.ledger.losses = [])
    (final : ∀ change, .office (.record change) ∈ moves → change.viewer ≠ s.viewer)
    (h : Settled bound roles s) : Settled bound roles t := by
  have invariant := run.invariant_of_kept (P := fun t => t.watch.Account start initial ∧
    t.viewer = s.viewer ∧ Settled bound roles t) kept ?_ ⟨account, rfl, h⟩
  · exact invariant.2.2
  · rintro move hmove s' t ⟨account, hviewer, h⟩ steps hkept
    refine ⟨steps.account account, steps.viewer.trans hviewer, h.step account steps hkept ?_⟩
    intro change heq
    rw [hviewer]
    exact final change (heq ▸ hmove)

/-- While nothing is on its way, the decisions from now on are those by the roles on record. -/
theorem settled_of_informed (account : s.watch.Account start initial)
    (informed : Informed s.watch.bus.log.size s)
    (told : ∀ change ∈ s.untold, change.viewer ≠ s.viewer) :
    Settled s.watch.bus.log.size (s.authority.rolesOf s.viewer) s := by
  refine ⟨rfl, told, informed, ?_⟩
  intro position admitted hmem hbound
  have hlt := (account.lt_of_mem (Ledger.mem_positions_of_judged hmem)).2
  have hle := account.decided_le_size
  omega

/-- What a forwarder has decided by final roles it has let through if they show it. -/
theorem Settled.mem_through_iff (h : Settled bound roles s)
    (account : s.watch.Account start initial) (kept : s.watch.ledger.losses = [])
    {position : Nat} {event : Event} (hstart : start ≤ position) (hbound : bound ≤ position)
    (present : s.watch.bus.log[position]? = some event) (decided : position < s.watch.decided) :
    position ∈ s.watch.ledger.through ↔
      roles.Visible s.watch.subscription.minRole event := by
  have hverdict {admitted : Bool} (hmem : .judged position admitted ∈ s.watch.ledger) :
      admitted = true ↔ roles.Visible s.watch.subscription.minRole event := by
    obtain ⟨event', present', hadmitted⟩ := h.verdict position admitted hmem hbound
    obtain rfl : event = event' := Option.some.inj (present.symm.trans present')
    exact hadmitted
  have hsettled : position ∈ s.watch.ledger.positions := by
    rw [account.positions, List.mem_range'_1]
    omega
  constructor
  · intro hmem
    exact (hverdict (Ledger.mem_through.mp hmem)).mp rfl
  · intro visible
    rcases Ledger.mem_positions hsettled with hlost | ⟨admitted, hjudged⟩
    · simp [kept] at hlost
    · obtain rfl := (hverdict hjudged).mpr visible
      exact Ledger.mem_through.mpr hjudged

section Accepted

variable {o : Office} {viewer : ViewerId} {minRole : Role} {capacity : Nat} {u : Scene}
  {early late : List Move}

/-- Role changes take effect. A viewer begins to watch with the roles on record, and in the
end no change of their roles is left to be told or made. An event that is published from
then on and that depends on a role is let through exactly if the viewer's final role on its
server is high enough, whoever moved when, provided that nothing was lost. What is let
through is what the reader has taken and what is on its way, and a watch that is left alone
comes to rest, with every event decided and nothing on its way. -/
theorem role_changes_take_effect
    (accepted : o.accept? viewer minRole (o.authority.rolesOf viewer) capacity = some s)
    (first : Run s early u) (told : ∀ change ∈ u.untold, change.viewer ≠ viewer)
    (second : Run u late t)
    (final : ∀ change, .office (.record change) ∈ late → change.viewer ≠ viewer)
    (kept : t.watch.ledger.losses = []) {position : Nat} {event : Event} {server : ServerId}
    (later : u.watch.bus.log.size ≤ position)
    (present : t.watch.bus.log[position]? = some event)
    (hserver : event.server? = some server) (hkind : event.kind ≠ .deleted) :
    (position < t.watch.decided →
      (position ∈ t.watch.ledger.through ↔
        minRole ≤ (t.authority.rolesOf viewer).roleOn server)) ∧
    t.watch.taken ++ t.watch.subscription.letThrough =
      t.watch.ledger.through.filterMap (t.watch.bus.log[·]?) ∧
    (t.watch.Quiet → position < t.watch.decided ∧ t.watch.subscription.letThrough = []) ∧
    ∀ more v, Run t more v → (∀ move ∈ more, move.IsOwn) → more.length ≤ t.watch.effort := by
  obtain ⟨opened, hauthority, -⟩ := Office.open?_of_accept? accepted
  have haccount := Watch.account_of_open opened
  have account := second.account (first.account haccount)
  have hgrows := first.grows.trans second.grows
  have hs := viewer_of_accept? accepted
  have hminRole : s.watch.subscription.minRole = minRole := by
    rw [Watch.eq_of_open opened]
  have hu : u.viewer = viewer := first.grows.viewer.trans hs
  have ht : t.viewer = viewer := hgrows.viewer.trans hs
  have hinformed : Informed s.watch.bus.log.size s := by
    apply Informed.current
    rw [hs, hauthority, Watch.eq_of_open opened]
  have hkept : u.watch.ledger.losses = [] := second.losses kept
  have hsettled : Settled u.watch.bus.log.size (u.authority.rolesOf u.viewer) t :=
    second.settled (first.account haccount) kept (by rwa [hu])
      (settled_of_informed (first.account haccount)
        (first.informed haccount hkept hinformed) (by rwa [hu]))
  refine ⟨?_, account.delivered, ?_, fun _ _ rest own => rest.length_le_effort own⟩
  · intro decided
    have hstart : o.bus.log.size ≤ position :=
      Nat.le_trans (first.account haccount).start_le
        (Nat.le_trans (first.account haccount).decided_le_size later)
    rw [hsettled.mem_through_iff account kept hstart later present decided,
      Roles.visible_iff_minRole_le hserver hkind, hgrows.minRole, hminRole, ← hsettled.onRecord,
      ht]
  · intro quiet
    refine ⟨?_, (account.idle_of_quiet quiet).1⟩
    rw [account.decided_of_quiet quiet]
    exact Subscription.lt_size_of_present present

/-- A viewer is made a user while they watch, and sees what is published afterwards. -/
theorem role_changes_take_effect_sample : ∃ s u t : Scene,
    Sample.office.accept? Sample.viewer .user (Sample.office.authority.rolesOf Sample.viewer) 1 =
      some s ∧
    Run s [.office (.record Sample.grant), .office (.tell Sample.grant Sample.midnight)] u ∧
    Run u [.office (.publish Sample.players), .forward, .forward, .forward, .take, .forward,
      .take, .forward] t ∧
    t.watch.Quiet ∧ 1 ∈ t.watch.ledger.through := by
  obtain ⟨u, hu, hsize, htold⟩ : ∃ u, run? step [.office (.record Sample.grant),
      .office (.tell Sample.grant Sample.midnight)] Sample.scene = some u ∧
      u.watch.bus.log.size = 1 ∧ u.untold = [] := ⟨_, rfl, rfl, rfl⟩
  obtain ⟨t, ht, hquiet, hkept, hpresent, hroles⟩ : ∃ t, run? step
      [.office (.publish Sample.players), .forward, .forward, .forward, .take, .forward, .take,
        .forward] u = some t ∧ t.watch.Quiet ∧
      t.watch.ledger.losses = [] ∧ t.watch.bus.log[1]? = some Sample.players ∧
      Role.user ≤ (t.authority.rolesOf Sample.viewer).roleOn Sample.server := by
    obtain rfl := Option.some.inj hu
    exact ⟨_, rfl, ⟨fun _ => rfl, rfl⟩, rfl, rfl, by decide⟩
  have haccepted : Sample.office.accept? Sample.viewer .user
    (Sample.office.authority.rolesOf Sample.viewer) 1 = some Sample.scene := rfl
  have heffect := role_changes_take_effect haccepted (run?_iff.mp hu) (by simp [htold])
    (run?_iff.mp ht) (by simp) hkept (Nat.le_of_eq hsize) hpresent rfl (by decide)
  refine ⟨_, u, t, haccepted, run?_iff.mp hu, run?_iff.mp ht, hquiet, ?_⟩
  exact (heffect.1 (heffect.2.2.1 hquiet).1).mpr hroles

end Accepted

end Scene

end Flotilla
