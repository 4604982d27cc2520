import Flotilla.Proofs.RoleChange.Scene

/-!
# News of role changes

A forwarder judges by the roles that it holds, and these are not always those on record.
A viewer is informed if the two agree or if news are on their way: an event that lists
the viewer waits on the bus, the authority is being asked, or a change that concerns the
viewer is on record and will be told. Without losses a viewer who is informed stays
informed, whoever moves.
-/

namespace Flotilla

namespace Scene

/-- That the roles held are those on record, or that news of others are on their way. News
on the bus count if they are found below the position `bound`. -/
inductive Informed (bound : Nat) (s : Scene) : Prop where
  | current (roles : s.watch.subscription.roles = s.authority.rolesOf s.viewer)
  | upcoming {position} (ahead : s.watch.subscription.receiver.next ≤ position)
      (below : position < bound) (names : s.watch.Names position)
  | asking (loading : s.watch.subscription.isLoading = true)
  | recorded {change} (untold : change ∈ s.untold) (concerned : change.viewer = s.viewer)

variable {s t : Scene} {bound : Nat} {move : Move} {moves : List Move} {notes : Ledger}
  {subscription : Subscription} {start : Nat} {roles : Roles}

namespace Informed

theorem mono {wider : Nat} (h : Informed bound s) (hle : bound ≤ wider) : Informed wider s := by
  cases h with
  | current roles => exact .current roles
  | upcoming ahead below names => exact .upcoming ahead (Nat.lt_of_lt_of_le below hle) names
  | asking loading => exact .asking loading
  | recorded untold concerned => exact .recorded untold concerned

/-- A move that touches neither the roles held nor those on record, nor where the forwarder
stands, leaves all news on their way. -/
theorem of_frame (h : Informed bound s) (grows : s.watch.Grows t.watch)
    (roles : t.watch.subscription.roles = s.watch.subscription.roles)
    (authority : t.authority.rolesOf s.viewer = s.authority.rolesOf s.viewer)
    (next : t.watch.subscription.receiver.next = s.watch.subscription.receiver.next)
    (loading : t.watch.subscription.isLoading = s.watch.subscription.isLoading)
    (untold : ∀ change ∈ s.untold, change.viewer = s.viewer → change ∈ t.untold) :
    Informed bound t := by
  have hviewer : t.viewer = s.viewer := grows.viewer
  cases h with
  | current held =>
      apply Informed.current
      rw [roles, held, hviewer, authority]
  | upcoming ahead below names => exact .upcoming (next ▸ ahead) below (grows.names names)
  | asking asked => exact .asking (loading ▸ asked)
  | recorded hmem concerned =>
      exact .recorded (untold _ hmem concerned) (concerned.trans hviewer.symm)

/-- The forwarder takes notice of all news. -/
theorem forward (h : Informed bound s)
    (forwards : s.watch.subscription.Forwards s.watch.bus (s.authority.load s.viewer) notes
      subscription) (kept : notes.losses = []) :
    Informed bound
      { s with
        watch := { s.watch with
          subscription := subscription, ledger := s.watch.ledger ++ notes } } := by
  have grows : s.watch.Grows
      { s.watch with subscription := subscription, ledger := s.watch.ledger ++ notes } :=
    (Watch.Steps.forward forwards).grows
  cases forwards with
  | heedGranted => exact .asking rfl
  | heedStored => exact .asking rfl
  | skip selecting unasked behind =>
      have hlost : s.watch.bus.oldest - s.watch.subscription.receiver.next = 0 := by
        simpa using kept
      omega
  | fetch => exact .asking rfl
  | @pass _ event selecting unasked present unaffected =>
      cases h with
      | current held => exact .current (by simpa [viewer] using held)
      | @upcoming position ahead below names =>
          -- The event that is judged does not list the viewer, so it is not the news.
          have hne : position ≠ s.watch.subscription.receiver.next := by
            rintro rfl
            obtain ⟨event', present', affected⟩ := names
            obtain rfl : event = event' := Option.some.inj (present.symm.trans present')
            simp [unaffected] at affected
          refine .upcoming ?_ below (grows.names names)
          simp only [Subscription.receiver_judge]
          omega
      | asking loading =>
          simp [Subscription.isLoading_of_selecting selecting] at loading
      | recorded hmem concerned =>
          exact .recorded hmem (concerned.trans grows.viewer.symm)
  | park selecting =>
      refine h.of_frame grows rfl rfl rfl ?_ fun _ hmem _ => hmem
      rw [Subscription.isLoading_of_selecting selecting]
      rfl
  | finish selecting =>
      refine h.of_frame grows rfl rfl rfl ?_ fun _ hmem _ => hmem
      rw [Subscription.isLoading_of_selecting selecting]
      rfl
  | learn =>
      apply Informed.current
      exact Authority.update_load _ _ _
  | learnFor =>
      apply Informed.current
      simp only [viewer, Subscription.roles_judge, Subscription.viewer_judge]
      exact Authority.update_load _ _ _
  | release holding =>
      refine h.of_frame grows (by simp) rfl (by simp) ?_ fun _ hmem _ => hmem
      rw [Subscription.isLoading_offer, Subscription.isLoading, holding]

/-- Every move without losses leaves the viewer informed; a change that concerns them is
told below the bound. -/
theorem step (h : Informed bound s) (steps : Steps s move t)
    (kept : t.watch.ledger.losses = [])
    (told : ∀ change now, move = .office (.tell change now) → change.viewer = s.viewer →
      s.watch.subscription.receiver.next ≤ s.watch.bus.log.size ∧ s.watch.bus.log.size < bound) :
    Informed bound t := by
  have grows := steps.grows
  cases steps with
  | @record change =>
      by_cases hviewer : change.viewer = s.viewer
      · by_cases htold : change.IsTold s.authority
        · have hmem : change ∈
              if change.IsTold s.authority then change :: s.untold else s.untold := by
            simp [htold]
          exact .recorded hmem hviewer
        · refine h.of_frame grows rfl ?_ rfl rfl ?_
          · exact RoleChange.rolesOf_record_of_not_isTold htold _
          · intro other hmem _
            simpa [htold] using hmem
      · refine h.of_frame grows rfl ?_ rfl rfl ?_
        · exact RoleChange.rolesOf_record_of_ne hviewer _
        · intro other hmem _
          simp only
          split
          · exact List.mem_cons_of_mem _ hmem
          · exact hmem
  | @tell change now recorded watch published =>
      cases published with
      | publish isOpen =>
          by_cases hviewer : change.viewer = s.viewer
          · obtain ⟨ahead, below⟩ := told change now rfl hviewer
            refine .upcoming ahead below ⟨change.event now, by simp, ?_⟩
            exact (change.affects_event now _).mpr hviewer
          · apply h.of_frame grows rfl rfl rfl rfl
            intro other hmem hother
            have hne : other ≠ change := fun heq => hviewer (heq ▸ hother)
            exact (List.mem_erase_of_ne hne).mpr hmem
  | publish published =>
      cases published with
      | publish isOpen => exact h.of_frame grows rfl rfl rfl rfl fun _ hmem _ => hmem
  | close closed =>
      cases closed with
      | close => exact h.of_frame grows rfl rfl rfl rfl fun _ hmem _ => hmem
  | refresh requested =>
      cases requested with
      | refresh =>
          rw [Subscription.requestRefresh_eq] at grows ⊢
          exact h.of_frame grows rfl rfl rfl rfl fun _ hmem _ => hmem
  | forward forwarded =>
      cases forwarded with
      | forward forwards =>
          rw [Ledger.losses_append] at kept
          exact h.forward forwards (List.append_eq_nil_iff.mp kept).2
  | take taken =>
      cases taken with
      | take ready => exact h.of_frame grows rfl rfl rfl rfl fun _ hmem _ => hmem

/-- A change that concerns the viewer is told behind everything that was received. -/
theorem step_size (h : Informed s.watch.bus.log.size s) (account : s.watch.Account start roles)
    (steps : Steps s move t) (kept : t.watch.ledger.losses = []) :
    Informed t.watch.bus.log.size t := by
  apply (h.mono steps.grows.size).step steps kept
  intro change now hmove hviewer
  subst hmove
  cases steps with
  | tell recorded published =>
      cases published with
      | publish => exact ⟨account.attached.next_le, by simp⟩

end Informed

/-- Without losses a viewer stays informed. -/
theorem Run.informed (run : Run s moves t) (account : s.watch.Account start roles)
    (kept : t.watch.ledger.losses = []) (h : Informed s.watch.bus.log.size s) :
    Informed t.watch.bus.log.size t := by
  have invariant := run.invariant_of_kept (P := fun s =>
    s.watch.Account start roles ∧ Informed s.watch.bus.log.size s) kept ?_ ⟨account, h⟩
  · exact invariant.2
  · rintro move - s t ⟨account, h⟩ steps hkept
    exact ⟨steps.account account, h.step_size account steps hkept⟩

end Scene

end Flotilla
