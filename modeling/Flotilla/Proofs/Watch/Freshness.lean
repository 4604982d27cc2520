import Flotilla.Proofs.Watch.Account

/-!
# How fresh the roles of a decision are

An event that lists the viewer as affected says that the roles held so far are out of
date. A decision on a later event is fresh if the authority was asked in between. A
forwarder that receives such an event asks at once. A forwarder that is told of a loss does
not, although what it lost may have been such an event: it goes on with the roles it holds
until it is requested to ask, or until it receives another event that makes it ask.
-/

namespace Flotilla

namespace Watch

variable {w t : Watch} {start p q : Nat} {roles : Roles} {moves : List Move}
  {before after : Ledger} {admitted : Bool}

/-- What stands behind a decision of the ledger. -/
theorem Account.judgement (h : Account start roles t)
    (hledger : t.ledger = before ++ .judged p admitted :: after) :
    Judgement start roles t before p admitted :=
  h.explained before _ after hledger

/-- An event that asks for the roles made somebody ask for them. -/
theorem Account.names_of_asked (h : Account start roles t)
    (hledger : t.ledger = before ++ .judged p admitted :: after) {size cause : Nat}
    (hmem : .asked size (some cause) ∈ before) : t.Names cause := by
  obtain ⟨earlier, later, hbefore⟩ := List.append_of_mem hmem
  have hasked := h.explained earlier (.asked size (some cause))
    (later ++ .judged p admitted :: after)
  rw [hledger, hbefore] at hasked
  exact ((hasked (by simp)).2 cause rfl).2

/-- The roles are asked for whenever an event that lists the viewer is decided on. -/
theorem Account.asked_of_judged (h : Account start roles t)
    (hledger : t.ledger = before ++ .judged p admitted :: after) (names : t.Names p) :
    ∃ size, .asked size (some p) ∈ before ∧ p < size := by
  obtain ⟨event, present, affected⟩ := names
  obtain ⟨event', present', -, hasked⟩ := (h.judgement hledger).verdict
  obtain rfl : event = event' := Option.some.inj (present.symm.trans present')
  obtain ⟨earlier, size, answer, hbefore, hlt⟩ := hasked affected
  exact ⟨size, by simp [hbefore], hlt⟩

/-- The roles were asked for because of each earlier event that lists the viewer, unless
it was lost. -/
theorem Account.asked_of_names (h : Account start roles t)
    (hledger : t.ledger = before ++ .judged p admitted :: after) (hq : start ≤ q) (hle : q ≤ p)
    (names : t.Names q) (kept : q ∉ before.losses) :
    ∃ size, .asked size (some q) ∈ before ∧ q < size := by
  rcases Nat.lt_or_eq_of_le hle with hlt | rfl
  · have hsettled : q ∈ before.positions := by
      rw [(h.judgement hledger).positions, List.mem_range'_1]
      omega
    rcases Ledger.mem_positions hsettled with hlost | ⟨verdict, hjudged⟩
    · exact absurd hlost kept
    · obtain ⟨earlier, later, hbefore⟩ := List.append_of_mem hjudged
      have hearlier : t.ledger =
          earlier ++ .judged q verdict :: (later ++ .judged p admitted :: after) := by
        rw [hledger, hbefore]
        simp
      obtain ⟨size, hasked, hsize⟩ := h.asked_of_judged hearlier names
      exact ⟨size, hbefore ▸ List.mem_append_left _ hasked, hsize⟩
  · exact h.asked_of_judged hledger names

section Opened

variable {bus : Bus} {viewer : ViewerId} {minRole : Role} {capacity : Nat}

/-- When a decision is fresh. The roles of its moment decide, and by then every question has
been answered. The authority has been asked since the event at `q` was published exactly if
an event that lists the viewer as affected, the one at `q` or a later one, was not lost, or
if there was another reason to ask: a request, or an event before `q` that was received
late. The loss of an event that lists the viewer is no reason. -/
theorem askedSince_iff (opened : open? bus viewer minRole roles capacity = some w)
    (run : Run w moves t) (hledger : t.ledger = before ++ .judged p admitted :: after)
    (hq : bus.log.size ≤ q) :
    (∃ event, t.bus.log[p]? = some event ∧
      (admitted = true ↔ (before.rolesAfter roles).Visible minRole event)) ∧
    before.loads = before.answers.length ∧
    (before.AskedSince q ↔
      (∃ r, q ≤ r ∧ r ≤ p ∧ t.Names r ∧ r ∉ before.losses) ∨
      ∃ size cause, .asked size cause ∈ before ∧ q < size ∧ ∀ r, cause = some r → r < q) := by
  have account : Account bus.log.size roles t := run.account (account_of_open opened)
  have judgement := account.judgement hledger
  refine ⟨?_, judgement.answered, ?_⟩
  · obtain ⟨event, present, hadmitted, -⟩ := judgement.verdict
    refine ⟨event, present, ?_⟩
    rw [run.grows.minRole] at hadmitted
    obtain rfl := eq_of_open opened
    exact hadmitted
  · constructor
    · rintro ⟨size, cause, hasked, hsize⟩
      -- A question was either asked for an event from `q` on or for another reason.
      by_cases hcause : ∀ r, cause = some r → r < q
      · exact .inr ⟨size, cause, hasked, hsize, hcause⟩
      · obtain ⟨r, hr⟩ := Classical.not_forall.mp hcause
        obtain ⟨rfl, hle⟩ := Classical.not_imp.mp hr
        obtain ⟨hrp, hkept⟩ := judgement.causes size r hasked
        exact .inl ⟨r, by omega, hrp, account.names_of_asked hledger hasked, hkept⟩
    · rintro (⟨r, hqr, hrp, hnames, hkept⟩ | ⟨size, cause, hasked, hsize, -⟩)
      · obtain ⟨size, hasked, hsize⟩ :=
          account.asked_of_names hledger (Nat.le_trans hq hqr) hrp hnames hkept
        exact ⟨size, some r, hasked, by omega⟩
      · exact ⟨size, cause, hasked, hsize⟩

open Move in
/-- A role change that is not lost: the authority is asked before the next decision. -/
theorem askedSince_sample : ∃ (w t : Watch) (before after : Ledger),
    open? Sample.bus Sample.viewer .user Sample.user 1 = some w ∧
    Run w [publish Sample.change, publish Sample.players, forward (.ok .empty),
      forward (.ok .empty), forward (.ok .empty)] t ∧
    t.ledger = before ++ .judged 1 false :: after ∧ before.AskedSince 0 := by
  obtain ⟨t, ht, hledger, hnames⟩ : ∃ t, run? step [publish Sample.change, publish Sample.players,
      forward (.ok .empty), forward (.ok .empty), forward (.ok .empty)]
      (Sample.watch Sample.user) = some t ∧
      t.ledger = [.asked 2 (some 0), .told (.ok .empty), .judged 0 true] ++ .judged 1 false :: [] ∧
      t.Names 0 :=
    ⟨_, rfl, rfl, _, rfl, by decide⟩
  have hrun := run?_iff.mp ht
  have hfresh := (askedSince_iff (Sample.open?_bus Sample.user) hrun hledger (Nat.zero_le 0)).2.2
  refine ⟨_, t, _, _, Sample.open?_bus Sample.user, hrun, hledger, hfresh.mpr (.inl ?_)⟩
  exact ⟨0, Nat.le_refl 0, Nat.zero_le 1, hnames, by simp⟩

open Move in
/-- A role change that is lost: the next event is shown by the roles of before, and nobody
asks for others. -/
theorem not_always_askedSince : ¬ ∀ (bus : Bus) (viewer : ViewerId) (minRole : Role)
    (roles : Roles) (capacity : Nat) (w : Watch) (moves : List Move) (t : Watch)
    (before after : Ledger) (admitted : Bool) (p q : Nat),
    open? bus viewer minRole roles capacity = some w → Run w moves t →
    t.ledger = before ++ .judged p admitted :: after → bus.log.size ≤ q → q < p → t.Names q →
    before.AskedSince q := by
  intro h
  obtain ⟨t, ht, hledger, hnames⟩ : ∃ t, run? step [publish Sample.change, publish Sample.players,
      publish Sample.bans, forward (.ok .empty), forward (.ok .empty)]
      (Sample.watch Sample.user) = some t ∧
      t.ledger = [.lost 0 1] ++ .judged 1 true :: [] ∧ t.Names 0 :=
    ⟨_, rfl, rfl, _, rfl, by decide⟩
  obtain ⟨size, cause, hasked, -⟩ := h _ _ _ _ _ _ _ t _ _ _ 1 0 (Sample.open?_bus Sample.user)
    (run?_iff.mp ht) hledger (Nat.zero_le 0) Nat.one_pos hnames
  simp at hasked

end Opened

end Watch

end Flotilla
