import Flotilla.Proofs.RoleChange.Office
import Flotilla.Proofs.Watch.Progress

/-!
# A watch amid role changes

A scene is one watch and the office around it. Everybody may make their moves in any order:
those who change roles and those who publish, the forwarder and the reader. The forwarder
is told what the authority has on record at the moment at which it is answered. What holds
of every watch holds of the watch of a scene, since each move of a scene leaves the watch
alone or is a move of it.
-/

namespace Flotilla

/-- What a forwarder learns from the authority are the roles of the viewer. -/
theorem Authority.update_load (authority : Authority) (viewer : ViewerId) (roles : Roles) :
    roles.update (authority.load viewer) = authority.rolesOf viewer := by
  unfold load rolesOf
  cases authority.viewers.get? viewer <;> rfl

/-- A watch, and the office that it is kept informed by. -/
structure Scene where
  watch : Watch
  authority : Authority
  /-- The changes that are on record and not yet told. -/
  untold : List RoleChange

namespace Scene

/-- The viewer who watches. -/
def viewer (s : Scene) : ViewerId := s.watch.subscription.viewer

/-- The office of a scene. -/
def office (s : Scene) : Office := ⟨s.authority, s.watch.bus, s.untold⟩

/-- The scene with another office. -/
def withOffice (s : Scene) (o : Office) : Scene :=
  ⟨{ s.watch with bus := o.bus }, o.authority, o.untold⟩

/-- What may happen in a scene. -/
inductive Move where
  | office (move : Office.Move)
  | refresh
  | forward
  | take

/-- Whether a move is the forwarder's or the reader's. -/
def Move.IsOwn : Move → Prop
  | .forward | .take => True
  | .office _ | .refresh => False

/-- One move, or `none` if it cannot be made. -/
def step : Move → Scene → Option Scene
  | .office move, s => (Office.step move s.office).map s.withOffice
  | .refresh, s => (Watch.step .refresh s.watch).map fun watch => { s with watch := watch }
  | .forward, s =>
    (Watch.step (.forward (s.authority.load s.viewer)) s.watch).map fun watch =>
      { s with watch := watch }
  | .take, s => (Watch.step .take s.watch).map fun watch => { s with watch := watch }

/-- Moves made one after the other. -/
abbrev Run : Scene → List Move → Scene → Prop := Flotilla.Run step

/-- All that a move can do to a scene. -/
inductive Steps (s : Scene) : Move → Scene → Prop where
  | record {change} :
      Steps s (.office (.record change))
        { s with
          authority := change.record s.authority
          untold := if change.IsTold s.authority then change :: s.untold else s.untold }
  | tell {change now} (recorded : change ∈ s.untold) {watch}
      (published : Watch.Steps s.watch (.publish (change.event now)) watch) :
      Steps s (.office (.tell change now)) ⟨watch, s.authority, s.untold.erase change⟩
  | publish {event watch} (published : Watch.Steps s.watch (.publish event) watch) :
      Steps s (.office (.publish event)) { s with watch := watch }
  | close {watch} (closed : Watch.Steps s.watch .close watch) :
      Steps s (.office .close) { s with watch := watch }
  | refresh {watch} (requested : Watch.Steps s.watch .refresh watch) :
      Steps s .refresh { s with watch := watch }
  | forward {watch}
      (forwarded : Watch.Steps s.watch (.forward (s.authority.load s.viewer)) watch) :
      Steps s .forward { s with watch := watch }
  | take {watch} (taken : Watch.Steps s.watch .take watch) : Steps s .take { s with watch := watch }

variable {s t : Scene} {move : Move} {moves : List Move} {start : Nat} {roles : Roles}

theorem steps_of_step (h : step move s = some t) : Steps s move t := by
  cases move with
  | office move =>
      simp only [step, Option.map_eq_some_iff] at h
      obtain ⟨o, ho, rfl⟩ := h
      cases move with
      | record change =>
          obtain rfl := Option.some.inj ho
          exact .record
      | tell change now =>
          simp only [Office.step] at ho
          split at ho
          next htell =>
            obtain rfl := Option.some.inj ho
            exact .tell htell.1 (.publish htell.2)
          next => simp at ho
      | publish event =>
          simp only [Office.step] at ho
          split at ho
          next isOpen =>
            obtain rfl := Option.some.inj ho
            exact .publish (.publish isOpen)
          next => simp at ho
      | close =>
          obtain rfl := Option.some.inj ho
          exact .close .close
  | refresh =>
      simp only [step, Option.map_eq_some_iff] at h
      obtain ⟨watch, hwatch, rfl⟩ := h
      exact .refresh (Watch.steps_of_step hwatch)
  | forward =>
      simp only [step, Option.map_eq_some_iff] at h
      obtain ⟨watch, hwatch, rfl⟩ := h
      exact .forward (Watch.steps_of_step hwatch)
  | take =>
      simp only [step, Option.map_eq_some_iff] at h
      obtain ⟨watch, hwatch, rfl⟩ := h
      exact .take (Watch.steps_of_step hwatch)

/-- A move of a scene leaves the watch alone, or it is a move of the watch: a request only
if it is one, and one of its own if it is one of its own. -/
theorem Steps.watch (h : Steps s move t) : t.watch = s.watch ∧ ¬ move.IsOwn ∨
    ∃ move', Watch.Steps s.watch move' t.watch ∧ (move' = .refresh → move = .refresh) ∧
      (move.IsOwn → move'.IsOwn) := by
  cases h with
  | record => exact .inl ⟨rfl, id⟩
  | tell recorded published => exact .inr ⟨_, published, by simp, False.elim⟩
  | publish published => exact .inr ⟨_, published, by simp, False.elim⟩
  | close closed => exact .inr ⟨_, closed, by simp, False.elim⟩
  | refresh requested => exact .inr ⟨_, requested, fun _ => rfl, False.elim⟩
  | forward forwarded => exact .inr ⟨_, forwarded, by simp, fun _ => trivial⟩
  | take taken => exact .inr ⟨_, taken, by simp, fun _ => trivial⟩

theorem Steps.account (h : Steps s move t) (account : s.watch.Account start roles) :
    t.watch.Account start roles := by
  rcases h.watch with ⟨heq, -⟩ | ⟨move', steps, -, -⟩
  · rw [heq]
    exact account
  · exact account.step steps

theorem Steps.next_le (h : Steps s move t) (account : s.watch.Account start roles) :
    t.watch.subscription.receiver.next ≤ s.watch.bus.log.size := by
  rcases h.watch with ⟨heq, -⟩ | ⟨move', steps, -, -⟩
  · rw [heq]
    exact account.attached.next_le
  · exact account.next_le_of_steps steps

theorem Steps.grows (h : Steps s move t) : s.watch.Grows t.watch := by
  rcases h.watch with ⟨heq, -⟩ | ⟨move', steps, -, -⟩
  · rw [heq]
    exact .refl _
  · exact steps.grows

theorem Steps.viewer (h : Steps s move t) : t.viewer = s.viewer := h.grows.viewer

theorem Steps.unrefreshed (h : Steps s move t) (unrefreshed : s.watch.Unrefreshed)
    (hmove : move ≠ .refresh) : t.watch.Unrefreshed := by
  rcases h.watch with ⟨heq, -⟩ | ⟨move', steps, hrefresh, -⟩
  · rw [heq]
    exact unrefreshed
  · exact unrefreshed.step steps fun heq => hmove (hrefresh heq)

/-- What is lost stays lost. -/
theorem Steps.losses (h : Steps s move t) (kept : t.watch.ledger.losses = []) :
    s.watch.ledger.losses = [] := by
  rcases h.watch with ⟨heq, -⟩ | ⟨move', steps, -, -⟩
  · rwa [heq] at kept
  · exact steps.losses kept

theorem Run.account (run : Run s moves t) (account : s.watch.Account start roles) :
    t.watch.Account start roles :=
  run.invariant (P := fun s => s.watch.Account start roles)
    (fun _ _ _ _ h stepped => (steps_of_step stepped).account h) account

theorem Run.unrefreshed (run : Run s moves t) (unrefreshed : s.watch.Unrefreshed)
    (requestless : .refresh ∉ moves) : t.watch.Unrefreshed := by
  refine run.invariant (P := fun s => s.watch.Unrefreshed) ?_ unrefreshed
  intro move hmove s t h stepped
  exact (steps_of_step stepped).unrefreshed h fun heq => requestless (heq ▸ hmove)

theorem Run.grows (run : Run s moves t) : s.watch.Grows t.watch :=
  run.invariant (P := fun t => s.watch.Grows t.watch)
    (fun _ _ _ _ h stepped => h.trans (steps_of_step stepped).grows) (.refl _)

theorem Run.losses (run : Run s moves t) (kept : t.watch.ledger.losses = []) :
    s.watch.ledger.losses = [] := by
  induction run with
  | nil => exact kept
  | cons stepped _ ih => exact (steps_of_step stepped).losses (ih kept)

/-- What the moves preserve that lose nothing, a run without losses preserves. -/
theorem Run.invariant_of_kept {P : Scene → Prop} (run : Run s moves t)
    (kept : t.watch.ledger.losses = [])
    (preserved : ∀ move ∈ moves, ∀ {s t}, P s → Steps s move t →
      t.watch.ledger.losses = [] → P t) (h : P s) : P t := by
  have invariant := run.invariant (P := fun s => s.watch.ledger.losses = [] → P s) ?_ fun _ => h
  · exact invariant kept
  · intro move hmove s t hs stepped hkept
    have steps := steps_of_step stepped
    exact preserved move hmove (hs (steps.losses hkept)) steps hkept

/-- A scene that nobody else disturbs comes to rest. -/
theorem Run.length_le_effort (run : Run s moves t) (own : ∀ move ∈ moves, move.IsOwn) :
    moves.length ≤ s.watch.effort := by
  have hlength : moves.length + t.watch.effort ≤ s.watch.effort :=
    run.length_add_le (fun s => s.watch.effort) ?_ own
  · omega
  · intro move s t hown stepped
    rcases (steps_of_step stepped).watch with ⟨-, hother⟩ | ⟨move', steps, -, hmove⟩
    · exact absurd hown hother
    · exact steps.effort_lt (hmove hown)

end Scene

/-- The scene of a viewer who begins to watch. -/
def Office.accept? (o : Office) (viewer : ViewerId) (minRole : Role) (roles : Roles)
    (capacity : Nat) : Option Scene :=
  (Watch.open? o.bus viewer minRole roles capacity).map fun watch => ⟨watch, o.authority, o.untold⟩

theorem Office.open?_of_accept? {o : Office} {viewer : ViewerId} {minRole : Role} {roles : Roles}
    {capacity : Nat} {s : Scene} (h : o.accept? viewer minRole roles capacity = some s) :
    Watch.open? o.bus viewer minRole roles capacity = some s.watch ∧
      s.authority = o.authority ∧ s.untold = o.untold := by
  obtain ⟨watch, opened, rfl⟩ := Option.map_eq_some_iff.mp h
  exact ⟨opened, rfl, rfl⟩

theorem Scene.viewer_of_accept? {o : Office} {viewer : ViewerId} {minRole : Role} {roles : Roles}
    {capacity : Nat} {s : Scene} (h : o.accept? viewer minRole roles capacity = some s) :
    s.viewer = viewer := by
  simp [Scene.viewer, Watch.eq_of_open (Office.open?_of_accept? h).1]

namespace Observatory

variable {o o' : Observatory} {name : String} {viewer : ViewerId} {roles : Roles}

/-- Whoever is admitted watches from now on. -/
theorem open?_of_accept? (h : o.accept? name viewer roles = some o') :
    ∃ watcher, o'.watchers.get? name = some watcher ∧
      Watch.open? o.bus viewer o.minRole roles o.queueCapacity =
        some ⟨o'.bus, watcher, [], []⟩ := by
  simp only [accept?, Option.map_eq_some_iff] at h
  obtain ⟨watcher, created, rfl⟩ := h
  exact ⟨watcher, by simp, by simp [Watch.open?, created]⟩

/-- Whoever comes while the authority is within reach is admitted with the roles on record. -/
theorem admission_eq (h : o.source.outage = none) :
    (o.admission viewer).1 = o.source.authority.rolesOf viewer := by
  simp only [admission, RoleSource.load, RoleSource.answer, h, Authority.load, Authority.rolesOf]
  cases o.source.authority.viewers.get? viewer <;> rfl

end Observatory

namespace Sample

/-- Nobody is on record, and nothing was published. -/
def office : Office := ⟨.empty, bus, []⟩

def grant : RoleChange := .grant viewer server .user

/-- A viewer without roles has just begun to watch. -/
def scene : Scene := ⟨watch .empty, .empty, []⟩

end Sample

end Flotilla
