import Flotilla.Proofs.Fleet.Harbour

/-!
# The roster

A roster is a map from the followed servers to what is known of how to reach them. It answers calls
one at a time, and knows nothing of channels. `Harbour.refines_roster` says that a harbour answers
its callers as a roster does, in the order in which the calls take effect, as long as the fleet is
not stopped. A call that is refused leaves the fleet as it is.
-/

namespace Flotilla

/-- The followed servers, as a map. -/
abbrev Roster := Index ServerId Server

namespace Roster

/-- The roster after it has given an answer, or `none` if it would have given another one. -/
def step (answer : Answer) (roster : Roster) : Option Roster :=
  match answer with
  | .tracked server accepted =>
    if accepted = !roster.contains server.id then
      some (if accepted then roster.insert server.id server else roster)
    else none
  | .untracked id found => if found = roster.contains id then some (roster.erase id) else none
  | .invalidated _ _ => some roster
  | .listed servers =>
    if servers.map (fun listed => (listed.id, listed.loader)) =
        roster.entries.map (fun entry => (entry.1, entry.2.loader)) then some roster
    else none

/-- The answers that a roster gives one after the other. -/
abbrev Run : Roster → List Answer → Roster → Prop := Flotilla.Run step

end Roster

namespace Answer

/-- What an answer says of the server that is followed under an identifier. -/
def settle (id : ServerId) (before : Option Server) : Answer → Option Server
  | .tracked server accepted => if accepted ∧ server.id = id then some server else before
  | .untracked other _ => if other = id then none else before
  | .invalidated _ _ | .listed _ => before

/-- The server of an identifier that has been accepted last, unless it has been given up since. -/
def standing (id : ServerId) (answers : List Answer) : Option Server :=
  answers.foldl (settle id) none

/-- Whether an answer is given to someone who wants the server of an identifier to be followed. -/
def concerns (id : ServerId) : Answer → Bool
  | .tracked server _ => server.id = id
  | _ => false

/-- Whether an answer accepts the server of an identifier. -/
def accepts (id : ServerId) : Answer → Bool
  | .tracked server accepted => accepted && server.id = id
  | _ => false

end Answer

namespace Roster

variable {roster next : Roster} {answer : Answer} {answers : List Answer} {id : ServerId}

theorem get?_step (stepped : step answer roster = some next) :
    next.get? id = answer.settle id (roster.get? id) := by
  cases answer with
  | tracked server accepted =>
      obtain ⟨-, hnext⟩ := Option.ite_none_right_eq_some.mp stepped
      obtain rfl := Option.some.inj hnext
      cases accepted with
      | true => simp [Answer.settle, eq_comm]
      | false => simp [Answer.settle]
  | untracked other found =>
      obtain ⟨-, hnext⟩ := Option.ite_none_right_eq_some.mp stepped
      obtain rfl := Option.some.inj hnext
      simp [Answer.settle, eq_comm]
  | invalidated other known =>
      obtain rfl := Option.some.inj stepped
      rfl
  | listed servers =>
      obtain ⟨-, hnext⟩ := Option.ite_none_right_eq_some.mp stepped
      obtain rfl := Option.some.inj hnext
      rfl

/-- What a roster holds is what its answers say. -/
theorem Run.get? (run : Run roster answers next) :
    next.get? id = answers.foldl (Answer.settle id) (roster.get? id) := by
  induction run with
  | nil => rfl
  | cons stepped _ ih => rw [ih, List.foldl_cons, get?_step stepped]

/-- Of the callers that want a server to be followed, exactly one is accepted if it is not followed
yet, and none if it is, as long as nobody gives it up. -/
theorem Run.accepted (run : Run roster answers next)
    (kept : ∀ found, .untracked id found ∉ answers) :
    (answers.filter (Answer.accepts id)).length =
      if (roster.get? id).isNone ∧ answers.any (Answer.concerns id) then 1 else 0 := by
  induction run with
  | nil => simp
  | @cons roster answer next answers finish stepped rest ih =>
      have hkept := ih fun found hmem => kept found (List.mem_cons_of_mem _ hmem)
      rw [get?_step stepped] at hkept
      cases answer with
      | tracked server accepted =>
          by_cases hid : server.id = id
          · obtain ⟨haccepted, -⟩ := Option.ite_none_right_eq_some.mp stepped
            subst hid
            cases hheld : roster.get? server.id with
            | none =>
                obtain rfl : accepted = true := by simpa [Index.contains, hheld] using haccepted
                simpa [Answer.accepts, Answer.concerns, Answer.settle] using hkept
            | some held =>
                obtain rfl : accepted = false := by simpa [Index.contains, hheld] using haccepted
                simpa [Answer.accepts, Answer.settle, hheld] using hkept
          · simpa [Answer.accepts, Answer.concerns, Answer.settle, hid] using hkept
      | untracked other found =>
          have hother : other ≠ id := by
            rintro rfl
            exact kept found List.mem_cons_self
          simpa [Answer.accepts, Answer.concerns, Answer.settle, hother] using hkept
      | invalidated | listed => simpa [Answer.accepts, Answer.concerns, Answer.settle] using hkept

end Roster

namespace Fleet

variable {fleet : Fleet} {number : Nat} {id : ServerId} {server : Server} {roster : Roster}

/-- The server that is followed under an identifier. -/
def server? (fleet : Fleet) (id : ServerId) : Option Server :=
  (fleet.channel? id).map fun channel => channel.server

@[simp] theorem server?_signal (fleet : Fleet) (number : Nat) (signal : Signal) (id : ServerId) :
    (fleet.signal number signal).2.server? id = fleet.server? id := by
  have hserver (channel : Channel) : (channel.step signal).1.server = channel.server :=
    (channel.steps_step signal).server
  unfold server? channel?
  rw [tracked_signal]
  cases fleet.tracked.get? id with
  | none => rfl
  | some own =>
      rw [Option.bind_some, Option.bind_some, get?_signal]
      split
      next => simp [Function.comp_def, hserver]
      next => rfl

theorem Charted.server?_launch (h : fleet.Charted) (server : Server) (id : ServerId) :
    (fleet.launch server).server? id =
      if id = server.id then some server else fleet.server? id := by
  by_cases hid : id = server.id
  · simp [server?, channel?, Fleet.launch, hid, Channel.create]
  · cases htracked : fleet.tracked.get? id with
    | none => simp [server?, channel?, Fleet.launch, hid, htracked]
    | some number =>
        obtain ⟨channel, hchannel, -⟩ := h.mapped htracked
        have hlaunched := h.get?_launch server hchannel
        simp only [Fleet.launch] at hlaunched
        simp [server?, channel?, Fleet.launch, hid, htracked, hchannel, hlaunched]

@[simp] theorem server?_unfollow (fleet : Fleet) (other id : ServerId) :
    (fleet.unfollow other).server? id = if id = other then none else fleet.server? id := by
  simp only [server?, channel?, unfollow, Index.get?_erase]
  split <;> rfl

/-- Before the fleet is stopped, a server is served if it is on the list. -/
theorem Charted.isServed_eq_server? (h : fleet.Charted) (active : fleet.stopped = false)
    (id : ServerId) : fleet.isServed id = (fleet.server? id).isSome := by
  rw [h.isServed_eq active, server?, Option.isSome_map, h.channel?_isSome]

theorem server?_eq_some : fleet.server? id = some server ↔ ∃ number channel,
    fleet.tracked.get? id = some number ∧ fleet.channels.get? number = some channel ∧
      channel.server = server := by
  simp only [server?, channel?, Option.map_eq_some_iff, Option.bind_eq_some_iff]
  constructor
  · rintro ⟨channel, ⟨number, htracked, hchannel⟩, hserver⟩
    exact ⟨number, channel, htracked, hchannel, hserver⟩
  · rintro ⟨number, channel, htracked, hchannel, hserver⟩
    exact ⟨channel, ⟨number, htracked, hchannel⟩, hserver⟩

/-- The entries of a roster that agrees with a fleet are those of the followed servers. -/
theorem entries_of_server? (agree : ∀ id, roster.get? id = fleet.server? id) :
    roster.entries = fleet.tracked.entries.filterMap fun entry =>
      (fleet.channels.get? entry.2).map fun channel => (entry.1, channel.server) := by
  have hsorted : (fleet.tracked.entries.filterMap fun entry =>
      (fleet.channels.get? entry.2).map fun channel => (entry.1, channel.server)).Pairwise
        (fun a b => a.1 < b.1) := by
    refine fleet.tracked.sorted.filterMap _ fun first second hlt one hone two htwo => ?_
    obtain ⟨_, -, rfl⟩ := Option.map_eq_some_iff.mp hone
    obtain ⟨_, -, rfl⟩ := Option.map_eq_some_iff.mp htwo
    exact hlt
  have hroster : roster = ⟨_, hsorted⟩ := by
    refine Index.ext_get? fun id => Option.ext fun server => ?_
    have hentry := Index.mem_entries_iff ⟨_, hsorted⟩ (id, server)
    rw [agree, server?_eq_some, ← hentry, List.mem_filterMap]
    constructor
    · rintro ⟨number, channel, htracked, hchannel, rfl⟩
      exact ⟨(id, number), (Index.mem_entries_iff _ _).mpr htracked, by simp [hchannel]⟩
    · rintro ⟨entry, hmem, hmapped⟩
      obtain ⟨channel, hchannel, heq⟩ := Option.map_eq_some_iff.mp hmapped
      obtain ⟨rfl, rfl⟩ := Prod.mk.inj heq
      exact ⟨entry.2, channel, (Index.mem_entries_iff _ _).mp hmem, hchannel, rfl⟩
  rw [hroster]

/-- What is listed of a fleet is what a roster that agrees with it would list. -/
theorem list_of_server? (agree : ∀ id, roster.get? id = fleet.server? id) :
    fleet.list.map (fun listed => (listed.id, listed.loader)) =
      roster.entries.map fun entry => (entry.1, entry.2.loader) := by
  rw [entries_of_server? agree, list, List.map_filterMap, List.map_filterMap]
  simp [Function.comp_def]

end Fleet

namespace Harbour

variable {h next : Harbour} {move : Move} {moves : List Move} {roster : Roster}

theorem stopped_of_steps (steps : h.Steps move next) (active : next.fleet.stopped = false) :
    h.fleet.stopped = false := by
  cases steps with
  | stop => simp [Fleet.stop] at active
  | dismiss | reach | happen | proceed => exact (Fleet.stopped_signal _ _ _).symm.trans active
  | _ => exact active

/-- What a caller is told at a move, a roster would have told it too. -/
theorem Steps.refines (steps : h.Steps move next) (sound : h.Sound)
    (active : next.fleet.stopped = false) (agree : ∀ id, roster.get? id = h.fleet.server? id) :
    ∃ given after, next.answers = h.answers ++ given ∧ Roster.Run roster given after ∧
      ∀ id, after.get? id = next.fleet.server? id := by
  have hactive := stopped_of_steps steps active
  have hserved (id : ServerId) : h.fleet.isServed id = roster.contains id := by
    rw [sound.charted.isServed_eq_server? hactive, Index.contains, agree]
  have hsilent (fleet : Fleet) (same : ∀ id, fleet.server? id = h.fleet.server? id) :
      ∃ given after, h.answers = h.answers ++ given ∧ Roster.Run roster given after ∧
        ∀ id, after.get? id = fleet.server? id :=
    ⟨[], roster, by simp, .nil roster, fun id => (agree id).trans (same id).symm⟩
  cases steps with
  | @refuse server free served =>
      refine ⟨_, roster, rfl, .cons ?_ (.nil _), agree⟩
      simp [Roster.step, ← hserved, served]
  | enter => exact hsilent _ fun id => rfl
  | @launch server entering =>
      refine ⟨_, roster.insert server.id server, rfl, .cons ?_ (.nil _), fun id => ?_⟩
      · simp [Roster.step, ← hserved, sound.unserved server entering]
      · rw [Index.get?_insert, agree]
        exact (sound.charted.server?_launch server id).symm
  | @miss id free absent =>
      have hcontains : roster.contains id = false := by
        rw [← hserved, sound.charted.isServed_eq hactive, absent]
        rfl
      refine ⟨_, roster.erase id, rfl, .cons ?_ (.nil _), fun other => ?_⟩
      · simp [Roster.step, hcontains]
      · have hnone : roster.get? id = none := by simpa [Index.contains] using hcontains
        rw [Index.get?_erase]
        split
        next heq =>
          subst heq
          exact hnone.symm.trans (agree other)
        next => exact agree other
  | @unfollow id number free followed =>
      have hcontains : roster.contains id = true := by
        rw [← hserved, sound.charted.isServed_eq hactive, followed]
        rfl
      refine ⟨_, roster.erase id, rfl, .cons ?_ (.nil _), fun other => ?_⟩
      · simp [Roster.step, hcontains]
      · rw [Index.get?_erase, agree]
        exact (Fleet.server?_unfollow _ _ _).symm
  | dismiss | reach | happen | proceed =>
      exact hsilent _ fun id => Fleet.server?_signal _ _ _ id
  | invalidate id => exact ⟨_, roster, rfl, .cons rfl (.nil _), agree⟩
  | list =>
      refine ⟨_, roster, rfl, .cons ?_ (.nil _), agree⟩
      exact if_pos (Fleet.list_of_server? agree)
  | stop => simp [Fleet.stop] at active
  | drain free first stopped => simp [hactive] at stopped
  | await | write | publish => exact hsilent _ fun id => rfl

theorem Run.active (run : Run h moves next) (active : next.fleet.stopped = false) :
    h.fleet.stopped = false := by
  induction run with
  | nil => exact active
  | cons stepped _ ih => exact stopped_of_steps (steps_of_step stepped) (ih active)

/-- As long as the fleet is not stopped, a harbour answers as a roster does. -/
theorem Run.refines (run : Run h moves next) (sound : h.Sound)
    (active : next.fleet.stopped = false) (agree : ∀ id, roster.get? id = h.fleet.server? id) :
    ∃ given after, next.answers = h.answers ++ given ∧ Roster.Run roster given after ∧
      ∀ id, after.get? id = next.fleet.server? id := by
  induction run generalizing roster with
  | nil h => exact ⟨[], roster, by simp, .nil roster, agree⟩
  | cons stepped rest ih =>
      have hsteps := steps_of_step stepped
      obtain ⟨first, between, hfirst, hleft, hbetween⟩ :=
        hsteps.refines sound (Run.active rest active) agree
      obtain ⟨second, after, hsecond, hright, hafter⟩ := ih (sound.step hsteps) active hbetween
      exact ⟨first ++ second, after, by rw [hsecond, hfirst, List.append_assoc],
        hleft.append hright, hafter⟩

/-- What callers have been told stays told, and that a server has been given up is told to those
only who give it up. -/
theorem Steps.told (steps : h.Steps move next) : ∃ given, next.answers = h.answers ++ given ∧
    ∀ id found, .untracked id found ∈ given → move = .unfollow id := by
  cases steps with
  | miss free absent => exact ⟨_, rfl, by simp⟩
  | unfollow free followed => exact ⟨_, rfl, by simp⟩
  | refuse free served => exact ⟨_, rfl, by simp⟩
  | launch entering => exact ⟨_, rfl, by simp⟩
  | invalidate id => exact ⟨_, rfl, by simp⟩
  | list free => exact ⟨_, rfl, by simp⟩
  | _ => exact ⟨[], (List.append_nil _).symm, by simp⟩

theorem Run.told (run : Run h moves next) : ∃ given, next.answers = h.answers ++ given ∧
    ∀ id found, .untracked id found ∈ given → .unfollow id ∈ moves := by
  induction run with
  | nil => exact ⟨[], by simp, by simp⟩
  | cons stepped rest ih =>
      obtain ⟨first, hfirst, hmove⟩ := (steps_of_step stepped).told
      obtain ⟨second, hsecond, hmoves⟩ := ih
      refine ⟨first ++ second, by rw [hsecond, hfirst, List.append_assoc], fun id found hmem => ?_⟩
      rcases List.mem_append.mp hmem with hleft | hright
      · exact hmove id found hleft ▸ List.mem_cons_self
      · exact List.mem_cons_of_mem _ (hmoves id found hright)

/-- A server that is not given up keeps its channel. -/
theorem Steps.keeps {id : ServerId} {number : Nat} (steps : h.Steps move next) (sound : h.Sound)
    (active : next.fleet.stopped = false) (kept : move ≠ .unfollow id)
    (followed : h.fleet.tracked.get? id = some number) :
    next.fleet.tracked.get? id = some number := by
  have hactive := stopped_of_steps steps active
  cases steps with
  | @launch server entering =>
      have hserved := sound.unserved server entering
      rw [sound.charted.isServed_eq hactive] at hserved
      have hne : id ≠ server.id := by
        rintro rfl
        simp [followed] at hserved
      simpa [tell, Fleet.launch, hne] using followed
  | @unfollow other number free _ =>
      have hne : id ≠ other := fun heq => kept (heq ▸ rfl)
      simpa [tell, Fleet.unfollow, hne] using followed
  | dismiss | reach | happen | proceed =>
      simpa [Harbour.signal, Harbour.proceed, Fleet.proceed] using followed
  | drain free first stopped => simp [hactive] at stopped
  | _ => exact followed

theorem Run.keeps {id : ServerId} {number : Nat} (run : Run h moves next) (sound : h.Sound)
    (active : next.fleet.stopped = false) (kept : .unfollow id ∉ moves)
    (followed : h.fleet.tracked.get? id = some number) :
    next.fleet.tracked.get? id = some number := by
  induction run with
  | nil => exact followed
  | cons stepped rest ih =>
      have hsteps := steps_of_step stepped
      obtain ⟨hfirst, hrest⟩ := not_or.mp (List.mem_cons.not.mp kept)
      exact ih (sound.step hsteps) active hrest
        (hsteps.keeps sound (Run.active rest active) (Ne.symm hfirst) followed)

/-- A harbour lists exactly the servers that have been accepted and not given up since, by ascending
identifier, and each as it was accepted. -/
structure Lists (h : Harbour) : Prop where
  ascending : h.fleet.list.Pairwise fun a b => a.id < b.id
  exact : ∀ id loader, (∃ listed ∈ h.fleet.list, listed.id = id ∧ listed.loader = loader) ↔
    ∃ server, Answer.standing id h.answers = some server ∧ server.loader = loader

/-- What the calls leave alone. To look whether a server is served changes nothing of the fleet, so
nothing is left of a call that is refused. -/
structure Spares (h : Harbour) : Prop where
  hail : ∀ server next, step (.hail server) h = some next → next.fleet = h.fleet
  unfollow : ∀ id next, step (.unfollow id) h = some next →
    next.fleet.store = h.fleet.store ∧ next.fleet.channels = h.fleet.channels
  dismiss : ∀ number next, step (.dismiss number) h = some next →
    next.fleet.store = h.fleet.store ∧ next.fleet.tracked = h.fleet.tracked
  invalidate : ∀ id next, step (.invalidate id) h = some next →
    next.fleet.tracked = h.fleet.tracked ∧ next.fleet.channels = h.fleet.channels

theorem spares (h : Harbour) : h.Spares := by
  constructor
  · intro server next stepped
    cases steps_of_step stepped with
    | refuse | enter => rfl
  · intro id next stepped
    cases steps_of_step stepped with
    | miss | unfollow => exact ⟨rfl, rfl⟩
  · intro number next stepped
    cases steps_of_step stepped with
    | dismiss => simp [Harbour.signal]
  · intro id next stepped
    cases steps_of_step stepped with
    | invalidate => exact ⟨rfl, rfl⟩

theorem lists_of_roster {answers : List Answer} (run : Roster.Run .empty answers roster)
    (told : h.answers = answers) (agree : ∀ id, roster.get? id = h.fleet.server? id) :
    h.Lists := by
  have hlist := Fleet.list_of_server? agree
  constructor
  · have hsorted : (h.fleet.list.map fun listed => (listed.id, listed.loader)).Pairwise
        (fun a b => a.1 < b.1) := by
      rw [hlist, List.pairwise_map]
      exact roster.sorted
    simpa [List.pairwise_map] using hsorted
  · intro id loader
    have hmem : (id, loader) ∈ h.fleet.list.map (fun listed => (listed.id, listed.loader)) ↔
        ∃ server, roster.get? id = some server ∧ server.loader = loader := by
      rw [hlist, List.mem_map]
      constructor
      · rintro ⟨entry, hentry, heq⟩
        obtain ⟨rfl, hloader⟩ := Prod.mk.inj heq
        exact ⟨entry.2, (Index.mem_entries_iff _ _).mp hentry, hloader⟩
      · rintro ⟨server, hserver, rfl⟩
        exact ⟨(id, server), (Index.mem_entries_iff _ _).mpr hserver, rfl⟩
    rw [told, Answer.standing, ← Index.get?_empty id, ← run.get?, ← hmem, List.mem_map]
    simp

/-- A harbour refines a map. Until the fleet is stopped, its answers are those of a roster, in the
order in which the calls took effect, and it lists what the roster holds. Whatever the callers do
from then on, as long as none of them gives up a server, one that wants it to be followed is
accepted if it was not followed yet, and its channel stays if it was. -/
theorem refines_roster {settings : ChannelSettings} (run : Run (start settings) moves h)
    (active : h.fleet.stopped = false) :
    (∃ roster, Roster.Run .empty h.answers roster ∧ ∀ id,
      roster.get? id = Answer.standing id h.answers ∧ roster.get? id = h.fleet.server? id ∧
        roster.contains id = h.fleet.isServed id) ∧
    h.Lists ∧ h.Spares ∧
    ∀ id more next, Run h more next → next.fleet.stopped = false → .unfollow id ∉ more →
      (∀ number, h.fleet.tracked.get? id = some number →
        next.fleet.tracked.get? id = some number) ∧
      ∃ given, next.answers = h.answers ++ given ∧
        (given.filter (Answer.accepts id)).length =
          if (h.fleet.server? id).isNone ∧ given.any (Answer.concerns id) then 1 else 0 := by
  have sound := run.sound (sound_start settings)
  obtain ⟨given, roster, hgiven, hroster, agree⟩ :=
    run.refines (sound_start settings) active fun id => Index.get?_empty id
  obtain rfl : h.answers = given := by simpa [start] using hgiven
  refine ⟨⟨roster, hroster, fun id => ⟨hroster.get?, agree id, ?_⟩⟩,
    lists_of_roster hroster rfl agree, h.spares, ?_⟩
  · rw [sound.charted.isServed_eq_server? active, Index.contains, agree]
  · intro id more next later nextActive kept
    refine ⟨fun number => later.keeps sound nextActive kept, ?_⟩
    obtain ⟨given, after, hgiven, hafter, -⟩ := later.refines sound nextActive agree
    obtain ⟨told, htold, huntold⟩ := later.told
    obtain rfl : given = told := List.append_cancel_left (hgiven.symm.trans htold)
    refine ⟨given, hgiven, ?_⟩
    rw [← agree]
    exact hafter.accepted fun found hmem => kept (huntold id found hmem)

/-- A server is followed and given up, and then two callers want it to be followed again. One of
them is accepted. -/
theorem refines_roster_sample : ∃ h next,
    Run (start Sample.policy) [.hail Sample.host, .launch, .unfollow Sample.host.id, .dismiss 0] h ∧
    h.fleet.stopped = false ∧
    Run h [.hail Sample.host, .launch, .hail Sample.host] next ∧ next.fleet.stopped = false ∧
    ∃ given, next.answers = h.answers ++ given ∧
      (given.filter (Answer.accepts Sample.host.id)).length = 1 := by
  have computed : ((run? step [.hail Sample.host, .launch, .unfollow Sample.host.id, .dismiss 0]
      (start Sample.policy)).bind fun h =>
        (run? step [.hail Sample.host, .launch, .hail Sample.host] h).map fun next =>
          (h.fleet.stopped, next.fleet.stopped, (h.fleet.server? Sample.host.id).isNone, h.answers,
            next.answers)) =
      some (false, false, true, [.tracked Sample.host true, .untracked Sample.host.id true],
        [.tracked Sample.host true, .untracked Sample.host.id true, .tracked Sample.host true,
          .tracked Sample.host false]) := rfl
  obtain ⟨h, hfirst, hnext⟩ := Option.bind_eq_some_iff.mp computed
  obtain ⟨next, hsecond, hseen⟩ := Option.map_eq_some_iff.mp hnext
  simp only [Prod.mk.injEq] at hseen
  obtain ⟨active, nextActive, absent, before, answers⟩ := hseen
  have first := run?_iff.mp hfirst
  have second := run?_iff.mp hsecond
  obtain ⟨-, -, -, later⟩ := refines_roster first active
  obtain ⟨-, given, hgiven, haccepted⟩ := later Sample.host.id _ next second nextActive (by simp)
  have hconcerns : given.any (Answer.concerns Sample.host.id) = true := by
    obtain rfl : [.tracked Sample.host true, .tracked Sample.host false] = given := by
      simpa [answers, before] using hgiven
    rfl
  rw [if_pos ⟨absent, hconcerns⟩] at haccepted
  exact ⟨h, next, first, active, second, nextActive, given, hgiven, haccepted⟩

end Harbour

end Flotilla
