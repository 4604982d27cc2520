import Flotilla.Proofs.Viewing.Conversation
import Flotilla.Proofs.Watch.Refresh

/-!
# What a request for a refresh promises

A viewer who has read that a refresh was requested sees whatever is published from then on by roles
that were looked up after their command. That holds wherever the forwarder stood when the command
was read, also if it was waiting for room in a full queue. However many commands it gets until it is
back at the selection point, it looks the roles up once for all of them.
-/

namespace Flotilla

namespace Sample

/-- The text of a command to look the roles up again. -/
def refreshText : String :=
  "\x7b\"id\":\"c1\",\"type\":\"command\",\"timestamp\":\"2025-01-01T00:00:00Z\"," ++
    "\"payload\":\x7b\"command\":\"refresh_authorization\"\x7d\x7d"

theorem reply_refreshText : (Socket.reply midnight refreshText).1 = some .refreshAuthorization := by
  decide +kernel

end Sample

namespace Viewing

open Watch (Afresh Away)

variable {now : Instant} {intact : Bool} {text : String}

/-- A text is replied to with an acknowledgement exactly if it is taken for the command. -/
theorem acknowledges_iff : (Turn.reply now text).frame.Acknowledges ↔
    (Socket.reply now text).1 = some .refreshAuthorization := by
  refine (Socket.replies_reply now text).requestRefresh_mem_effects.symm.trans ?_
  rcases (Socket.reply now text).1 with _ | _ | _ <;> simp [Socket.effects]

/-- What a viewing does from an acknowledged text on, it does from a request on. -/
theorem Run.watching_refresh {v t : Viewing} {moves : List Move}
    (run : Run v (.meet now intact (.text text) :: moves) t)
    (acknowledged : (Turn.reply now text).frame.Acknowledges) :
    Watch.Run v.watch (.refresh :: moves.flatMap Move.watching) t.watch := by
  have watching := run.watching
  rw [List.flatMap_cons, Move.watching, if_pos (acknowledges_iff.mp acknowledged)] at watching
  exact watching

/-- An acknowledged text is a request to the watch, and nothing else. -/
theorem step_acknowledged {v : Viewing} (opened : v.socket = .opened)
    (acknowledged : (Turn.reply now text).frame.Acknowledges) :
    step (.meet now true (.text text)) v =
      some ⟨v.watch.obey .requestRefresh, .opened, v.deeds ++ (Turn.reply now text).deeds⟩ := by
  have hbefore : (Turn.reply now text).before = [.requestRefresh] := by
    rw [Turn.before, acknowledges_iff.mp acknowledged]
    rfl
  have hstep := socket_step_turn (.reply now text) true
  rw [Turn.now, Turn.signal, if_pos rfl] at hstep
  rw [step, if_pos opened, opened, hstep, Turn.deeds, hbefore]
  rfl

section Opened

variable {bus : Bus} {viewer : ViewerId} {minRole : Role} {roles : Roles} {capacity : Nat}
  {w : Watch}

/-- What is promised of requests, along every run of a subscription. A decision on an event that is
received after a request follows a question that was asked since. Requests that are made while the
forwarder is not parked at the selection point cost no question until it gets there, and then
exactly one, at once. So an event that is published after a viewer has read the acknowledgement of
their command is judged by what the authority said after the command was read. -/
theorem requests_heeded (opened : Watch.open? bus viewer minRole roles capacity = some w) :
    (∀ {earlier s moves t before position admitted after}, Watch.Run w earlier s →
      Watch.Run s (.refresh :: moves) t → t.ledger = before ++ .judged position admitted :: after →
      s.subscription.receiver.next ≤ position →
      Afresh roles minRole s t before position admitted) ∧
    (∀ {earlier s moves t parked}, Watch.Run w earlier s →
      s.subscription.forwarder ≠ .selecting true → Away s moves t → .refresh ∈ moves →
      t.subscription.forwarder = .selecting parked →
      t.ledger.requested = s.ledger.requested ∧ ∀ answer, ∃ next,
        Watch.step (.forward answer) t = some next ∧ next.subscription.forwarder = .loading none ∧
        ∀ rest u, Watch.Run next rest u → .refresh ∉ rest →
          u.ledger.requested = s.ledger.requested + 1) ∧
    ∀ {earlier v now intact text moves t before position admitted after},
      Run ⟨w, .opened, []⟩ earlier v → Run v (.meet now intact (.text text) :: moves) t →
      (Turn.reply now text).frame.Acknowledges →
      t.watch.ledger = before ++ .judged position admitted :: after →
      v.watch.bus.log.size ≤ position →
      Afresh roles minRole v.watch t.watch before position admitted := by
  have hminRole : w.subscription.minRole = minRole := by
    obtain rfl := Watch.eq_of_open opened
    rfl
  have afresh {earlier s moves t before position admitted after} (first : Watch.Run w earlier s)
      (second : Watch.Run s (.refresh :: moves) t)
      (hledger : t.ledger = before ++ .judged position admitted :: after)
      (received : s.subscription.receiver.next ≤ position) :
      Afresh roles minRole s t before position admitted := by
    rw [← hminRole, ← first.grows.minRole]
    exact second.afresh (first.account (Watch.account_of_open opened)) hledger received
  refine ⟨afresh, ?_, ?_⟩
  · intro earlier s moves t parked first unparked away asked selecting
    have orderly : Watch.Orderly s := first.invariant
      (fun _ _ _ _ h stepped => h.step (Watch.steps_of_step stepped)) (Watch.orderly_of_open opened)
    exact away.asks_once orderly unparked asked selecting
  · intro earlier v now intact text moves t before position admitted after first second
      acknowledged hledger published
    have account := first.watching.account (Watch.account_of_open opened)
    exact afresh first.watching (second.watching_refresh acknowledged) hledger
      (Nat.le_trans account.attached.next_le published)

open Watch.Move in
/-- A forwarder waits for room in the queue when its viewer, who has lost their roles, asks for a
refresh. The event that is published after that is not shown to them, and two requests cost one
question. -/
theorem requests_heeded_sample :
    (∃ (s t away next u : Watch) (before : Ledger),
      s.subscription.forwarder = .holding Sample.players ∧
      t.ledger = before ++ [.judged 2 false] ∧ Afresh Sample.user .user s t before 2 false ∧
      Away s [refresh, refresh, take, forward (.ok .empty)] away ∧
      Watch.step (forward (.ok .empty)) away = some next ∧
      Watch.Run next [forward (.ok .empty)] u ∧
      u.ledger.requested = s.ledger.requested + 1) ∧
    ∃ (v t : Viewing) (before : Ledger), v.watch.subscription.forwarder = .holding Sample.players ∧
      t.watch.ledger = before ++ [.judged 2 false] ∧
      Afresh Sample.user .user v.watch t.watch before 2 false := by
  obtain ⟨decided, once, shown⟩ := requests_heeded (Sample.open?_bus Sample.user)
  constructor
  · obtain ⟨s, hs, holding, received, ⟨t, ht, hledger⟩, away, haway, selecting, next, hnext,
      u, hu⟩ :
        ∃ s, run? Watch.step [publish Sample.players, forward (.ok .empty), publish Sample.players,
          forward (.ok .empty)] (Sample.watch Sample.user) = some s ∧
        s.subscription.forwarder = .holding Sample.players ∧ s.subscription.receiver.next = 2 ∧
        (∃ t, run? Watch.step [refresh, publish Sample.bans, take, forward (.ok .empty),
          forward (.ok .empty), forward (.ok .empty), forward (.ok .empty)] s = some t ∧
          t.ledger = [.judged 0 true, .judged 1 true, .asked 3 none, .told (.ok .empty)] ++
            [.judged 2 false]) ∧
        ∃ away, Away s [refresh, refresh, take, forward (.ok .empty)] away ∧
        away.subscription.forwarder = .selecting false ∧
        ∃ next, Watch.step (forward (.ok .empty)) away = some next ∧
        ∃ u, run? Watch.step [forward (.ok .empty)] next = some u :=
      ⟨_, rfl, rfl, rfl, ⟨_, rfl, rfl⟩, _,
        .cons rfl nofun (.cons rfl nofun (.cons rfl nofun (.cons rfl nofun (.nil _)))),
        rfl, _, rfl, _, rfl⟩
    have hrun := run?_iff.mp hs
    have afresh := decided hrun (run?_iff.mp ht) hledger (Nat.le_of_eq received)
    obtain ⟨-, asks⟩ := once hrun (by simp [holding]) haway (by simp) selecting
    obtain ⟨next', hnext', -, hcount⟩ := asks (.ok .empty)
    obtain rfl := Option.some.inj (hnext.symm.trans hnext')
    exact ⟨s, t, away, next, u, _, holding, hledger, afresh, haway, hnext, run?_iff.mp hu,
      hcount _ u (run?_iff.mp hu) (by simp)⟩
  · have acknowledged := acknowledges_iff.mpr Sample.reply_refreshText
    obtain ⟨v, hv, opened, holding, size, rest⟩ : ∃ v,
        run? step [.publish Sample.players, .forward (.ok .empty), .publish Sample.players,
          .forward (.ok .empty)] ⟨Sample.watch Sample.user, .opened, []⟩ = some v ∧
        v.socket = .opened ∧ v.watch.subscription.forwarder = .holding Sample.players ∧
        v.watch.bus.log.size = 2 ∧
        ∀ deeds, ∃ t, run? step [.publish Sample.bans,
          .meet Sample.midnight true (.event "e1" Sample.players), .forward (.ok .empty),
          .forward (.ok .empty), .forward (.ok .empty), .forward (.ok .empty)]
          ⟨v.watch.obey .requestRefresh, .opened, deeds⟩ = some t ∧
          t.watch.ledger = [.judged 0 true, .judged 1 true, .asked 3 none, .told (.ok .empty)] ++
            [.judged 2 false] :=
      ⟨_, rfl, rfl, rfl, rfl, fun _ => ⟨_, rfl, rfl⟩⟩
    obtain ⟨t, ht, hledger⟩ := rest _
    exact ⟨v, t, _, holding, hledger,
      shown (run?_iff.mp hv) (.cons (step_acknowledged opened acknowledged) (run?_iff.mp ht))
        acknowledged hledger (Nat.le_of_eq size)⟩

end Opened

end Viewing

end Flotilla
