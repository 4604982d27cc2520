import Flotilla.Proofs.Channel.Station
import Flotilla.Proofs.Run

/-!
# Reports in lockstep

A channel writes down and publishes nothing but the answers to its own questions. Each
report that it writes it publishes at once, so that what it writes and what it publishes are
the same reports in the same order. A question that comes to nothing leaves no trace in what
is known of the server.

The reason is that whatever is told stands right behind the signal that answers the question
which is open at that moment. A question that has ended otherwise is not open any more, so
nothing can be told until another one is asked.
-/

namespace Flotilla

namespace Errand

variable {a b : Errand} {id other : Nat}

/-- What a result holds depends only on the list that was asked for. -/
theorem report?_congr (h : a.key = b.key) : a.report? = b.report? := by
  cases a <;> cases b <;> first | rfl | simp [key] at h

/-- A question shows its number, and which list is asked for. -/
theorem key_of_request (h : a.request id = b.request other) : a.key = b.key ∧ id = other := by
  obtain ⟨hid, hmethod, -⟩ := Request.mk.inj h
  rw [method_eq, method_eq] at hmethod
  exact ⟨StatusKey.method_inj hmethod, hid⟩

end Errand

namespace Beat

variable {id : Nat} {beat : Beat}

/-- A channel neither asks nor tells anything while a question is open. -/
theorem LeavesOpen.idle (h : beat.LeavesOpen id) : beat.sends = false ∧ beat.tells = false := by
  cases beat with
  | heard signal => exact ⟨rfl, rfl⟩
  | did effect => exact h.elim
  | other deed => exact ⟨rfl, rfl⟩

end Beat

namespace Journal

/-- What must have happened before a report is written, and before one is published. -/
def Explains (before : Journal) : Beat → Prop
  | .did (.write report) =>
    ∃ (earlier : Journal) (signal : Signal) (errand : Errand) (id : Nat),
      before = earlier ++ [.heard signal] ∧ earlier.Open errand id ∧
        signal.Answers errand id report
  | .did (.publish report) => ∃ earlier : Journal, before = earlier ++ [.did (.write report)]
  | _ => True

/-- Whether every beat of a journal is explained by those before it. -/
def Explained (journal : Journal) : Prop :=
  ∀ (before : Journal) (beat : Beat) (after : Journal),
    journal = before ++ beat :: after → before.Explains beat

/-- Whether a question is asked in a stretch of a journal that ends without a report, and
no other question is asked there. -/
def Fruitless (stretch : Journal) : Prop :=
  ∃ errand id waiting signal after,
    stretch = .did (.send (errand.request id)) :: (waiting ++ .heard signal :: after) ∧
    (∀ beat ∈ waiting, beat.LeavesOpen id) ∧ (signal.ending? id).isSome = true ∧
    (∀ report, ¬ signal.Answers errand id report) ∧ ∀ beat ∈ after, beat.sends = false

variable {a b before journal waiting : Journal} {beat : Beat} {report : Report}
  {reports : List Report} {errand : Errand} {id : Nat} {request : Request}

theorem explained_nil : Explained [] := by
  intro before beat after h
  simp at h

theorem explains_of_silent (h : beat.tells = false) : before.Explains beat := by
  cases beat with
  | did effect =>
      cases effect with
      | write report => simp [Beat.tells, Effect.tells] at h
      | publish report => simp [Beat.tells, Effect.tells] at h
      | _ => trivial
  | _ => trivial

theorem Explained.concat (h : a.Explained) (beat_explained : a.Explains beat) :
    Explained (a ++ [beat]) := by
  intro before other after heq
  obtain ⟨rfl, rfl, -⟩ | ⟨rest, -, ha⟩ := concat_eq_append_cons_iff.mp heq
  · exact beat_explained
  · exact h before other rest ha

theorem Explained.append_silent (h : a.Explained) (silent : ∀ beat ∈ b, beat.tells = false) :
    Explained (a ++ b) := by
  induction b generalizing a with
  | nil => simpa using h
  | cons beat rest ih =>
      have hbeat := h.concat (explains_of_silent (silent beat (by simp)))
      have hrest := ih hbeat fun other hother => silent other (List.mem_cons_of_mem _ hother)
      simpa using hrest

/-- The question that was asked last is the one that is open. -/
theorem Open.last (h : journal.Open errand id)
    (split : journal = before ++ .did (.send request) :: waiting)
    (unasked : ∀ beat ∈ waiting, beat.sends = false) :
    request = errand.request id ∧ ∀ beat ∈ waiting, beat.LeavesOpen id := by
  obtain ⟨earlier, since, hsession, leavesOpen⟩ := h
  obtain ⟨past, hjournal⟩ := journal.exists_append_session
  have heq : before ++ .did (.send request) :: waiting =
      (past ++ earlier) ++ .did (.send (errand.request id)) :: since := by
    rw [← split, hjournal, hsession, List.append_assoc]
  -- a split behind the question would put one of the two among the beats that ask nothing
  rcases List.append_eq_append_iff.mp heq with ⟨gap, -, hgap⟩ | ⟨gap, -, hgap⟩
  · cases gap with
    | nil =>
        obtain ⟨hsend, rfl⟩ := List.cons.inj hgap
        exact ⟨Effect.send.inj (Beat.did.inj hsend), leavesOpen⟩
    | cons first gap =>
        obtain ⟨-, rfl⟩ := List.cons.inj hgap
        simpa [Beat.sends] using unasked (.did (.send (errand.request id))) (by simp)
  · cases gap with
    | nil =>
        obtain ⟨hsend, rfl⟩ := List.cons.inj hgap
        exact ⟨(Effect.send.inj (Beat.did.inj hsend)).symm, leavesOpen⟩
    | cons first gap =>
        obtain ⟨-, rfl⟩ := List.cons.inj hgap
        exact (leavesOpen (.did (.send request)) (by simp)).elim

theorem filter_tells_hear (signal : Signal) (effects : List Effect) :
    (Beat.heard signal :: effects.map .did).filter Beat.tells =
      (effects.filter Effect.tells).map .did := by
  rw [List.filter_cons_of_neg (by simp [Beat.tells]), List.filter_map]
  rfl

/-- The changes that are published are those that the published reports tell of. -/
theorem filterMap_change? (server : ServerId)
    (told : journal.filter Beat.tells = (Effect.telling reports).map .did) :
    journal.filterMap (Beat.change? server) = reports.map fun report => report.change server := by
  have htells : journal.filterMap (Beat.change? server) =
      (journal.filter Beat.tells).filterMap (Beat.change? server) := by
    rw [List.filterMap_filter]
    congr
    funext beat
    cases beat with
    | did effect => cases effect <;> rfl
    | _ => rfl
  rw [htells, told]
  clear told
  induction reports with
  | nil => rfl
  | cons report rest ih => simpa [Effect.telling, Beat.change?, List.filterMap_cons] using ih

/-- A question that a signal has ended otherwise is not answered any more, so that nothing is
written before another one is asked. -/
theorem Explained.unwritten (h : journal.Explained) {signal : Signal} {past rest : Journal}
    (split : journal = (before ++ .did (.send (errand.request id)) ::
      (waiting ++ .heard signal :: past)) ++ .did (.write report) :: rest)
    (leavesOpen : ∀ beat ∈ waiting, beat.LeavesOpen id) (ended : (signal.ending? id).isSome = true)
    (unanswered : ∀ report, ¬ signal.Answers errand id report)
    (unasked : ∀ beat ∈ past, beat.sends = false) : False := by
  obtain ⟨earlier, heard, other, number, hbefore, hopen, answers⟩ := h _ _ _ split
  have quiet : ∀ beat ∈ waiting, beat.sends = false := fun beat hmem =>
    (leavesOpen beat hmem).idle.1
  rcases List.eq_nil_or_concat past with rfl | ⟨passed, last, rfl⟩
  · -- the report would be the answer that the signal does not give
    have heq : earlier ++ [.heard heard] =
        (before ++ .did (.send (errand.request id)) :: waiting) ++ [.heard signal] := by
      simp [← hbefore]
    obtain ⟨hearlier, hheard⟩ := List.append_inj' heq rfl
    obtain rfl := Beat.heard.inj (List.singleton_inj.mp hheard)
    obtain ⟨hrequest, -⟩ := hopen.last hearlier quiet
    obtain ⟨hkey, rfl⟩ := Errand.key_of_request hrequest
    obtain ⟨result, hending, hreport⟩ := answers
    exact unanswered report ⟨result, hending, by rwa [Errand.report?_congr hkey]⟩
  · -- the question would still be open behind the signal
    have heq : earlier ++ [.heard heard] = (before ++ .did (.send (errand.request id)) ::
        (waiting ++ .heard signal :: passed)) ++ [last] := by
      simp [← hbefore]
    obtain ⟨hearlier, -⟩ := List.append_inj' heq rfl
    have hunasked : ∀ beat ∈ waiting ++ .heard signal :: passed, beat.sends = false := by
      refine List.forall_mem_append.mpr ⟨quiet, List.forall_mem_cons.mpr ⟨rfl, ?_⟩⟩
      intro beat hmem
      exact unasked beat (by simp [hmem])
    obtain ⟨hrequest, hleaves⟩ := hopen.last hearlier hunasked
    obtain ⟨-, rfl⟩ := Errand.key_of_request hrequest
    have hnone : signal.ending? id = none := hleaves (.heard signal) (by simp)
    simp [hnone] at ended

/-- Nothing comes of a question that ends without a report. -/
theorem Explained.silent (h : journal.Explained) {stretch rest : Journal}
    (split : journal = before ++ stretch ++ rest) (fruitless : stretch.Fruitless) :
    ∀ beat ∈ stretch, beat.tells = false := by
  obtain ⟨errand, id, waiting, signal, after, rfl, leavesOpen, ended, unanswered, unasked⟩ :=
    fruitless
  have unwritten (past : Journal) (report : Report) (left : Journal)
      (hafter : after = past ++ .did (.write report) :: left) : False := by
    have hsplit : journal = (before ++ .did (.send (errand.request id)) ::
        (waiting ++ .heard signal :: past)) ++ .did (.write report) :: (left ++ rest) := by
      simp [split, hafter]
    apply h.unwritten hsplit leavesOpen ended unanswered
    exact (List.forall_mem_append.mp (hafter ▸ unasked)).1
  have unpublished (past : Journal) (report : Report) (left : Journal)
      (hafter : after = past ++ .did (.publish report) :: left) : False := by
    have hsplit : journal = (before ++ .did (.send (errand.request id)) ::
        (waiting ++ .heard signal :: past)) ++ .did (.publish report) :: (left ++ rest) := by
      simp [split, hafter]
    -- what is published has just been written
    obtain ⟨earlier, hbefore⟩ := h _ _ _ hsplit
    rcases List.eq_nil_or_concat past with rfl | ⟨passed, last, rfl⟩
    · have heq : earlier ++ [.did (.write report)] =
          (before ++ .did (.send (errand.request id)) :: waiting) ++ [.heard signal] := by
        simp [← hbefore]
      simpa using (List.append_inj' heq rfl).2
    · have heq : earlier ++ [.did (.write report)] =
          (before ++ .did (.send (errand.request id)) ::
            (waiting ++ .heard signal :: passed)) ++ [last] := by
        simp [← hbefore]
      obtain rfl := List.singleton_inj.mp (List.append_inj' heq rfl).2
      exact unwritten passed report _ (by simpa using hafter)
  have hafter : ∀ beat ∈ after, beat.tells = false := by
    intro beat hmem
    obtain ⟨past, left, hsplit⟩ := List.append_of_mem hmem
    by_contra htells
    obtain ⟨report, rfl | rfl⟩ := Beat.eq_of_tells (by simpa using htells)
    · exact unwritten past report left hsplit
    · exact unpublished past report left hsplit
  have hwaiting : ∀ beat ∈ waiting, beat.tells = false := fun beat hmem =>
    (leavesOpen beat hmem).idle.2
  exact List.forall_mem_cons.mpr
    ⟨rfl, List.forall_mem_append.mpr ⟨hwaiting, List.forall_mem_cons.mpr ⟨rfl, hafter⟩⟩⟩

end Journal

namespace Station

variable {server : ServerId} {store : StatusStore} {s t : Station} {move : Move}

/-- All that was told at a station was answers to its own questions, each of them written
down and then published. -/
structure Truthful (server : ServerId) (store : StatusStore) (s : Station) : Prop
    extends Recorded server store s where
  explained : s.journal.Explained
  told : ∃ reports, s.journal.filter Beat.tells = (Effect.telling reports).map .did

theorem Truthful.step (h : Truthful server store s) (steps : Steps s move t) :
    Truthful server store t := by
  have recorded := h.toRecorded.step steps
  obtain ⟨reports, told⟩ := h.told
  cases steps with
  | other =>
      refine ⟨recorded, h.explained.append_silent (by simp [Beat.tells]), reports, ?_⟩
      simp [told, Beat.tells]
  | @hear signal effects channel steps =>
      rcases steps.tells with silent | ⟨connection, awaiting, errand, report, rest, asking, answers,
        rfl, silent⟩
      · refine ⟨recorded, h.explained.append_silent ?_, reports, ?_⟩
        · simpa [Beat.tells] using silent
        · rw [List.filter_append, told, Journal.filter_tells_hear,
            Effect.filter_tells_of_silent silent]
          simp
      · have hheard : Journal.Explained (s.journal ++ [.heard signal]) :=
          h.explained.concat trivial
        have hwritten : Journal.Explained
            (s.journal ++ [.heard signal] ++ [.did (.write report)]) :=
          hheard.concat ⟨s.journal, signal, errand, awaiting.id, rfl, h.asked asking, answers⟩
        have hpublished : Journal.Explained (s.journal ++ [.heard signal] ++
            [.did (.write report)] ++ [.did (.publish report)]) := hwritten.concat ⟨_, rfl⟩
        refine ⟨recorded, ?_, reports ++ [report], ?_⟩
        · have hrest : ∀ beat ∈ rest.map Beat.did, beat.tells = false := by
            simpa [Beat.tells] using silent
          simpa using hpublished.append_silent hrest
        · rw [List.filter_append, told, Journal.filter_tells_hear,
            Effect.filter_tells_answered report silent]
          simp [Effect.telling]

theorem truthful_run (server : Server) (settings : ChannelSettings) (cancelled : Bool)
    (store : StatusStore) (moves : List Move) :
    Truthful server.id store ((create server settings cancelled store).run moves) := by
  refine run_invariant Truthful.step ⟨recorded_create server settings cancelled store, ?_, [], ?_⟩
    moves
  · exact Journal.explained_nil
  · rfl

/-- Whatever a channel goes through: what it writes and what it publishes are the same
reports, each written first; every report answers the question that was open in the session;
and from a question that comes to nothing up to the next question it tells nothing, so that
what is known of its server stays the same unless somebody else changes it. -/
theorem reports_in_lockstep (server : Server) (settings : ChannelSettings) (cancelled : Bool)
    (store : StatusStore) (moves : List Move) :
    let s := (create server settings cancelled store).run moves
    (∃ reports, s.journal.filter Beat.tells = (Effect.telling reports).map .did ∧
      s.journal.filterMap (Beat.change? server.id) =
        reports.map fun report => report.change server.id) ∧
    (∀ (before : Journal) (report : Report) (after : Journal),
      s.journal = before ++ .did (.write report) :: after →
        ∃ (earlier : Journal) (signal : Signal) (errand : Errand) (id : Nat),
          before = earlier ++ [.heard signal] ∧ earlier.Open errand id ∧
            signal.Answers errand id report) ∧
    (∀ before stretch rest : Journal, s.journal = before ++ stretch ++ rest →
      stretch.Fruitless →
        (∀ beat ∈ stretch, beat.tells = false) ∧
        ((∀ beat ∈ stretch, beat.disturbs server.id = false) →
          ((before ++ stretch).replay server.id store).snapshot server.id =
            (before.replay server.id store).snapshot server.id)) ∧
    s.store = s.journal.replay server.id store := by
  intro s
  have htruthful := truthful_run server settings cancelled store moves
  obtain ⟨reports, told⟩ := htruthful.told
  refine ⟨⟨reports, told, Journal.filterMap_change? server.id told⟩, ?_, ?_, htruthful.known⟩
  · intro before report after split
    exact htruthful.explained before (.did (.write report)) after split
  · intro before stretch rest split fruitless
    have silent := htruthful.explained.silent split fruitless
    refine ⟨silent, ?_⟩
    intro undisturbed
    rw [Journal.replay_append]
    exact Journal.snapshot_replay silent undisturbed

/-- The players and the bans are told at the beginning of the session, each in answer to a question.
The server that then closes the connection instead of saying who has joined changes nothing about
that. -/
theorem reports_in_lockstep_sample :
    let s := Sample.station.run [.hear .start, .hear .opened, .hear Sample.nobody,
      .hear Sample.spotless, .hear (.arrival Sample.joined), .hear (.arrival .close)]
    (∃ reports, reports.length = 2 ∧
      s.journal.filter Beat.tells = (Effect.telling reports).map .did) ∧
    (∃ (earlier : Journal) (signal : Signal) (errand : Errand) (id : Nat),
      earlier.Open errand id ∧ signal.Answers errand id (.bans [])) ∧
    ∃ before stretch : Journal, s.journal = before ++ stretch ∧ stretch.Fruitless ∧
      (∀ beat ∈ stretch, beat.tells = false) ∧
      (s.store.snapshot Sample.host.id).bind Status.players = some [] := by
  intro s
  obtain ⟨uri, hhailing⟩ := Sample.run_hailing
  let before : Journal :=
    Sample.opening uri ++ Sample.seeding ++ [.heard (.arrival Sample.joined)]
  let stretch : Journal := [.did (.send (Errand.players.request 3)), .heard (.arrival .close),
    .did (.show ⟨.disconnected, 1, ⟨1⟩⟩), .did (.sleep ⟨1⟩)]
  have hjournal : s.journal = before ++ stretch := by
    have hrun : s = (Sample.station.run [.hear .start, .hear .opened, .hear Sample.nobody,
        .hear Sample.spotless, .hear (.arrival Sample.joined)]).step
          (.hear (.arrival .close)) := rfl
    rw [hrun, hhailing]
    rfl
  have fruitless : stretch.Fruitless := by
    refine ⟨.players, 3, [], .arrival .close, _, rfl, by simp, rfl, ?_, by simp [Beat.sends]⟩
    intro report answers
    obtain ⟨result, hended, -⟩ := answers
    simp [Signal.ending?] at hended
  obtain ⟨⟨reports, htold, -⟩, hanswered, hfruitless, hstore⟩ := reports_in_lockstep Sample.host
    Sample.policy false .empty [.hear .start, .hear .opened, .hear Sample.nobody,
      .hear Sample.spotless, .hear (.arrival Sample.joined), .hear (.arrival .close)]
  obtain ⟨silent, unchanged⟩ := hfruitless before stretch []
    (hjournal.trans (List.append_nil _).symm) fruitless
  refine ⟨⟨reports, ?_, htold⟩, ?_, before, stretch, hjournal, fruitless, silent, ?_⟩
  · have hfour : 4 = (Effect.telling reports).length := by
      have hall : s.journal.filter Beat.tells = (Effect.telling reports).map .did := htold
      rw [hjournal] at hall
      exact (congrArg List.length hall).trans (List.length_map _)
    rw [Effect.length_telling] at hfour
    omega
  · obtain ⟨earlier, signal, errand, id, -, asked, answers⟩ := hanswered
      (Sample.opening uri ++ Sample.seeding.take 5) (.bans []) _ hjournal
    exact ⟨earlier, signal, errand, id, asked, answers⟩
  · have hreplay : s.store = (before ++ stretch).replay Sample.host.id .empty := by
      rw [← hjournal]
      exact hstore
    rw [hreplay, unchanged (by simp [stretch, Beat.disturbs])]
    rfl

end Station

end Flotilla
