import Mathlib.Data.List.Induction
import Flotilla.Proofs.Channel.Journal
import Flotilla.Proofs.Index
import Flotilla.Proofs.Run
import Flotilla.Proofs.Wire.Event

/-!
# What deeds leave of reports

Reports are written down and servers invalidated, one deed after the other. A list of a server is
changed by the deeds that concern it and by no other ones: the store is a table of lists, and each
of them has a history of its own (`known_after`). So the store keeps the last report of every list
since its server was last invalidated, and deeds that concern different lists may change places.

An entry tells of one list at least, so whatever is known of the lists decides the store.
-/

namespace Flotilla

namespace Report

/-- The list of a report, as it is given out. -/
def toJson : Report → Json
  | .players list => .arr (list.map Player.toJson)
  | .bans list => .arr (list.map Ban.toJson)

/-- A status with the list of a report in place of its own one. -/
def amend (report : Report) (status : Status) : Status :=
  match report with
  | .players list => { status with players := some list }
  | .bans list => { status with bans := some list }

/-- To write a report down is to put the amended copy of an entry in its place. -/
theorem write_eq (report : Report) (server : ServerId) (store : StatusStore) :
    report.write server store =
      ⟨store.entries.insert server (report.amend ((store.snapshot server).getD .unknown))⟩ := by
  cases report <;> rfl

/-- A value tells of a report what a server would tell of it, however the members of its objects are
arranged, and that includes the arrangement in which values are kept. -/
structure Tells (value : Json) (report : Report) : Prop where
  kept : value.Arranges value.sorted
  read : ∀ errand w, Errand.key errand = report.key → value.Arranges w →
    errand.report? w = some report

theorem tells_toJson (report : Report) : Tells report.toJson report := by
  cases report with
  | players list =>
      have proper : (Report.players list).toJson.isProper maxDepth = true :=
        Json.isProper_arr_map fun player _ => player.isProper_toJson 125
      refine ⟨Json.arranges_sorted _ proper, fun errand w about arranged => ?_⟩
      have hread := (Event.reads_players 125 list).decodeText proper arranged
      cases errand with
      | seedPlayers | players => simp [Errand.report?, hread, Except.toOption]
      | seedBans | bans => cases about
  | bans list =>
      have proper : (Report.bans list).toJson.isProper maxDepth = true :=
        Json.isProper_arr_map fun ban _ => ban.isProper_toJson 124
      refine ⟨Json.arranges_sorted _ proper, fun errand w about arranged => ?_⟩
      have hread := (Event.reads_bans 124 list).decodeText proper arranged
      cases errand with
      | seedPlayers | players => cases about
      | seedBans | bans => simp [Errand.report?, hread, Except.toOption]

end Report

namespace StatusStore

variable {store other : StatusStore} {server : ServerId} {key : StatusKey}

theorem known_bans_eq_some_iff {list : List Ban} :
    store.known server .bans = some (.bans list) ↔
      (store.snapshot server).bind Status.bans = some list := by
  cases hsnapshot : store.snapshot server <;> simp [known, Status.report?, hsnapshot]

/-- What is given out of a list is what is known of it. -/
theorem get?_eq_map_known (store : StatusStore) (server : ServerId) (key : StatusKey) :
    store.get? server key = (store.known server key).map Report.toJson := by
  unfold get? known
  cases store.snapshot server with
  | none => rfl
  | some status => cases key <;> simp [Status.get?, Status.report?, Report.toJson,
      Function.comp_def]

theorem get?_eq_none_iff : store.get? server key = none ↔ store.known server key = none := by
  rw [get?_eq_map_known, Option.map_eq_none_iff]

/-- Every entry tells of a list. -/
def Telling (store : StatusStore) : Prop :=
  ∀ {server}, (∀ key, store.known server key = none) → store.snapshot server = none

theorem isSome_snapshot_iff (h : store.Telling) :
    (store.snapshot server).isSome = true ↔ ∃ key, (store.known server key).isSome = true := by
  constructor
  · intro present
    by_contra unknown
    simp only [not_exists, Bool.not_eq_true, Option.isSome_eq_false_iff, Option.isNone_iff_eq_none]
      at unknown
    simp [h unknown] at present
  · rintro ⟨key, known⟩
    rw [StatusStore.known] at known
    cases hsnapshot : store.snapshot server with
    | none => simp [hsnapshot] at known
    | some status => rfl

/-- What is known of the lists decides the store. -/
theorem ext_known (h : store.Telling) (h' : other.Telling)
    (same : ∀ server key, store.known server key = other.known server key) : store = other := by
  have hsnapshot (server : ServerId) : store.snapshot server = other.snapshot server := by
    have hplayers := same server .players
    have hbans := same server .bans
    cases hstore : store.snapshot server with
    | none =>
        refine (h' fun key => ?_).symm
        rw [← same, known, hstore]
        rfl
    | some status =>
        cases hother : other.snapshot server with
        | none =>
            have hnone : store.snapshot server = none := h fun key => by
              rw [same, known, hother]
              rfl
            cases hstore.symm.trans hnone
        | some found =>
            obtain ⟨players, bans⟩ := status
            obtain ⟨players', bans'⟩ := found
            simp only [known, hstore, hother, Option.bind_some, Status.report?] at hplayers hbans
            rw [Option.map_injective (fun _ _ => Report.players.inj) hplayers,
              Option.map_injective (fun _ _ => Report.bans.inj) hbans]
  cases store
  cases other
  exact congrArg StatusStore.mk (Index.ext_get? hsnapshot)

end StatusStore

namespace Deed

variable {deed : Deed} {server : ServerId} {key : StatusKey} {store : StatusStore}
  {known : Option Report} {report : Report}

/-- Whether a deed concerns a list of a server. -/
def concerns (server : ServerId) (key : StatusKey) : Deed → Bool
  | .invalidate s => s = server
  | .write s report => s = server ∧ report.key = key

/-- The report that a deed writes down. -/
def report? : Deed → Option Report
  | .invalidate _ => none
  | .write _ report => some report

/-- What a deed makes of what is known of a list of a server. -/
def settle (server : ServerId) (key : StatusKey) (known : Option Report) (deed : Deed) :
    Option Report :=
  if deed.concerns server key then deed.report? else known

theorem server_of_concerns (h : deed.concerns server key = true) : deed.server = server := by
  cases deed with
  | invalidate s => exact of_decide_eq_true h
  | write s report => exact (of_decide_eq_true h).1

/-- A deed changes each list as if there were no other one. -/
theorem known_apply (deed : Deed) (store : StatusStore) (server : ServerId) (key : StatusKey) :
    (deed.apply store).known server key = deed.settle server key (store.known server key) := by
  by_cases apart : deed.server = server
  · subst apart
    cases deed with
    | invalidate s => simp [apply, settle, concerns, report?, StatusStore.known, Deed.server]
    | write s report =>
        simp [apply, settle, concerns, report?, Report.known_write, Deed.server]
  · rw [StatusStore.known, deed.snapshot_apply_of_ne apart, settle,
      if_neg (mt server_of_concerns apart)]
    rfl

/-- A list is known after a deed if the deed reports it, and if it was known before and the deed
does not concern it. -/
theorem settle_eq_some_iff : deed.settle server key known = some report ↔
    deed = .write server report ∧ report.key = key ∨
      known = some report ∧ ¬deed.concerns server key = true := by
  have hreported : deed.concerns server key = true ∧ deed.report? = some report ↔
      deed = .write server report ∧ report.key = key := by
    cases deed with
    | invalidate s => simp [report?]
    | write s other =>
        simp only [concerns, report?, decide_eq_true_eq, Option.some.injEq, write.injEq]
        constructor
        · rintro ⟨⟨rfl, about⟩, rfl⟩
          exact ⟨⟨rfl, rfl⟩, about⟩
        · rintro ⟨⟨rfl, rfl⟩, about⟩
          exact ⟨⟨rfl, about⟩, rfl⟩
  rw [← hreported, settle]
  split
  next concerned => simp [concerned]
  next unconcerned => simp [unconcerned]

/-- Only an invalidation makes a list unknown. -/
theorem eq_invalidate_of_settle (h : deed.settle server key (some report) = none) :
    deed = .invalidate server := by
  unfold settle at h
  split at h
  next concerned =>
    cases deed with
    | invalidate s => rw [of_decide_eq_true concerned]
    | write => cases h
  next => cases h

/-- A list is known after a deed if the deed reports it, and if it was known before and the deed
does not invalidate the server. -/
theorem isSome_settle_iff : (deed.settle server key known).isSome = true ↔
    (∃ report : Report, report.key = key ∧ deed = .write server report) ∨
      known.isSome = true ∧ ¬deed = .invalidate server := by
  unfold settle
  cases deed with
  | invalidate s => by_cases heq : s = server <;> simp [concerns, report?, heq]
  | write s report =>
      by_cases h : s = server ∧ report.key = key
      · simp [concerns, report?, h]
      · have hnever (about : report.key = key) (heq : s = server) : known.isSome = true :=
          absurd ⟨heq, about⟩ h
        simpa [concerns, h] using hnever

theorem telling_apply (h : store.Telling) (deed : Deed) : (deed.apply store).Telling := by
  intro server unknown
  by_cases apart : deed.server = server
  · subst apart
    cases deed with
    | invalidate s => simp [apply, Deed.server]
    | write s report =>
        have hknown := unknown report.key
        simp [known_apply, settle, concerns, report?, Deed.server] at hknown
  · rw [deed.snapshot_apply_of_ne apart]
    refine h fun key => ?_
    rw [StatusStore.known, ← deed.snapshot_apply_of_ne apart]
    exact unknown key

/-- Deeds of which neither minds the other: they are about different servers, or they report
different lists. -/
inductive Independent : Deed → Deed → Prop where
  | apart {first second : Deed} (h : first.server ≠ second.server) : Independent first second
  | lists {server : ServerId} {report other : Report} (h : report.key ≠ other.key) :
      Independent (.write server report) (.write server other)

/-- No list is concerned by both of two independent deeds. -/
theorem Independent.not_concerns {first second : Deed} (h : Independent first second)
    (server : ServerId) (key : StatusKey) (concerned : first.concerns server key = true) :
    second.concerns server key = false := by
  rw [← Bool.not_eq_true]
  intro concernedToo
  cases h with
  | apart h =>
      exact h ((server_of_concerns concerned).trans (server_of_concerns concernedToo).symm)
  | lists h =>
      exact h ((of_decide_eq_true concerned).2.trans (of_decide_eq_true concernedToo).2.symm)

/-- Deeds in another order: again and again, two independent ones that followed each other have
changed places. -/
inductive Reordered (deeds : List Deed) : List Deed → Prop where
  | same : Reordered deeds deeds
  | swap {before rest : List Deed} {first second : Deed}
      (h : Reordered deeds (before ++ first :: second :: rest))
      (independent : first.Independent second) : Reordered deeds (before ++ second :: first :: rest)

/-- The deeds that concern a list keep their order. -/
theorem Reordered.filter_concerns {deeds others : List Deed} (h : Reordered deeds others)
    (server : ServerId) (key : StatusKey) :
    others.filter (concerns server key) = deeds.filter (concerns server key) := by
  induction h with
  | same => rfl
  | @swap before rest first second h independent ih =>
      rw [← ih]
      have hnever := independent.not_concerns server key
      cases hfirst : first.concerns server key with
      | true => simp [hfirst, hnever hfirst]
      | false => simp [List.filter_cons, hfirst]

end Deed

namespace StatusStore

variable {deeds others : List Deed} {server : ServerId} {key : StatusKey}

/-- The store after some deeds, the first of which found nothing known. -/
def after (deeds : List Deed) : StatusStore := deeds.foldl Deed.apply .empty

theorem after_concat (deeds : List Deed) (deed : Deed) :
    after (deeds ++ [deed]) = deed.apply (after deeds) := by
  simp [after]

theorem telling_after (deeds : List Deed) : (after deeds).Telling := by
  induction deeds using List.reverseRecOn with
  | nil => exact fun _ => rfl
  | append_singleton deeds deed ih =>
      rw [after_concat]
      exact Deed.telling_apply ih deed

/-- Each list has a history of its own. -/
theorem known_after (deeds : List Deed) (server : ServerId) (key : StatusKey) :
    (after deeds).known server key = deeds.foldl (Deed.settle server key) none := by
  induction deeds using List.reverseRecOn with
  | nil => rfl
  | append_singleton deeds deed ih => simp [after_concat, Deed.known_apply, ih]

/-- That history consists of the deeds that concern the list. -/
theorem known_after_filter (deeds : List Deed) (server : ServerId) (key : StatusKey) :
    (after (deeds.filter (Deed.concerns server key))).known server key =
      (after deeds).known server key := by
  rw [known_after, known_after, List.foldl_filter]
  congr 1
  funext known deed
  unfold Deed.settle
  split <;> rfl

/-- Histories in which the same deeds concern each list, in the same order, leave the same store. -/
theorem after_eq_of_filter_eq
    (same : ∀ server key,
      deeds.filter (Deed.concerns server key) = others.filter (Deed.concerns server key)) :
    after deeds = after others := by
  refine ext_known (telling_after deeds) (telling_after others) fun server key => ?_
  rw [← known_after_filter deeds, same, known_after_filter]

/-- Independent deeds may change places. -/
theorem after_eq_of_reordered (reordered : Deed.Reordered deeds others) :
    after others = after deeds :=
  after_eq_of_filter_eq reordered.filter_concerns

theorem known_after_eq_some_iff {report : Report} :
    (after deeds).known server key = some report ↔ report.key = key ∧
      Lasting (· = .write server report) (·.concerns server key = true) deeds := by
  induction deeds using List.reverseRecOn with
  | nil => exact iff_of_false nofun fun h => not_lasting_nil h.2
  | append_singleton deeds deed ih =>
      rw [after_concat, Deed.known_apply, Deed.settle_eq_some_iff, ih, lasting_concat_iff,
        and_assoc, and_comm, ← and_or_left]

theorem isSome_known_after_iff : ((after deeds).known server key).isSome = true ↔
    Lasting (fun deed => ∃ report : Report, report.key = key ∧ deed = .write server report)
      (· = .invalidate server) deeds := by
  induction deeds using List.reverseRecOn with
  | nil => exact iff_of_false nofun not_lasting_nil
  | append_singleton deeds deed ih =>
      rw [after_concat, Deed.known_apply, Deed.isSome_settle_iff, ih, lasting_concat_iff]

theorem isSome_snapshot_after_iff : ((after deeds).snapshot server).isSome = true ↔
    Lasting (fun deed => ∃ report, deed = .write server report) (· = .invalidate server) deeds := by
  have hsaid : (fun deed : Deed => ∃ key, ∃ report : Report,
      report.key = key ∧ deed = .write server report) =
        fun deed => ∃ report, deed = .write server report := by
    funext deed
    simp
  rw [isSome_snapshot_iff (telling_after deeds), ← hsaid, ← exists_lasting_iff]
  exact exists_congr fun key => isSome_known_after_iff

/-- What it is for a store to keep what some deeds have left of the reports. -/
structure Keeps (store : StatusStore) (deeds : List Deed) : Prop where
  /-- The players that are known are those that were reported last, if the server has not been
  invalidated since. -/
  players : ∀ server list, (store.snapshot server).bind Status.players = some list ↔
    Lasting (· = .write server (.players list)) (·.concerns server .players = true) deeds
  bans : ∀ server list, (store.snapshot server).bind Status.bans = some list ↔
    Lasting (· = .write server (.bans list)) (·.concerns server .bans = true) deeds
  /-- A list is unknown if it has not been reported since the server was invalidated. -/
  unknown : ∀ server key, store.get? server key = none ↔
    ¬Lasting (fun deed => ∃ report : Report, report.key = key ∧ deed = .write server report)
      (· = .invalidate server) deeds
  /-- What is given out of a list tells of the list that is kept. -/
  given : ∀ server key value, store.get? server key = some value →
    ∃ report, store.known server key = some report ∧ Report.Tells value report
  /-- There are entries for the servers that something is known of. -/
  size : store.size = {server | Lasting (fun deed => ∃ report, deed = .write server report)
    (· = .invalidate server) deeds}.ncard

theorem keeps_after (deeds : List Deed) : (after deeds).Keeps deeds where
  players server list := by simp [← known_players_eq_some_iff, known_after_eq_some_iff, Report.key]
  bans server list := by simp [← known_bans_eq_some_iff, known_after_eq_some_iff, Report.key]
  unknown server key := by
    rw [get?_eq_none_iff, ← isSome_known_after_iff, Option.not_isSome_iff_eq_none]
  given server key value h := by
    rw [get?_eq_map_known, Option.map_eq_some_iff] at h
    obtain ⟨report, known, rfl⟩ := h
    exact ⟨report, known, report.tells_toJson⟩
  size := by
    rw [StatusStore.size, Index.size_eq_ncard]
    congr 1
    ext server
    exact isSome_snapshot_after_iff

end StatusStore

end Flotilla
