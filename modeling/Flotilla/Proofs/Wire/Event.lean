import Flotilla.Event
import Flotilla.Proofs.Json.Record
import Flotilla.Proofs.Wire.Identifier
import Flotilla.Proofs.Wire.Instant

/-!
# Events read back

A written event is read as the event, however the members of its objects are arranged. The order of
the proof is that of the record: players and bans come first, then the members of each kind of
event, and last the tag in front of them. What is left out, of a ban or of an event, is the same as
what is not given, while an empty text and an empty list are written and read as such.
-/

namespace Flotilla

namespace Json

variable {name : String} {value : Option Json} {depth : Nat}

@[simp] theorem mem_given {member : String × Json} :
    member ∈ given name value ↔ member.1 = name ∧ value = some member.2 := by
  cases value with
  | none => simp [given]
  | some value => simp [given, Prod.ext_iff, eq_comm]

theorem names_given_sublist (name : String) (value : Option Json) :
    ((given name value).map (·.1)).Sublist [name] := by
  cases value <;> simp [given]

theorem isProper_arr_map {α : Type} {toJson : α → Json} {values : List α}
    (each : ∀ value ∈ values, (toJson value).isProper depth = true) :
    (Json.arr (values.map toJson)).isProper (depth + 1) = true := by
  refine isProper_arr_iff.mpr ⟨depth, rfl, ?_⟩
  induction values with
  | nil => rfl
  | cons value values ih =>
      obtain ⟨hvalue, hvalues⟩ := List.forall_mem_cons.mp each
      rw [List.map_cons, areProper, hvalue, ih hvalues]
      rfl

end Json

/-- The column of a member that may be left out takes it if it is there. -/
theorem Column.take_given {α : Type} {decode : Decoder α} {columns : List Column} {depth : Nat}
    {name : String} {toJson : α → Json} {value : Option α}
    (found : columns.find? (·.name = name) = some (defaulted name (Decoder.optional decode)))
    (reads : ∀ a ∈ value, Decoder.Reads decode depth (toJson a) a)
    (present : ∀ a, toJson a ≠ .null) :
    ∀ member ∈ Json.given name (value.map toJson), Take columns depth member := by
  intro ⟨other, v⟩ hmem
  obtain ⟨rfl, hvalue⟩ := Json.mem_given.mp hmem
  obtain ⟨a, ha, rfl⟩ := Option.map_eq_some_iff.mp hvalue
  exact take_defaulted found ((reads a ha).optional (present a))

namespace Player

theorem isProper_toJson (player : Player) (depth : Nat) :
    player.toJson.isProper (depth + 1) = true := by
  refine Json.isProper_obj_iff.mpr ⟨depth, rfl, by simp, ?_⟩
  simp [Json.haveProper, Json.isProper]

theorem reads_decode (player : Player) (depth : Nat) :
    Decoder.Reads decode (depth + 1) player.toJson player := by
  intro w arranged
  obtain ⟨row, hread, rfl, holds⟩ := Row.exists_read
    [.required "id" Decoder.string, .required "name" Decoder.string] depth arranged (by simp)
    (List.forall_mem_cons.mpr ⟨Column.take_required rfl (Decoder.reads_string _),
      List.forall_mem_singleton.mpr (Column.take_required rfl (Decoder.reads_string _))⟩)
  have hid := holds.required "id" (by simp) (Decoder.reads_string player.id)
  have hname := holds.required "name" (by simp) (Decoder.reads_string player.name)
  rw [decode, hread]
  simp only [bind, Except.bind, hid, hname]
  rfl

end Player

namespace Ban

/-- The members of a written ban. -/
def members (ban : Ban) : List (String × Json) :=
  [("player", ban.player.toJson)] ++ Json.given "reason" (ban.reason.map .str) ++
    Json.given "source" (ban.source.map .str) ++ Json.given "expires" (ban.expires.map .str)

theorem names_members (ban : Ban) : (ban.members.map (·.1)).Nodup := by
  have hnames := (((List.Sublist.refl ["player"]).append
    (Json.names_given_sublist "reason" (ban.reason.map .str))).append
    (Json.names_given_sublist "source" (ban.source.map .str))).append
    (Json.names_given_sublist "expires" (ban.expires.map .str))
  simp only [members, List.map_append]
  exact hnames.nodup (by simp)

theorem isProper_toJson (ban : Ban) (depth : Nat) : ban.toJson.isProper (depth + 2) = true := by
  have hgiven (name : String) (text : Option String) :
      ∀ member ∈ Json.given name (text.map .str), member.2.isProper (depth + 1) = true := by
    intro member hmem
    obtain ⟨s, -, hs⟩ := Option.map_eq_some_iff.mp (Json.mem_given.mp hmem).2
    exact hs ▸ rfl
  refine Json.isProper_obj_iff.mpr ⟨depth + 1, rfl, ban.names_members, ?_⟩
  simp only [Json.haveProper_iff, List.forall_mem_append]
  exact ⟨⟨⟨List.forall_mem_singleton.mpr (ban.player.isProper_toJson depth), hgiven _ _⟩,
    hgiven _ _⟩, hgiven _ _⟩

theorem reads_decode (ban : Ban) (depth : Nat) :
    Decoder.Reads decode (depth + 2) ban.toJson ban := by
  intro w arranged
  have htext (text : Option String) :
      ∀ s ∈ text, Decoder.Reads Decoder.string (depth + 1) (.str s) s :=
    fun s _ => Decoder.reads_string s
  obtain ⟨row, hread, hdepth, holds⟩ := Row.exists_read columns (depth + 1) arranged
    ban.names_members (by
      simp only [List.forall_mem_append]
      exact ⟨⟨⟨List.forall_mem_singleton.mpr
        (Column.take_required rfl (ban.player.reads_decode depth)),
        Column.take_given rfl (htext _) nofun⟩, Column.take_given rfl (htext _) nofun⟩,
        Column.take_given rfl (htext _) nofun⟩)
  rw [← hdepth] at htext
  have hplayer := holds.required "player" (by simp) (hdepth ▸ ban.player.reads_decode depth)
  have hreason := holds.optional "reason" .str ban.reason (by simp) (htext _) nofun
  have hsource := holds.optional "source" .str ban.source (by simp) (htext _) nofun
  have hexpires := holds.optional "expires" .str ban.expires (by simp) (htext _) nofun
  rw [decode, hread]
  simp only [bind, Except.bind, hplayer, hreason, hsource, hexpires]
  rfl

end Ban

namespace Event

section Members

variable (change : Change) (time : Instant) (depth : Nat)

/-- The members of events, whatever changed. -/
theorem names_changeMembers :
    ((changeMembers change).map (·.1)).Sublist
      ["instance_id", "affected_observers", "players", "bans"] := by
  have haffected (affected : Option (List ViewerId)) :
      ((affectedMember affected).map (·.1)).Sublist ["affected_observers", "players", "bans"] :=
    (Json.names_given_sublist _ _).trans (List.sublist_append_left _ ["players", "bans"])
  cases change with
  | created server affected | deleted server affected => exact (haffected affected).cons_cons _
  | updated server affected =>
      rw [changeMembers, List.map_append]
      exact (Json.names_given_sublist "instance_id" _).append (haffected affected)
  | playersChanged server players => exact .cons_cons _ (.cons _ (.cons_cons _ (.cons _ .slnil)))
  | banListChanged server bans => exact .cons_cons _ (.cons _ (.cons _ (.cons_cons _ .slnil)))

theorem nodup_names :
    ("type" :: ((changeMembers change ++ [("timestamp", time.toJson)]).map (·.1))).Nodup := by
  have hnames := (names_changeMembers change).append (.refl ["timestamp"])
  rw [List.map_append]
  exact (hnames.cons_cons "type").nodup (by simp)

theorem isProper_changeMembers :
    ∀ member ∈ changeMembers change, member.2.isProper (depth + 3) = true := by
  have hserver (server : ServerId) : server.toJson.isProper (depth + 3) = true := rfl
  have haffected (affected : Option (List ViewerId)) :
      ∀ member ∈ affectedMember affected, member.2.isProper (depth + 3) = true := by
    intro member hmem
    obtain ⟨viewers, -, hviewers⟩ := Option.map_eq_some_iff.mp (Json.mem_given.mp hmem).2
    exact hviewers ▸ Json.isProper_arr_map fun viewer _ => rfl
  cases change with
  | created server affected | deleted server affected =>
      exact List.forall_mem_cons.mpr ⟨hserver server, haffected affected⟩
  | updated server affected =>
      refine List.forall_mem_append.mpr ⟨fun member hmem => ?_, haffected affected⟩
      obtain ⟨id, -, hid⟩ := Option.map_eq_some_iff.mp (Json.mem_given.mp hmem).2
      exact hid ▸ hserver id
  | playersChanged server players =>
      refine List.forall_mem_cons.mpr ⟨hserver server, List.forall_mem_singleton.mpr ?_⟩
      exact Json.isProper_arr_map fun player _ => player.isProper_toJson _
  | banListChanged server bans =>
      refine List.forall_mem_cons.mpr ⟨hserver server, List.forall_mem_singleton.mpr ?_⟩
      exact Json.isProper_arr_map fun ban _ => ban.isProper_toJson _

theorem isProper_toJson (event : Event) : event.toJson.isProper (depth + 4) = true := by
  refine Json.isProper_obj_iff.mpr ⟨depth + 3, rfl, nodup_names event.change event.time, ?_⟩
  rw [Json.haveProper_iff]
  exact List.forall_mem_cons.mpr ⟨rfl, List.forall_mem_append.mpr
    ⟨isProper_changeMembers event.change depth, List.forall_mem_singleton.mpr rfl⟩⟩

theorem reads_decodeViewers (viewers : List ViewerId) :
    Decoder.Reads decodeViewers (depth + 1) (.arr (viewers.map Id.toJson)) viewers :=
  Decoder.reads_list fun viewer _ => viewer.reads_decode depth

theorem reads_players (players : List Player) :
    Decoder.Reads (Decoder.list Player.decode) (depth + 2) (.arr (players.map Player.toJson))
      players :=
  Decoder.reads_list fun player _ => player.reads_decode depth

theorem reads_bans (bans : List Ban) :
    Decoder.Reads (Decoder.list Ban.decode) (depth + 3) (.arr (bans.map Ban.toJson)) bans :=
  Decoder.reads_list fun ban _ => ban.reads_decode depth

/-- Every member of a written event has a column. -/
theorem take_members :
    ∀ member ∈ changeMembers change ++ [("timestamp", time.toJson)],
      Column.Take (columns (kind ⟨change, time⟩)) (depth + 3) member := by
  cases change with
  | created server affected | deleted server affected =>
      refine List.forall_mem_cons.mpr ⟨Column.take_required rfl (server.reads_decode _),
        List.forall_mem_append.mpr ⟨?_, List.forall_mem_singleton.mpr
          (Column.take_defaulted rfl (time.reads_decode _))⟩⟩
      exact Column.take_given rfl (fun viewers _ => reads_decodeViewers _ viewers) nofun
  | updated server affected =>
      refine List.forall_mem_append.mpr ⟨List.forall_mem_append.mpr ⟨?_, ?_⟩,
        List.forall_mem_singleton.mpr (Column.take_defaulted rfl (time.reads_decode _))⟩
      · exact Column.take_given rfl (fun id _ => id.reads_decode _) nofun
      · exact Column.take_given rfl (fun viewers _ => reads_decodeViewers _ viewers) nofun
  | playersChanged server players =>
      exact List.forall_mem_cons.mpr ⟨Column.take_required rfl (server.reads_decode _),
        List.forall_mem_cons.mpr ⟨Column.take_required rfl (reads_players _ players),
          List.forall_mem_singleton.mpr (Column.take_defaulted rfl (time.reads_decode _))⟩⟩
  | banListChanged server bans =>
      exact List.forall_mem_cons.mpr ⟨Column.take_required rfl (server.reads_decode _),
        List.forall_mem_cons.mpr ⟨Column.take_required rfl (reads_bans _ bans),
          List.forall_mem_singleton.mpr (Column.take_defaulted rfl (time.reads_decode _))⟩⟩

theorem readChange_eq {row : Row} (hdepth : row.depth = depth + 3)
    (holds : row.Holds (changeMembers change ++ [("timestamp", time.toJson)])) :
    readChange (kind ⟨change, time⟩) row = .ok change := by
  have hserver {server : ServerId} (mem : ("instance_id", server.toJson) ∈ changeMembers change) :
      row.required "instance_id" Id.decode = .ok server :=
    holds.required _ (List.mem_append_left _ mem) (server.reads_decode _)
  have haffected (affected : Option (List ViewerId))
      (written : ∀ v, ("affected_observers", v) ∈ changeMembers change ↔
        v ∈ affected.map fun viewers => .arr (viewers.map Id.toJson)) :
      row.optional "affected_observers" decodeViewers = .ok affected :=
    holds.optional _ (fun viewers : List ViewerId => .arr (viewers.map Id.toJson)) affected
      (by simpa using written) (fun viewers _ => hdepth ▸ reads_decodeViewers _ viewers) nofun
  cases change with
  | created server affected | deleted server affected =>
      have hviewers := haffected affected (by simp [changeMembers, affectedMember])
      simp only [kind, readChange, bind, Except.bind, hserver List.mem_cons_self, hviewers]
      rfl
  | updated server affected =>
      have hnamed := holds.optional "instance_id" Id.toJson server
        (by simp [changeMembers, affectedMember]) (fun id _ => id.reads_decode _) nofun
      have hviewers := haffected affected (by simp [changeMembers, affectedMember])
      simp only [kind, readChange, bind, Except.bind, hnamed, hviewers]
      rfl
  | playersChanged server players =>
      have hplayers := holds.required "players" (by simp [changeMembers])
        (hdepth ▸ reads_players (depth + 1) players)
      simp only [kind, readChange, bind, Except.bind, hserver List.mem_cons_self, hplayers]
      rfl
  | banListChanged server bans =>
      have hbans := holds.required "bans" (by simp [changeMembers])
        (hdepth ▸ reads_bans depth bans)
      simp only [kind, readChange, bind, Except.bind, hserver List.mem_cons_self, hbans]
      rfl

end Members

theorem reads_decode (event : Event) (now : Instant) (depth : Nat) :
    Decoder.Reads (decode now) (depth + 4) event.toJson event := by
  intro w arranged
  obtain ⟨kept, htagged, hkept⟩ := Tagged.exists_read arranged (EventKind.ofName?_name event.kind)
    (event.isProper_toJson depth)
  obtain ⟨row, hread, hdepth, holds⟩ := Row.exists_read (columns event.kind) maxDepth hkept
    (nodup_names event.change event.time).of_cons (take_members event.change event.time 124)
  have hchange := readChange_eq event.change event.time 124 hdepth holds
  have htime := holds.defaulted "timestamp" (by simp) (event.time.reads_decode _) now
  rw [decode, htagged]
  simp only [bind, Except.bind, Tagged.row, hread, hchange, htime]
  rfl

/-- The text of another arrangement of an event is read as the event. -/
theorem decodeText_arranged (event : Event) (now : Instant) {w : Json}
    (arranged : event.toJson.Arranges w) : decodeText (decode now) w.text = .ok event :=
  (event.reads_decode now 123).decodeText (event.isProper_toJson 123) arranged

end Event

end Flotilla
