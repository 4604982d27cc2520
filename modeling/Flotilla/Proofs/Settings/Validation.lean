import Mathlib.Data.List.Forall2
import Flotilla.Proofs.Text.Numeral
import Flotilla.Proofs.Text.Pieces
import Flotilla.Settings

/-!
# Validation of settings

The five checks of `Settings.read`, each described by what has to stand in its text. Settings are
read from exactly the texts that pass all of them, and otherwise the error is the one of the first
check that fails. A number that cannot be used makes no difference at all: it may as well be
missing.
-/

namespace Flotilla

section Spelling

/-- A name that is the name of a role if the case of letters is not looked at. -/
def Role.Spells (name : String) (role : Role) : Prop :=
  List.Forall₂ (fun c d => c = d ∨ c = d.toUpper) name.toList role.name.toList

theorem toLower_eq_iff {c d : Char} (h : d.isLower = true) :
    c.toLower = d ↔ c = d ∨ c = d.toUpper := by
  have hd : 'a'.val ≤ d.val ∧ d.val ≤ 'z'.val := by
    obtain ⟨ha, hz⟩ := Bool.and_eq_true_iff.mp h
    exact ⟨of_decide_eq_true ha, of_decide_eq_true hz⟩
  have hupper : d.toUpper.val = d.val + ('A'.val - 'a'.val) := by
    have hcase : d.toUpper = ⟨d.val + ('A'.val - 'a'.val), _⟩ := dif_pos hd
    rw [hcase]
  simp only [Char.ext_iff, hupper]
  by_cases hc : c.val ≥ 'A'.val ∧ c.val ≤ 'Z'.val
  · have hlower : c.toLower.val = c.val + ('a'.val - 'A'.val) := by
      have hcase : c.toLower = ⟨c.val + ('a'.val - 'A'.val), _⟩ := dif_pos hc
      rw [hcase]
    rw [hlower]
    grind
  · have hlower : c.toLower = c := dif_neg hc
    rw [hlower]
    grind

theorem map_toLower_eq_iff {cs ds : List Char} (h : ∀ d ∈ ds, d.isLower = true) :
    cs.map Char.toLower = ds ↔ List.Forall₂ (fun c d => c = d ∨ c = d.toUpper) cs ds := by
  induction ds generalizing cs with
  | nil => simp
  | cons d ds ih =>
      obtain ⟨hd, hds⟩ := List.forall_mem_cons.mp h
      cases cs with
      | nil => simp
      | cons c cs =>
          rw [List.map_cons, List.cons.injEq, List.forall₂_cons, toLower_eq_iff hd, ih hds]

namespace Role

variable {name : String} {role : Role}

theorem isLower_of_mem_name : ∀ c ∈ role.name.toList, c.isLower = true :=
  List.all_eq_true.mp (by cases role <;> decide)

theorem ofName?_eq_some_iff : ofName? name = some role ↔ name = role.name := by
  constructor
  · intro h
    have hname := List.find?_some h
    exact (of_decide_eq_true hname).symm
  · rintro rfl
    exact ofName?_name role

theorem parse_eq_ok_iff : parse name = .ok role ↔ Spells name role := by
  have hfound : ofName? (String.ofList (name.toList.map Char.toLower)) = some role ↔
      Spells name role := by
    rw [ofName?_eq_some_iff, Spells, ← map_toLower_eq_iff isLower_of_mem_name,
      ← String.toList_inj, String.toList_ofList]
  rw [← hfound, parse]
  split <;> simp [*]

theorem parse_eq_error_iff {fault : UnknownRole} :
    parse name = .error fault ↔ fault = ⟨name⟩ ∧ ∀ role, ¬Spells name role := by
  simp only [← parse_eq_ok_iff]
  unfold parse
  split <;> simp [eq_comm]

end Role

end Spelling

theorem Placeholder.occurs_iff_infix {mark cs : List Char} :
    occurs mark cs = true ↔ mark <:+: cs := by
  induction cs with
  | nil => simp [occurs]
  | cons c cs ih =>
      have hfront : (Split.after? mark (c :: cs)).isSome = true ↔ mark <+: c :: cs := by
        simp only [Option.isSome_iff_exists, Split.after?_eq_some_iff]
        exact exists_congr fun _ => eq_comm
      rw [occurs, Bool.or_eq_true, hfront, ih, List.infix_cons_iff]

section Results

variable {α β ε δ : Type} {x : Except ε α} {a b : α} {e f : ε}

theorem bind_eq_error_iff {g : α → Except ε β} :
    x.bind g = .error e ↔ x = .error e ∨ ∃ a, x = .ok a ∧ g a = .error e := by
  cases x <;> simp [Except.bind]

theorem bind_eq_ok_iff {g : α → Except ε β} {b : β} :
    x.bind g = .ok b ↔ ∃ a, x = .ok a ∧ g a = .ok b := by
  cases x <;> simp [Except.bind]

theorem mapError_eq_ok_iff {g : ε → δ} : x.mapError g = .ok a ↔ x = .ok a := by
  cases x <;> simp [Except.mapError]

theorem mapError_eq_error_iff {g : ε → δ} {d : δ} :
    x.mapError g = .error d ↔ ∃ e, x = .error e ∧ g e = d := by
  cases x <;> simp [Except.mapError]

/-- A guard that fails with an error lets everything else pass. -/
theorem guard_eq_ok_iff {p : Prop} [Decidable p] :
    (if p then Except.error e else .ok a) = .ok b ↔ ¬p ∧ a = b := by
  split <;> simp [*]

theorem guard_eq_error_iff {p : Prop} [Decidable p] :
    (if p then Except.error e else .ok a) = .error f ↔ p ∧ e = f := by
  split <;> simp [*]

end Results

namespace Settings

/-- The text of the address to listen on. -/
def listenText (lookup : String → Option String) : String :=
  (lookup "LISTEN_ADDR").getD usualListen

/-- The text of the template of endpoints. -/
def templateText (lookup : String → Option String) : String :=
  (lookup "MANAGEMENT_URL_TEMPLATE").getD usualTemplate

/-- The text of the steps of the delays. -/
def stepsText (lookup : String → Option String) : String :=
  (lookup "RECONNECT_BACKOFF_STEPS").getD BackoffPolicy.usualText

/-- The number in force for a text: the one it writes, or else the usual one. -/
inductive InForce (usual : Nat) : Option String → Nat → Prop where
  | unset : InForce usual none usual
  | given {text n} (h : Digits.Signed bound text.toList n) : InForce usual (some text) n
  | unusable {text} (h : ∀ n, ¬Digits.Signed bound text.toList n) : InForce usual (some text) usual

/-- The settings that some texts describe. -/
structure Describes (lookup : String → Option String) (settings : Settings) : Prop where
  listen : SocketAddress.parse? (listenText lookup) = some settings.listen
  busCapacity : InForce 10000 (lookup "EVENT_BUS_CAPACITY") settings.busCapacity
  channelName : settings.channelName = (lookup "EVENT_CHANNEL_NAME").getD usualChannelName
  template : settings.template = templateText lookup
  marked : Endpoint.mark <:+: settings.template.toList
  timeout : ∃ seconds, InForce 10 (lookup "MANAGEMENT_REQUEST_TIMEOUT_SECS") seconds ∧
    seconds ≠ 0 ∧ settings.timeout = .ofSeconds seconds
  queueCapacity : InForce 256 (lookup "OBSERVER_QUEUE_CAPACITY") settings.queueCapacity
  minRole : match lookup "MIN_VIEWING_ROLE" with
    | none => settings.minRole = .user
    | some name => Role.Spells name settings.minRole
  backoff : ∃ ceiling, InForce 60 (lookup "RECONNECT_BACKOFF_CEILING_SECS") ceiling ∧
    BackoffPolicy.parse (stepsText lookup) (.ofSeconds ceiling) = .ok settings.backoff

/-- What is checked. -/
inductive Check where
  | listen
  | template
  | timeout
  | minRole
  | backoff
  deriving DecidableEq

/-- The checks in their order. -/
def Check.all : List Check := [.listen, .template, .timeout, .minRole, .backoff]

/-- What some texts have to satisfy to pass a check. -/
inductive Passes (lookup : String → Option String) : Check → Prop where
  | listen {address} (h : SocketAddress.parse? (listenText lookup) = some address) :
      Passes lookup .listen
  | template (h : Endpoint.mark <:+: (templateText lookup).toList) : Passes lookup .template
  | timeout {seconds} (inForce : InForce 10 (lookup "MANAGEMENT_REQUEST_TIMEOUT_SECS") seconds)
      (h : seconds ≠ 0) : Passes lookup .timeout
  | anyRole (h : lookup "MIN_VIEWING_ROLE" = none) : Passes lookup .minRole
  | minRole {name role} (given : lookup "MIN_VIEWING_ROLE" = some name)
      (h : Role.Spells name role) : Passes lookup .minRole
  | backoff {ceiling policy}
      (inForce : InForce 60 (lookup "RECONNECT_BACKOFF_CEILING_SECS") ceiling)
      (h : BackoffPolicy.parse (stepsText lookup) (.ofSeconds ceiling) = .ok policy) :
      Passes lookup .backoff

/-- How some texts fail a check. -/
inductive Fails (lookup : String → Option String) : Check → SettingsError → Prop where
  | listen (h : SocketAddress.parse? (listenText lookup) = none) : Fails lookup .listen .listen
  | template (h : ¬Endpoint.mark <:+: (templateText lookup).toList) :
      Fails lookup .template (.template (templateText lookup))
  | timeout (inForce : InForce 10 (lookup "MANAGEMENT_REQUEST_TIMEOUT_SECS") 0) :
      Fails lookup .timeout .zeroTimeout
  | minRole {name} (given : lookup "MIN_VIEWING_ROLE" = some name)
      (h : ∀ role, ¬Role.Spells name role) : Fails lookup .minRole (.minRole ⟨name⟩)
  | backoff {ceiling error}
      (inForce : InForce 60 (lookup "RECONNECT_BACKOFF_CEILING_SECS") ceiling)
      (h : BackoffPolicy.parse (stepsText lookup) (.ofSeconds ceiling) = .error error) :
      Fails lookup .backoff (.backoff error)

/-- The error of the first check that fails. -/
inductive FirstFailure (lookup : String → Option String) : List Check → SettingsError → Prop where
  | here {check checks error} (h : Fails lookup check error) :
      FirstFailure lookup (check :: checks) error
  | later {check checks error} (h : Passes lookup check) (rest : FirstFailure lookup checks error) :
      FirstFailure lookup (check :: checks) error

/-- The names of the numbers. -/
def numbers : List String :=
  ["EVENT_BUS_CAPACITY", "MANAGEMENT_REQUEST_TIMEOUT_SECS", "OBSERVER_QUEUE_CAPACITY",
    "RECONNECT_BACKOFF_CEILING_SECS"]

variable {lookup : String → Option String} {settings : Settings} {error : SettingsError}
  {check : Check} {checks : List Check}

theorem number_eq_iff {text : Option String} {usual n : Nat} :
    number text usual = n ↔ InForce usual text n := by
  cases text with
  | none =>
      constructor
      · rintro rfl
        exact .unset
      · rintro ⟨⟩
        rfl
  | some text =>
      rw [number, Option.bind_some]
      cases hread : Digits.readSigned? bound text.toList with
      | none =>
          have unusable : ∀ n, ¬Digits.Signed bound text.toList n := by
            intro n h
            simp [Digits.readSigned?_eq_some_iff.mpr h] at hread
          constructor
          · rintro rfl
            exact .unusable unusable
          · rintro (_ | h | _)
            · exact absurd h (unusable n)
            · rfl
      | some m =>
          have given := Digits.readSigned?_eq_some_iff.mp hread
          constructor
          · rintro rfl
            exact .given given
          · rintro (_ | h | h)
            · rw [Digits.readSigned?_eq_some_iff.mpr h] at hread
              exact (Option.some.inj hread).symm
            · exact absurd given (h m)

theorem number_eq_of_unusable {text : String} (h : ∀ n, ¬Digits.Signed bound text.toList n)
    (usual : Nat) : number (some text) usual = number none usual := by
  rw [number_eq_iff]
  exact .unusable h

section Stages

/-- The address to listen on. -/
def listenOf (lookup : String → Option String) : Except SettingsError SocketAddress :=
  match SocketAddress.parse? (listenText lookup) with
  | some address => .ok address
  | none => .error .listen

/-- The template of endpoints. -/
def templateOf (lookup : String → Option String) : Except SettingsError String :=
  if Endpoint.isTemplate (templateText lookup) = false then .error (.template (templateText lookup))
  else .ok (templateText lookup)

/-- The seconds that an answer may take. -/
def timeoutOf (lookup : String → Option String) : Except SettingsError Nat :=
  let seconds := number (lookup "MANAGEMENT_REQUEST_TIMEOUT_SECS") 10
  if seconds = 0 then .error .zeroTimeout else .ok seconds

/-- The role that is needed. -/
def minRoleOf (lookup : String → Option String) : Except SettingsError Role :=
  match lookup "MIN_VIEWING_ROLE" with
  | none => .ok .user
  | some name => (Role.parse name).mapError .minRole

/-- The policy of the delays. -/
def backoffOf (lookup : String → Option String) : Except SettingsError BackoffPolicy :=
  (BackoffPolicy.parse (stepsText lookup)
    (.ofSeconds (number (lookup "RECONNECT_BACKOFF_CEILING_SECS") 60))).mapError .backoff

theorem read_eq_stages : read lookup =
    (listenOf lookup).bind fun listen => (templateOf lookup).bind fun template =>
    (timeoutOf lookup).bind fun seconds => (minRoleOf lookup).bind fun minRole =>
    (backoffOf lookup).bind fun backoff =>
      .ok ⟨listen, number (lookup "EVENT_BUS_CAPACITY") 10000,
        (lookup "EVENT_CHANNEL_NAME").getD usualChannelName, template, .ofSeconds seconds,
        number (lookup "OBSERVER_QUEUE_CAPACITY") 256, minRole, backoff⟩ := by
  unfold read listenOf templateOf timeoutOf minRoleOf listenText templateText
  cases SocketAddress.parse? ((lookup "LISTEN_ADDR").getD usualListen) with
  | none => rfl
  | some address =>
      by_cases hmark :
          Endpoint.isTemplate ((lookup "MANAGEMENT_URL_TEMPLATE").getD usualTemplate) = false
      · simp only [if_pos hmark]
        rfl
      · by_cases hzero : number (lookup "MANAGEMENT_REQUEST_TIMEOUT_SECS") 10 = 0
        · simp only [if_neg hmark, if_pos hzero]
          rfl
        · simp only [if_neg hmark, if_neg hzero]
          cases lookup "MIN_VIEWING_ROLE" <;> rfl

end Stages

section Checking

theorem listenOf_eq_ok_iff {address : SocketAddress} : listenOf lookup = .ok address ↔
    SocketAddress.parse? (listenText lookup) = some address := by
  unfold listenOf
  split <;> simp [*]

theorem listenOf_eq_error_iff : listenOf lookup = .error error ↔ Fails lookup .listen error := by
  unfold listenOf
  constructor
  · intro h
    split at h
    next => simp at h
    next hnone =>
      obtain rfl := Except.error.inj h
      exact .listen hnone
  · rintro ⟨hnone⟩
    rw [hnone]

theorem isTemplate_eq_false_iff {template : String} :
    Endpoint.isTemplate template = false ↔ ¬Endpoint.mark <:+: template.toList := by
  rw [← Placeholder.occurs_iff_infix, Bool.not_eq_true]
  rfl

theorem templateOf_eq_ok_iff {template : String} : templateOf lookup = .ok template ↔
    template = templateText lookup ∧ Endpoint.mark <:+: template.toList := by
  rw [templateOf, guard_eq_ok_iff, isTemplate_eq_false_iff, not_not]
  constructor
  · rintro ⟨marked, rfl⟩
    exact ⟨rfl, marked⟩
  · rintro ⟨rfl, marked⟩
    exact ⟨marked, rfl⟩

theorem templateOf_eq_error_iff :
    templateOf lookup = .error error ↔ Fails lookup .template error := by
  rw [templateOf, guard_eq_error_iff, isTemplate_eq_false_iff]
  constructor
  · rintro ⟨missing, rfl⟩
    exact .template missing
  · intro h
    cases h with
    | template missing => exact ⟨missing, rfl⟩

theorem timeoutOf_eq_ok_iff {seconds : Nat} : timeoutOf lookup = .ok seconds ↔
    InForce 10 (lookup "MANAGEMENT_REQUEST_TIMEOUT_SECS") seconds ∧ seconds ≠ 0 := by
  rw [timeoutOf, guard_eq_ok_iff, ← number_eq_iff]
  constructor
  · rintro ⟨positive, rfl⟩
    exact ⟨rfl, positive⟩
  · rintro ⟨rfl, positive⟩
    exact ⟨positive, rfl⟩

theorem timeoutOf_eq_error_iff : timeoutOf lookup = .error error ↔ Fails lookup .timeout error := by
  rw [timeoutOf, guard_eq_error_iff, number_eq_iff]
  constructor
  · rintro ⟨inForce, rfl⟩
    exact .timeout inForce
  · intro h
    cases h with
    | timeout inForce => exact ⟨inForce, rfl⟩

theorem minRoleOf_eq_ok_iff {role : Role} : minRoleOf lookup = .ok role ↔
    match lookup "MIN_VIEWING_ROLE" with
    | none => role = .user
    | some name => Role.Spells name role := by
  unfold minRoleOf
  cases lookup "MIN_VIEWING_ROLE" with
  | none => simp [eq_comm]
  | some name => exact mapError_eq_ok_iff.trans Role.parse_eq_ok_iff

theorem minRoleOf_eq_error_iff : minRoleOf lookup = .error error ↔ Fails lookup .minRole error := by
  unfold minRoleOf
  split
  next hnone =>
    constructor
    · simp
    · intro h
      cases h with
      | minRole given => simp [hnone] at given
  next name hname =>
    rw [mapError_eq_error_iff]
    constructor
    · rintro ⟨fault, hfault, rfl⟩
      obtain ⟨rfl, unknown⟩ := Role.parse_eq_error_iff.mp hfault
      exact .minRole hname unknown
    · intro h
      cases h with
      | minRole given unknown =>
          obtain rfl := Option.some.inj (hname.symm.trans given)
          exact ⟨_, Role.parse_eq_error_iff.mpr ⟨rfl, unknown⟩, rfl⟩

theorem backoffOf_eq_ok_iff {policy : BackoffPolicy} : backoffOf lookup = .ok policy ↔
    ∃ ceiling, InForce 60 (lookup "RECONNECT_BACKOFF_CEILING_SECS") ceiling ∧
      BackoffPolicy.parse (stepsText lookup) (.ofSeconds ceiling) = .ok policy := by
  simp only [backoffOf, mapError_eq_ok_iff, ← number_eq_iff, exists_eq_left']

theorem backoffOf_eq_error_iff : backoffOf lookup = .error error ↔ Fails lookup .backoff error := by
  rw [backoffOf, mapError_eq_error_iff]
  constructor
  · rintro ⟨fault, hfault, rfl⟩
    exact .backoff (number_eq_iff.mp rfl) hfault
  · intro h
    cases h with
    | backoff inForce failed => exact ⟨_, number_eq_iff.mpr inForce ▸ failed, rfl⟩

/-- The checks of some texts are decided by how far the reader gets. -/
theorem passes_iff : Passes lookup check ↔
    match check with
    | .listen => ∃ address, listenOf lookup = .ok address
    | .template => ∃ template, templateOf lookup = .ok template
    | .timeout => ∃ seconds, timeoutOf lookup = .ok seconds
    | .minRole => ∃ role, minRoleOf lookup = .ok role
    | .backoff => ∃ policy, backoffOf lookup = .ok policy := by
  simp only [listenOf_eq_ok_iff, templateOf_eq_ok_iff, timeoutOf_eq_ok_iff, minRoleOf_eq_ok_iff,
    backoffOf_eq_ok_iff]
  constructor
  · intro h
    cases h with
    | listen h => exact ⟨_, h⟩
    | template h => exact ⟨_, rfl, h⟩
    | timeout inForce h => exact ⟨_, inForce, h⟩
    | anyRole h => exact ⟨.user, by rw [h]⟩
    | minRole given h => exact ⟨_, by rw [given]; exact h⟩
    | backoff inForce h => exact ⟨_, _, inForce, h⟩
  · intro h
    cases check with
    | listen => exact .listen h.choose_spec
    | template =>
        obtain ⟨_, rfl, h⟩ := h
        exact .template h
    | timeout =>
        obtain ⟨_, inForce, h⟩ := h
        exact .timeout inForce h
    | minRole =>
        obtain ⟨role, h⟩ := h
        cases hname : lookup "MIN_VIEWING_ROLE" with
        | none => exact .anyRole hname
        | some name => exact .minRole hname (by rwa [hname] at h)
    | backoff =>
        obtain ⟨_, _, inForce, h⟩ := h
        exact .backoff inForce h

end Checking

theorem firstFailure_cons_iff : FirstFailure lookup (check :: checks) error ↔
    Fails lookup check error ∨ Passes lookup check ∧ FirstFailure lookup checks error := by
  constructor
  · rintro (h | ⟨h, rest⟩)
    · exact .inl h
    · exact .inr ⟨h, rest⟩
  · rintro (h | ⟨h, rest⟩)
    · exact .here h
    · exact .later h rest

theorem not_firstFailure_nil : ¬FirstFailure lookup [] error := nofun

theorem read_eq_error_iff : read lookup = .error error ↔ FirstFailure lookup Check.all error := by
  simp only [Check.all, firstFailure_cons_iff, not_firstFailure_nil, and_false, or_false,
    passes_iff, read_eq_stages, bind_eq_error_iff, listenOf_eq_error_iff, templateOf_eq_error_iff,
    timeoutOf_eq_error_iff, minRoleOf_eq_error_iff, backoffOf_eq_error_iff, reduceCtorEq,
    exists_and_right, exists_false]

theorem read_eq_ok_iff : read lookup = .ok settings ↔ Describes lookup settings := by
  simp only [read_eq_stages, bind_eq_ok_iff, listenOf_eq_ok_iff, templateOf_eq_ok_iff,
    timeoutOf_eq_ok_iff, minRoleOf_eq_ok_iff, backoffOf_eq_ok_iff, Except.ok.injEq]
  constructor
  · rintro ⟨listen, hlisten, template, ⟨rfl, marked⟩, seconds, hseconds, role, hrole, policy,
      hpolicy, rfl⟩
    exact ⟨hlisten, number_eq_iff.mp rfl, rfl, rfl, marked, ⟨seconds, hseconds.1, hseconds.2, rfl⟩,
      number_eq_iff.mp rfl, hrole, hpolicy⟩
  · rintro ⟨hlisten, busCapacity, channelName, template, marked,
      ⟨seconds, inForce, hseconds, htimeout⟩, queueCapacity, hrole, hpolicy⟩
    refine ⟨_, hlisten, _, ⟨template, marked⟩, seconds, ⟨inForce, hseconds⟩, _, hrole, _, hpolicy,
      ?_⟩
    rw [number_eq_iff.mpr busCapacity, number_eq_iff.mpr queueCapacity, ← channelName, ← htimeout]

theorem exists_read_eq_ok_iff :
    (∃ settings, read lookup = .ok settings) ↔ ∀ check, Passes lookup check := by
  simp only [passes_iff, read_eq_stages, bind_eq_ok_iff, Except.ok.injEq]
  constructor
  · rintro ⟨_, listen, hlisten, template, htemplate, seconds, hseconds, role, hrole, policy,
      hpolicy, -⟩ check
    cases check with
    | listen => exact ⟨listen, hlisten⟩
    | template => exact ⟨template, htemplate⟩
    | timeout => exact ⟨seconds, hseconds⟩
    | minRole => exact ⟨role, hrole⟩
    | backoff => exact ⟨policy, hpolicy⟩
  · intro h
    obtain ⟨listen, hlisten⟩ := h .listen
    obtain ⟨template, htemplate⟩ := h .template
    obtain ⟨seconds, hseconds⟩ := h .timeout
    obtain ⟨role, hrole⟩ := h .minRole
    obtain ⟨policy, hpolicy⟩ := h .backoff
    exact ⟨_, listen, hlisten, template, htemplate, seconds, hseconds, role, hrole, policy, hpolicy,
      rfl⟩

/-- Texts that differ in the numbers only, and not in the numbers in force, are read alike. -/
theorem read_congr {others : String → Option String}
    (same : ∀ key, key ∉ numbers → others key = lookup key)
    (inForce : ∀ key usual, number (others key) usual = number (lookup key) usual) :
    read others = read lookup := by
  simp only [read, inForce, same "LISTEN_ADDR" (by decide), same "EVENT_CHANNEL_NAME" (by decide),
    same "MANAGEMENT_URL_TEMPLATE" (by decide), same "MIN_VIEWING_ROLE" (by decide),
    same "RECONNECT_BACKOFF_STEPS" (by decide)]

theorem read_update_unusable {key text : String} (numeric : key ∈ numbers)
    (unusable : ∀ n, ¬Digits.Signed bound text.toList n) :
    read (Function.update lookup key (some text)) = read (Function.update lookup key none) := by
  apply read_congr
  · intro other hother
    have hne : other ≠ key := by
      rintro rfl
      exact hother numeric
    simp [Function.update_of_ne hne]
  · intro other usual
    by_cases heq : other = key
    · subst heq
      simpa using number_eq_of_unusable unusable usual
    · simp [Function.update_of_ne heq]

/-- Settings are read from the texts that pass every check, and from no others, and they are the
settings that the texts describe. Otherwise the error is that of the first check that fails. A
number that cannot be used counts as missing, in what is read as well as in what is reported. The
channels to the servers are set up like the gateway itself. -/
theorem read_exact (lookup : String → Option String) :
    ((∃ settings, read lookup = .ok settings) ↔ ∀ check, Passes lookup check) ∧
    (∀ settings, read lookup = .ok settings ↔ Describes lookup settings) ∧
    (∀ error, read lookup = .error error ↔ FirstFailure lookup Check.all error) ∧
    (∀ key ∈ numbers, ∀ text, (∀ n, ¬Digits.Signed bound text.toList n) →
      read (Function.update lookup key (some text)) = read (Function.update lookup key none)) ∧
    ∀ settings, read lookup = .ok settings →
      settings.channel = ⟨settings.template, settings.timeout, settings.backoff⟩ :=
  ⟨exists_read_eq_ok_iff, fun _ => read_eq_ok_iff, fun _ => read_eq_error_iff,
    fun _ numeric _ => read_update_unusable numeric, fun _ _ => rfl⟩

/-- A number with a sign in the wrong place is as good as none, and the rest is as usual. -/
theorem read_exact_sample :
    (∀ n, ¬Digits.Signed bound "5+".toList n) ∧
    read (Function.update (fun _ => none) "OBSERVER_QUEUE_CAPACITY" (some "5+")) =
      read (Function.update (fun _ => none) "OBSERVER_QUEUE_CAPACITY" none) ∧
    (∀ check, Passes (fun _ => none) check) ∧
    ∃ settings, read (fun _ => none) = .ok settings ∧
      settings.channel = ⟨usualTemplate, .ofSeconds 10, .usual⟩ := by
  have unusable : ∀ n, ¬Digits.Signed bound "5+".toList n := by
    intro n h
    have hnone : Digits.readSigned? bound "5+".toList = none := by decide
    rw [Digits.readSigned?_eq_some_iff.mpr h] at hnone
    simp at hnone
  have usual : read (fun _ => none) = .ok ⟨.v4 ⟨[0, 0, 0, 0]⟩ 3000, 10000, usualChannelName,
      usualTemplate, .ofSeconds 10, 256, .user, .usual⟩ := rfl
  obtain ⟨exact, -, -, unused, channel⟩ := read_exact fun _ => none
  exact ⟨unusable, unused "OBSERVER_QUEUE_CAPACITY" (by decide) "5+" unusable,
    exact.mp ⟨_, usual⟩, _, usual, channel _ usual⟩

end Settings

end Flotilla
