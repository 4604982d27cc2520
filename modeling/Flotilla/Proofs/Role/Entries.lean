import Flotilla.Proofs.Index
import Flotilla.Role

/-!
# What the entries of roles tell

Roles are kept as the entries of some servers. An entry that says that there is no role is blank:
it makes no difference to any role, but it is counted and it tells roles apart. Setting a role
leaves no blank entry behind, so blank entries come from texts that are read, and last until
something is set on their server. The number of entries is that of the servers with a role and of
the blank entries together.
-/

namespace Flotilla

namespace Roles

/-- An entry that says that there is no role. -/
def Blank (roles : Roles) (server : ServerId) : Prop :=
  roles.entries.get? server = some .none

/-- The last role that is given to a server, if one is given. -/
def given? (pairs : List (ServerId × Role)) (server : ServerId) : Option Role :=
  (pairs.reverse.find? fun pair => pair.1 = server).map fun pair => pair.2

/-- What the text of some roles lists, in its order. -/
def decodeListing : Decoder (List (ServerId × Role)) := fun depth tree => do
  let row ← Row.read [.required "roles" decodeEntries] depth tree
  row.required "roles" decodeEntries

/-- What a text lists, if it is one of roles. -/
def listing (text : String) : List (ServerId × Role) :=
  match decodeText decodeListing text with
  | .ok listed => listed
  | .error _ => []

/-- How roles come about: from nothing or from what a text lists, and by setting one role after the
other, be it from a list or one by one. -/
inductive Arises : List (ServerId × Role) → List (ServerId × Role) → Roles → Prop where
  | empty : Arises [] [] .empty
  | decoded {text roles} (h : decodeText decode text = .ok roles) : Arises (listing text) [] roles
  | ofList (given : List (ServerId × Role)) : Arises [] given (ofList given)
  | set {listed pairs roles} (h : Arises listed pairs roles) (server : ServerId) (role : Role) :
      Arises listed (pairs ++ [(server, role)]) (roles.set server role)

variable {roles others : Roles} {server s : ServerId} {role : Role}
  {listed pairs : List (ServerId × Role)}

section Entries

theorem get?_set : (roles.set server role).entries.get? s =
    if s = server then (if role = .none then none else some role) else roles.entries.get? s := by
  unfold set
  split <;> simp

theorem given?_concat : given? (pairs ++ [(server, role)]) s =
    if s = server then some role else given? pairs s := by
  by_cases h : s = server
  · simp [given?, h]
  · simp [given?, h, Ne.symm h]

theorem roleOn_eq_none_iff :
    roles.roleOn server = .none ↔ roles.entries.get? server = none ∨ roles.Blank server := by
  rw [roleOn, Blank]
  cases roles.entries.get? server <;> simp

/-- There is an entry where a role is held, and where the entry is blank. -/
theorem isSome_get?_iff :
    (roles.entries.get? server).isSome = true ↔
      roles.roleOn server ≠ .none ∨ roles.Blank server := by
  rw [Ne, roleOn_eq_none_iff, Blank, Option.isSome_iff_ne_none]
  cases roles.entries.get? server <;> simp [em']

theorem get?_congr (sameRole : roles.roleOn server = others.roleOn server)
    (sameBlank : roles.Blank server ↔ others.Blank server) :
    roles.entries.get? server = others.entries.get? server := by
  unfold roleOn Blank at *
  cases hroles : roles.entries.get? server <;> cases hothers : others.entries.get? server <;>
    simp_all

end Entries

section Listing

theorem decode_eq (depth : Nat) (tree : Tree) :
    decode depth tree = (decodeListing depth tree).map fun listed => ⟨Index.ofList listed⟩ := by
  unfold decode decodeListing
  cases Row.read [.required "roles" decodeEntries] depth tree with
  | error => rfl
  | ok row =>
      cases hrow : row.required "roles" decodeEntries <;>
        simp [bind, Except.bind, pure, Except.pure, Except.map, hrow]

/-- Roles that are read are what the text lists. -/
theorem eq_of_decodeText {text : String} (h : decodeText decode text = .ok roles) :
    roles = ⟨Index.ofList (listing text)⟩ := by
  unfold listing
  simp only [decodeText, decode_eq, bind, Except.bind] at h ⊢
  cases hlisted : decodeListing maxDepth (Document.read text.toList).root with
  | error => simp [hlisted, Except.map] at h
  | ok listed =>
      simp only [hlisted, Except.map] at h ⊢
      split at h <;> simp_all

end Listing

section Account

theorem ofList_concat :
    ofList (pairs ++ [(server, role)]) = (ofList pairs).set server role := by
  simp [ofList, List.foldl_append]

/-- What is set last on a server decides, and where nothing is set, what is listed last. -/
theorem Arises.get? (arises : Arises listed pairs roles) (server : ServerId) :
    roles.entries.get? server =
      match given? pairs server with
      | some role => if role = .none then none else some role
      | none => given? listed server := by
  induction arises with
  | empty => rfl
  | decoded h =>
      rw [eq_of_decodeText h]
      exact Index.get?_ofList _ server
  | ofList pairs =>
      induction pairs using List.reverseRecOn with
      | nil => rfl
      | append_singleton pairs pair ih =>
          rw [ofList_concat, get?_set, given?_concat, ih]
          split <;> rfl
  | set _ other role ih =>
      rw [get?_set, given?_concat, ih]
      split <;> rfl

theorem size_eq : roles.size =
    {server | roles.roleOn server ≠ .none}.ncard + {server | roles.Blank server}.ncard := by
  have hfinite : {server | (roles.entries.get? server).isSome = true}.Finite :=
    roles.entries.keys.finite_toSet.subset fun server h => (roles.entries.mem_keys server).mpr h
  have hunion : {server | (roles.entries.get? server).isSome = true} =
      {server | roles.roleOn server ≠ .none} ∪ {server | roles.Blank server} := by
    ext server
    exact isSome_get?_iff
  have hdisjoint : Disjoint {server | roles.roleOn server ≠ .none}
      {server | roles.Blank server} :=
    Set.disjoint_left.mpr fun server held blank => held (roleOn_eq_none_iff.mpr (.inr blank))
  rw [hunion] at hfinite
  rw [size, Index.size_eq_ncard, hunion, Set.ncard_union_eq hdisjoint
    (hfinite.subset Set.subset_union_left) (hfinite.subset Set.subset_union_right)]

theorem isEmpty_iff : roles.isEmpty = true ↔
    ∀ server, roles.roleOn server = .none ∧ ¬roles.Blank server := by
  have hkeys : roles.isEmpty = true ↔ roles.entries.keys = [] := by
    simp [isEmpty, Index.isEmpty, Index.keys]
  rw [hkeys, List.eq_nil_iff_forall_not_mem]
  refine forall_congr' fun server => ?_
  rw [Index.mem_keys, isSome_get?_iff, not_or, Classical.not_not]

theorem eq_iff : roles = others ↔
    ∀ server, roles.roleOn server = others.roleOn server ∧
      (roles.Blank server ↔ others.Blank server) := by
  constructor
  · rintro rfl server
    exact ⟨rfl, .rfl⟩
  · intro h
    have hentries : roles.entries = others.entries :=
      Index.ext_get? fun server => get?_congr (h server).1 (h server).2
    cases roles
    cases others
    simp_all

theorem Arises.roleOn_eq (arises : Arises listed pairs roles) (server : ServerId) :
    roles.roleOn server = ((given? pairs server).or (given? listed server)).getD .none := by
  rw [roleOn, arises.get?]
  cases given? pairs server with
  | none => rfl
  | some role =>
      by_cases h : role = .none <;> simp [h]

theorem Arises.blank_iff (arises : Arises listed pairs roles) (server : ServerId) :
    roles.Blank server ↔ given? pairs server = none ∧ given? listed server = some .none := by
  rw [Blank, arises.get?]
  cases given? pairs server with
  | none => simp
  | some role =>
      by_cases h : role = .none <;> simp [h]

end Account

/-- Whatever roles have come about, a role is the one that was given last. An entry is blank where a
text listed no role at the end and nothing was set since. The entries are counted, found missing and
told apart along with the blank ones. -/
theorem entries_exact (arises : Arises listed pairs roles) :
    (∀ server,
      roles.roleOn server = ((given? pairs server).or (given? listed server)).getD .none) ∧
    (∀ server, roles.Blank server ↔
      given? pairs server = none ∧ given? listed server = some .none) ∧
    roles.size =
      {server | roles.roleOn server ≠ .none}.ncard + {server | roles.Blank server}.ncard ∧
    (roles.isEmpty = true ↔ ∀ server, roles.roleOn server = .none ∧ ¬roles.Blank server) ∧
    ∀ others, roles = others ↔ ∀ server, roles.roleOn server = others.roleOn server ∧
      (roles.Blank server ↔ others.Blank server) :=
  ⟨arises.roleOn_eq, arises.blank_iff, size_eq, isEmpty_iff, fun _ => eq_iff⟩

end Roles

namespace Sample

/-- A text that lists no role on a server. -/
def vacancy : String :=
  "\x7b\"roles\":\x7b\"00000000-0000-0000-0000-000000000005\":\"none\"\x7d\x7d"

def vacant : ServerId := ⟨5, by decide⟩

def manned : ServerId := ⟨4, by decide⟩

theorem listing_vacancy : Roles.listing vacancy = [(vacant, .none)] := by decide +kernel

theorem decode_vacancy :
    decodeText Roles.decode vacancy = .ok ⟨Index.ofList [(vacant, .none)]⟩ := by decide +kernel

end Sample

namespace Roles

/-- A role is set on another server; the entry that was read stays. -/
theorem entries_exact_sample : ∃ roles,
    Arises [(Sample.vacant, .none)] [(Sample.manned, .admin)] roles ∧
      roles.Blank Sample.vacant ∧ roles.roleOn Sample.manned = .admin ∧
      2 = {server | roles.roleOn server ≠ .none}.ncard + {server | roles.Blank server}.ncard := by
  have arises := (Sample.listing_vacancy ▸ Arises.decoded Sample.decode_vacancy).set
    Sample.manned .admin
  obtain ⟨held, blank, size, -⟩ := entries_exact arises
  exact ⟨_, arises, (blank _).mpr ⟨by decide, rfl⟩, held _, size⟩

/-- Roles that are read count a server on which there is no role. -/
theorem not_always_counted : ∃ roles,
    decodeText decode Sample.vacancy = .ok roles ∧ (∀ server, roles.roleOn server = .none) ∧
      roles.size = 1 ∧ roles.isEmpty = false ∧ roles ≠ .empty := by
  refine ⟨_, Sample.decode_vacancy, fun server => ?_, rfl, rfl, by decide⟩
  have arises := Sample.listing_vacancy ▸ Arises.decoded Sample.decode_vacancy
  rw [arises.roleOn_eq]
  by_cases h : Sample.vacant = server <;> simp [given?, h]

end Roles

end Flotilla
