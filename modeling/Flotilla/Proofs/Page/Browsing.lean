import Flotilla.Proofs.Http.Query
import Flotilla.Proofs.Http.Routing
import Flotilla.Proofs.Index
import Flotilla.Proofs.Page.Partition

/-!
# Browsing through the fleet

Whoever asks for one page of the followed servers after the other sees each of them once, by
ascending identifier. The state of their channels may change in the meantime, and so may everything
else about the gateway, as long as the same servers are followed: a followed server always has a
channel, so the list has a row for each of them.
-/

namespace Flotilla

namespace HttpRequest

/-- A request for a page of the followed servers. -/
structure Browses (request : HttpRequest) (page : PageRequest) : Prop where
  address : request.Addresses "GET" [.fixed "api", .fixed "v1", .fixed "instances"] []
  query : request.page = .ok page

/-- Every page whose numbers have 32 bits can be asked for. -/
theorem browses_listing (w : PageWords) : (listing w.request).Browses w.request :=
  ⟨⟨rfl, rfl⟩, page_listing w.page.toNat_lt w.perPage.toNat_lt⟩

end HttpRequest

/-- There is a row for each of the followed servers. -/
theorem Fleet.Charted.map_id_list {fleet : Fleet} (h : fleet.Charted) :
    fleet.list.map Tracking.id = fleet.tracked.keys := by
  rw [Fleet.list, List.map_filterMap, Index.keys, ← List.filterMap_eq_map]
  refine List.filterMap_congr fun entry hentry => ?_
  obtain ⟨channel, hchannel, -⟩ := h.mapped ((Index.mem_entries_iff _ _).mp hentry)
  simp [hchannel]

namespace Gateway

variable {g : Gateway}

/-- The answer that shows some servers. -/
def showing (shown : List Tracking) (info : PageInfo) : HttpResponse :=
  .json 200 (.record [("data", .arr (shown.map Tracking.toJson)), ("pagination", info.toJson)])

/-- A gateway with the fleet of a harbour, in which some servers are followed. -/
structure Follows (g : Gateway) (tracked : Index ServerId Nat) : Prop where
  moored : ∃ settings moves h, Harbour.Run (.start settings) moves h ∧ g.fleet = h.fleet
  tracked : g.fleet.tracked = tracked

theorem Follows.map_id_list {tracked : Index ServerId Nat} (follows : g.Follows tracked) :
    g.fleet.list.map Tracking.id = tracked.keys := by
  obtain ⟨⟨settings, moves, h, run, moored⟩, rfl⟩ := follows
  rw [moored]
  exact (run.sound (Harbour.sound_start settings)).charted.map_id_list

/-- Who asks for a page is shown it, and nothing changes. -/
theorem respond_of_browses {request : HttpRequest} {page : PageRequest}
    (browses : request.Browses page) (g : Gateway) (now : Instant) :
    g.respond now request =
      (some (showing (page.items g.fleet.list) (page.info g.fleet.list)), g) := by
  have hmethod : request.method = "GET" := browses.address.1
  have hcall : Call.ofRequest now request = .ok (.listServers page) := by
    rw [Call.ofRequest_of_addresses .listServers (by decide) (by decide) browses.address]
    exact Call.bind_pure_eq_ok.mpr ⟨page, browses.query, rfl⟩
  simp [respond, hmethod, hcall, perform, Gateway.page, showing]

end Gateway

/-- How many pages are asked for, if the first one tells how many there are. -/
def PageRequest.asked (length perPage : Nat) : Nat := max (pages length perPage) 1

/-- Somebody asks for one page after the other, of a gateway where the same servers are followed
each time. -/
structure Browsing (tracked : Index ServerId Nat) (perPage : Nat) where
  /-- The gateway as it is when a page is asked for; the first page has the number 0 here. -/
  gateway : Nat → Gateway
  request : Nat → HttpRequest
  follows : ∀ n < PageRequest.asked tracked.size perPage, (gateway n).Follows tracked
  browses : ∀ n < PageRequest.asked tracked.size perPage, (request n).Browses ⟨n + 1, perPage⟩

namespace Browsing

variable {tracked : Index ServerId Nat} {perPage : Nat}

/-- How many pages are asked for. -/
def asked (_ : Browsing tracked perPage) : Nat := PageRequest.asked tracked.size perPage

/-- The servers on a page. -/
def shown (b : Browsing tracked perPage) (n : Nat) : List Tracking :=
  PageRequest.items ⟨n + 1, perPage⟩ (b.gateway n).fleet.list

/-- The identifiers on all pages, one page after the other. -/
def ids (b : Browsing tracked perPage) : List ServerId :=
  (List.range b.asked).flatMap fun n => (b.shown n).map Tracking.id

/-- What it is for all followed servers to be seen. -/
structure Complete (b : Browsing tracked perPage) : Prop where
  /-- Every answer shows its page, and tells how many servers and pages there are. -/
  answered : ∀ n < b.asked, ∀ now, (b.gateway n).respond now (b.request n) =
    (some (Gateway.showing (b.shown n) ⟨n + 1, PageRequest.places perPage, tracked.size,
      PageRequest.pages tracked.size perPage⟩), b.gateway n)
  ascending : b.ids.Pairwise (· < ·)
  exact : ∀ id, id ∈ b.ids ↔ (tracked.get? id).isSome = true
  /-- If nothing happens to the fleet in the meantime, the pages are its list. -/
  unchanged : ∀ fleet, (∀ n < b.asked, (b.gateway n).fleet = fleet) →
    (List.range b.asked).flatMap b.shown = fleet.list

variable {n : Nat}

theorem length_list (b : Browsing tracked perPage) (h : n < b.asked) :
    (b.gateway n).fleet.list.length = tracked.size := by
  have hlength := congrArg List.length (b.follows n h).map_id_list
  simpa [Index.keys, Index.size] using hlength

/-- All followed servers are seen, by ascending identifier. -/
theorem ids_eq (b : Browsing tracked perPage) : b.ids = tracked.keys := by
  have hshown : ∀ n ∈ List.range b.asked, (b.shown n).map Tracking.id =
      PageRequest.items ⟨n + 1, perPage⟩ tracked.keys := by
    intro n hn
    rw [shown, ← PageRequest.items_map, (b.follows n (List.mem_range.mp hn)).map_id_list]
  rw [ids, List.flatMap_congr hshown]
  refine PageRequest.flatMap_items_of_le ?_
  rw [Index.keys, List.length_map]
  exact Nat.le_max_left _ _

theorem complete (b : Browsing tracked perPage) (few : tracked.size ≤ PageRequest.maxCount) :
    b.Complete where
  answered n hn now := by
    have hlength := b.length_list hn
    rw [Gateway.respond_of_browses (b.browses n hn), PageRequest.info_eq (hlength.trans_le few),
      hlength, Nat.max_eq_left (Nat.succ_pos n)]
    rfl
  ascending := by
    rw [ids_eq]
    exact tracked.pairwise_keys
  exact id := by
    rw [ids_eq]
    exact tracked.mem_keys id
  unchanged fleet same := by
    have hfirst : 0 < b.asked := Nat.le_max_right _ _
    have hlength := b.length_list hfirst
    rw [same 0 hfirst] at hlength
    have hshown : ∀ n ∈ List.range b.asked, b.shown n =
        PageRequest.items ⟨n + 1, perPage⟩ fleet.list := by
      intro n hn
      rw [shown, same n (List.mem_range.mp hn)]
    rw [List.flatMap_congr hshown]
    refine PageRequest.flatMap_items_of_le ?_
    rw [hlength]
    exact Nat.le_max_left _ _

end Browsing

namespace Sample

/-- Somebody asks a gateway that follows one server for pages of two. -/
def browsing : Browsing gateway.fleet.tracked 2 where
  gateway _ := gateway
  request n := .listing ⟨n + 1, 2⟩
  follows _ _ := ⟨⟨policy, [.hail host, .launch], _, run?_iff.mp rfl, rfl⟩, rfl⟩
  browses n hn := by
    obtain rfl : n = 0 := Nat.lt_one_iff.mp hn
    exact HttpRequest.browses_listing ⟨1, 2⟩

end Sample

namespace PageRequest

/-- Pages partition a list. Whatever words the number and the size of a page are given in, the pages
share out any list whose length has 32 bits, and nothing wraps around when one of them is worked
out. So whoever browses through the followed servers, which anybody can do, sees each of them once,
by ascending identifier. -/
theorem pages_partition {α : Type} {all : List α} (short : all.length ≤ maxCount) (w : PageWords) :
    Partitions all w.perPage.toNat (pages all.length w.perPage.toNat) ∧
    w.Exact all.length ∧ w.items all = w.request.items all ∧ w.info all = w.request.info all ∧
    (HttpRequest.listing w.request).Browses w.request ∧
    ∀ tracked, tracked.size ≤ maxCount → ∀ b : Browsing tracked w.perPage.toNat, b.Complete :=
  ⟨partitions short _, w.exact short, w.items_eq all, w.info_eq all,
    HttpRequest.browses_listing w, fun _ few b => b.complete few⟩

/-- A list of five is shown in three pages of two, and of a gateway that follows one server this one
is seen. -/
theorem pages_partition_sample : Partitions ['a', 'b', 'c', 'd', 'e'] 2 3 ∧
    Sample.browsing.Complete ∧ Sample.browsing.ids = [Sample.host.id] := by
  have short : ['a', 'b', 'c', 'd', 'e'].length ≤ maxCount := by decide
  obtain ⟨partition, -, -, -, -, complete⟩ := pages_partition short ⟨1, 2⟩
  exact ⟨partition, complete _ (by decide) Sample.browsing, rfl⟩

end PageRequest

end Flotilla
