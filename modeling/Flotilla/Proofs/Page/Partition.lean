import Mathlib.Data.UInt
import Mathlib.Order.Bounds.Defs
import Flotilla.Page

/-!
# Pages share a list out

Side by side, the first pages of a list are the front of the list, up to where the last of them ends
(`flatMap_items`). As many pages as are said to be there hold all of it, and one page less does not
(`pages_le_iff`); everything about the length of a page comes from that.

The numbers of a page have 32 bits, and places in a list are counted with 64. `PageWords` works a
page out in such numbers, where a result that is too large would wrap around, and nothing does.
-/

namespace Flotilla

namespace PageRequest

variable {α β : Type} {all : List α} {page perPage length n : Nat}

/-- How many items a page has room for. -/
def places (perPage : Nat) : Nat := min (max perPage 1) 100

/-- How many pages a list of some length is shown in. -/
def pages (length perPage : Nat) : Nat := (length + places perPage - 1) / places perPage

theorem places_pos (perPage : Nat) : 0 < places perPage := by
  unfold places
  omega

theorem items_map (request : PageRequest) (f : α → β) (all : List α) :
    request.items (all.map f) = (request.items all).map f := by
  simp [items]

theorem items_of_pos (h : 0 < page) (all : List α) : items ⟨page, perPage⟩ all =
    (all.drop ((page - 1) * places perPage)).take (places perPage) := by
  rw [items, clamped, Nat.max_eq_left h]
  rfl

theorem length_items (h : 0 < page) (all : List α) : (items ⟨page, perPage⟩ all).length =
    min (places perPage) (all.length - (page - 1) * places perPage) := by
  rw [items_of_pos h, List.length_take, List.length_drop]

/-- The first pages of a list are its front. -/
theorem flatMap_items (all : List α) (perPage n : Nat) :
    ((List.range n).flatMap fun i => items ⟨i + 1, perPage⟩ all) =
      all.take (n * places perPage) := by
  induction n with
  | zero => simp
  | succ n ih =>
      rw [List.range_succ, List.flatMap_append, ih, List.flatMap_singleton,
        items_of_pos (Nat.succ_pos n), Nat.succ_sub_one, Nat.succ_mul, List.take_add]

/-- Some pages hold a list if there are as many of them as the list is shown in. -/
theorem pages_le_iff : pages length perPage ≤ n ↔ length ≤ n * places perPage := by
  have hplaces := places_pos perPage
  rw [pages, Nat.div_le_iff_le_mul hplaces]
  omega

theorem lt_pages_iff : n < pages length perPage ↔ n * places perPage < length := by
  rw [← Nat.not_le, pages_le_iff, Nat.not_le]

/-- Their number is a quotient that is rounded up. -/
theorem pages_eq_div (length perPage : Nat) : pages length perPage =
    length / places perPage + if 0 < length % places perPage then 1 else 0 := by
  have hplaces := places_pos perPage
  have hdivision := Nat.div_add_mod length (places perPage)
  have hbound := Nat.mod_lt length hplaces
  rw [pages, Nat.div_eq_iff hplaces]
  split
  next rest =>
    rw [Nat.add_mul, Nat.one_mul, Nat.mul_comm]
    omega
  next whole =>
    rw [Nat.add_zero, Nat.mul_comm]
    omega

theorem isLeast_pages (length perPage : Nat) :
    IsLeast {n | length ≤ n * places perPage} (pages length perPage) :=
  ⟨pages_le_iff.mp (Nat.le_refl _), fun _ holds => pages_le_iff.mpr holds⟩

theorem info_eq (short : all.length ≤ maxCount) (page perPage : Nat) : info ⟨page, perPage⟩ all =
    ⟨max page 1, places perPage, all.length, pages all.length perPage⟩ := by
  rw [info, Nat.min_eq_left short]
  rfl

/-- Side by side, as many pages as a list is shown in are the list, and more pages add nothing. -/
theorem flatMap_items_of_le (h : pages all.length perPage ≤ n) :
    ((List.range n).flatMap fun i => items ⟨i + 1, perPage⟩ all) = all :=
  (flatMap_items all perPage n).trans (List.take_of_length_le (pages_le_iff.mp h))

/-- What it is for pages of one size to share a list out. -/
structure Partitions (all : List α) (perPage count : Nat) : Prop where
  /-- There are as few pages as can hold the list. -/
  fewest : IsLeast {n | all.length ≤ n * places perPage} count
  told : ∀ page, info ⟨page, perPage⟩ all = ⟨max page 1, places perPage, all.length, count⟩
  /-- Side by side, the pages are the list. -/
  whole : ((List.range count).flatMap fun i => items ⟨i + 1, perPage⟩ all) = all
  full : ∀ page, 0 < page → page < count → (items ⟨page, perPage⟩ all).length = places perPage
  last : 0 < count → 0 < (items ⟨count, perPage⟩ all).length
  beyond : ∀ page, count < page → items ⟨page, perPage⟩ all = []
  zeroth : items ⟨0, perPage⟩ all = items ⟨1, perPage⟩ all ∧
    info ⟨0, perPage⟩ all = info ⟨1, perPage⟩ all

theorem partitions (short : all.length ≤ maxCount) (perPage : Nat) :
    Partitions all perPage (pages all.length perPage) where
  fewest := isLeast_pages all.length perPage
  told page := info_eq short page perPage
  whole := flatMap_items_of_le (Nat.le_refl _)
  full page first before := by
    have hlength := lt_pages_iff.mp before
    rw [length_items first]
    obtain ⟨previous, rfl⟩ := Nat.exists_eq_add_one_of_ne_zero (Nat.ne_of_gt first)
    rw [Nat.succ_mul] at hlength
    rw [Nat.add_sub_cancel]
    omega
  last present := by
    have hlength := lt_pages_iff.mp (Nat.sub_one_lt_of_lt present)
    have hplaces := places_pos perPage
    rw [length_items present]
    omega
  beyond page after := by
    have hlength : all.length ≤ (page - 1) * places perPage := pages_le_iff.mp (by omega)
    rw [items_of_pos (by omega), List.drop_of_length_le hlength, List.take_nil]
  zeroth := ⟨rfl, rfl⟩

end PageRequest

/-- A page request in words of 32 bits. -/
structure PageWords where
  page : UInt32
  perPage : UInt32

namespace PageWords

/-- The request that the words stand for. -/
def request (w : PageWords) : PageRequest := ⟨w.page.toNat, w.perPage.toNat⟩

/-- The words brought into bounds. -/
def clamped (w : PageWords) : PageWords := ⟨max w.page 1, min (max w.perPage 1) 100⟩

/-- How many items come before the page. -/
def start (w : PageWords) : UInt64 :=
  (w.clamped.page - 1).toUInt64 * w.clamped.perPage.toUInt64

/-- How long a list is said to be. -/
def total (length : Nat) : UInt32 := .ofNat (min length PageRequest.maxCount)

/-- How many pages a list of some length is shown in. -/
def totalPages (w : PageWords) (length : Nat) : UInt32 :=
  if 0 < total length % w.clamped.perPage then total length / w.clamped.perPage + 1
  else total length / w.clamped.perPage

/-- The items of the page. -/
def items {α : Type} (w : PageWords) (all : List α) : List α :=
  (all.drop w.start.toNat).take w.clamped.perPage.toNat

/-- What is said about the page. -/
def info {α : Type} (w : PageWords) (all : List α) : PageInfo :=
  ⟨w.clamped.page.toNat, w.clamped.perPage.toNat, (total all.length).toNat,
    (w.totalPages all.length).toNat⟩

/-- What it is for a page of a list to be worked out exactly: every result is the number that it
would be if words had no bound, nothing is taken from less than it, and nothing is divided by zero.
-/
structure Exact (w : PageWords) (length : Nat) : Prop where
  clamped : w.clamped.request = w.request.clamped
  counted : (total length).toNat = length
  previous : (w.clamped.page - 1).toNat + 1 = w.clamped.page.toNat
  start : w.start.toNat = (w.clamped.page - 1).toNat * w.clamped.perPage.toNat
  divisible : 0 < w.clamped.perPage.toNat
  rounded : 0 < total length % w.clamped.perPage →
    (total length / w.clamped.perPage + 1).toNat = (total length / w.clamped.perPage).toNat + 1

variable {α : Type} {w : PageWords} {length : Nat}

theorem request_clamped (w : PageWords) : w.clamped.request = w.request.clamped := by
  simp only [clamped, request, UInt32.toNat_max, UInt32.toNat_min]
  rfl

theorem toNat_page (w : PageWords) : w.clamped.page.toNat = max w.page.toNat 1 :=
  congrArg PageRequest.page w.request_clamped

theorem toNat_perPage (w : PageWords) :
    w.clamped.perPage.toNat = PageRequest.places w.perPage.toNat :=
  congrArg PageRequest.perPage w.request_clamped

theorem toNat_total (length : Nat) : (total length).toNat = min length PageRequest.maxCount := by
  have hmax : PageRequest.maxCount < UInt32.size := by decide
  exact UInt32.toNat_ofNat_of_lt' (by omega)

theorem toNat_previous (w : PageWords) :
    (w.clamped.page - 1).toNat = max w.page.toNat 1 - 1 := by
  have hone : (1 : UInt32) ≤ w.clamped.page := by
    rw [UInt32.le_iff_toNat_le, toNat_page]
    exact Nat.le_max_right _ _
  rw [UInt32.toNat_sub_of_le _ _ hone, toNat_page]
  rfl

theorem toNat_start (w : PageWords) : w.start.toNat =
    (max w.page.toNat 1 - 1) * PageRequest.places w.perPage.toNat := by
  have hpage := w.page.toNat_lt
  have hplaces : PageRequest.places w.perPage.toNat ≤ 100 := Nat.min_le_right _ _
  have hproduct := Nat.mul_le_mul (show max w.page.toNat 1 - 1 ≤ 2 ^ 32 by omega) hplaces
  rw [start, UInt64.toNat_mul, UInt32.toNat_toUInt64, UInt32.toNat_toUInt64, toNat_previous,
    toNat_perPage]
  exact Nat.mod_eq_of_lt (by omega)

/-- A quotient that is rounded up is no larger than what is divided. -/
theorem toNat_rounded (rest : 0 < total length % w.clamped.perPage) :
    (total length / w.clamped.perPage + 1).toNat =
      (total length / w.clamped.perPage).toNat + 1 := by
  have hrest : 0 < (total length).toNat % w.clamped.perPage.toNat := by
    simpa [UInt32.lt_iff_toNat_lt] using rest
  have hdivisor : 1 < w.clamped.perPage.toNat := by
    have hplaces := PageRequest.places_pos w.perPage.toNat
    rw [← toNat_perPage] at hplaces
    refine Nat.lt_of_le_of_ne hplaces fun heq => ?_
    simp [← heq, Nat.mod_one] at hrest
  have hpositive : 0 < (total length).toNat := Nat.lt_of_lt_of_le hrest (Nat.mod_le _ _)
  have hquotient := Nat.div_lt_self hpositive hdivisor
  have htotal := (total length).toNat_lt
  rw [UInt32.toNat_add, UInt32.toNat_div]
  exact Nat.mod_eq_of_lt (Nat.lt_of_le_of_lt hquotient htotal)

theorem toNat_totalPages (w : PageWords) (length : Nat) : (w.totalPages length).toNat =
    PageRequest.pages (min length PageRequest.maxCount) w.perPage.toNat := by
  have hrest : 0 < total length % w.clamped.perPage ↔
      0 < (total length).toNat % w.clamped.perPage.toNat := by
    simp [UInt32.lt_iff_toNat_lt]
  rw [PageRequest.pages_eq_div, ← toNat_total, ← toNat_perPage, ← UInt32.toNat_div, totalPages]
  split
  next rest => rw [toNat_rounded rest, if_pos (hrest.mp rest)]
  next whole => rw [if_neg (mt hrest.mpr whole), Nat.add_zero]

theorem exact (w : PageWords) (short : length ≤ PageRequest.maxCount) : w.Exact length where
  clamped := w.request_clamped
  counted := (toNat_total length).trans (Nat.min_eq_left short)
  previous := by
    rw [toNat_previous, toNat_page]
    omega
  start := by rw [toNat_start, toNat_previous, toNat_perPage]
  divisible := by
    rw [toNat_perPage]
    exact PageRequest.places_pos _
  rounded := toNat_rounded

theorem items_eq (w : PageWords) (all : List α) : w.items all = w.request.items all := by
  rw [items, toNat_start, toNat_perPage]
  rfl

theorem info_eq (w : PageWords) (all : List α) : w.info all = w.request.info all := by
  rw [info, toNat_page, toNat_perPage, toNat_total, toNat_totalPages]
  rfl

end PageWords

end Flotilla
