import Flotilla.Json.Decoder

/-!
# Pages

Lists are shown in pages. The first page is page one, and page zero is taken for it;
a page has between one and a hundred places.
-/

namespace Flotilla

/-- Which page of a list is wanted. -/
structure PageRequest where
  page : Nat
  perPage : Nat
  deriving DecidableEq

/-- Which page of how many was given. -/
structure PageInfo where
  page : Nat
  perPage : Nat
  /-- How long the whole list is. -/
  total : Nat
  totalPages : Nat
  deriving DecidableEq

namespace PageInfo

/-- What is said about a page, as a JSON value. -/
def toJson (info : PageInfo) : Json :=
  .record [("page", .nat info.page), ("per_page", .nat info.perPage), ("total", .nat info.total),
    ("total_pages", .nat info.totalPages)]

end PageInfo

namespace PageRequest

/-- The page that is given unless another one is asked for. -/
def usual : PageRequest := ⟨1, 20⟩

/-- The numbers of a page stay below this bound. -/
def bound : Nat := Nat.pow 2 32

/-- The largest number that a page is described with. -/
def maxCount : Nat := bound - 1

/-- A page request in a JSON text; what is missing is as usual. -/
def decode : Decoder PageRequest := fun depth tree => do
  let number := Decoder.natural bound
  let row ← Row.read [.defaulted "page" number, .defaulted "per_page" number] depth tree
  return ⟨← row.defaulted "page" number usual.page,
    ← row.defaulted "per_page" number usual.perPage⟩

/-- The request with its numbers brought into bounds. -/
def clamped (request : PageRequest) : PageRequest :=
  ⟨max request.page 1, min (max request.perPage 1) 100⟩

/-- The items of the page. -/
def items {α : Type} (request : PageRequest) (all : List α) : List α :=
  let r := request.clamped
  (all.drop ((r.page - 1) * r.perPage)).take r.perPage

/-- What is said about the page. -/
def info {α : Type} (request : PageRequest) (all : List α) : PageInfo :=
  let r := request.clamped
  let total := min all.length maxCount
  ⟨r.page, r.perPage, total, (total + r.perPage - 1) / r.perPage⟩

end PageRequest

end Flotilla
