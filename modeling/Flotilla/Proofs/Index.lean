import Mathlib.Data.Set.Card
import Flotilla.Index

/-!
# Keys of a map

A map is as large as the set of keys that hold something, and lists these keys in strictly ascending
order.
-/

namespace Flotilla

namespace Index

variable {κ α : Type} [LT κ]

theorem pairwise_keys (m : Index κ α) : m.keys.Pairwise (· < ·) := List.pairwise_map.mpr m.sorted

theorem size_eq_ncard [LE κ] [Std.IsLinearOrder κ] [Std.LawfulOrderLT κ] [DecidableEq κ]
    (m : Index κ α) : m.size = {key | (m.get? key).isSome = true}.ncard := by
  have hkeys : {key | (m.get? key).isSome = true} = (m.keys.toFinset : Set κ) := by
    ext key
    simp [m.mem_keys]
  rw [hkeys, Set.ncard_coe_finset, List.toFinset_card_of_nodup m.nodup_keys, Index.keys,
    List.length_map]
  rfl

end Index

end Flotilla
