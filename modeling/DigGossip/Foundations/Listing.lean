import Mathlib.Data.Finset.Card
import Mathlib.Data.List.Sort
import Mathlib.Data.Prod.Lex

namespace DigGossip
namespace Foundations

universe u

/-!
# Enumerating a finite set

An unordered collection is traversed in some order that its specification
leaves open.  The order is a rank here, so a traversal is a function of the
set and the rank, and every duplicate-free enumeration of the set is reached
by some rank.
-/

variable {K : Type u} [LinearOrder K]

/-- One key comes before another in the order of a rank; equal ranks fall back
on the order of the keys. -/
def RankLE (rank : K -> Nat) (first second : K) : Prop :=
  toLex (rank first, first) ≤ toLex (rank second, second)

instance (rank : K -> Nat) : DecidableRel (RankLE rank) := fun first second =>
  inferInstanceAs (Decidable (toLex (rank first, first) ≤ toLex (rank second, second)))

instance (rank : K -> Nat) : Std.Total (RankLE rank) := ⟨fun _ _ => le_total _ _⟩

instance (rank : K -> Nat) : IsTrans K (RankLE rank) := ⟨fun _ _ _ => le_trans⟩

instance (rank : K -> Nat) : Std.Antisymm (RankLE rank) where
  antisymm _ _ below above := by
    have same := toLex.injective (le_antisymm below above)
    exact (Prod.mk.inj same).2

/-- The members of a finite set in the order of a rank. -/
def listing (rank : K -> Nat) (keys : Finset K) : List K :=
  Quot.liftOn keys.val (List.insertionSort (RankLE rank)) fun left right same =>
    List.Perm.eq_of_pairwise' (List.pairwise_insertionSort (RankLE rank) left)
      (List.pairwise_insertionSort (RankLE rank) right)
      (((List.perm_insertionSort _ left).trans same).trans
        (List.perm_insertionSort _ right).symm)

theorem coe_listing (rank : K -> Nat) (keys : Finset K) :
    (listing rank keys : Multiset K) = keys.val := by
  rcases keys with ⟨members, distinct⟩
  induction members using Quot.inductionOn with
  | h members => exact Quot.sound (List.perm_insertionSort _ members)

@[simp] theorem mem_listing {rank : K -> Nat} {keys : Finset K} {key : K} :
    key ∈ listing rank keys ↔ key ∈ keys := by
  rw [<- Multiset.mem_coe, coe_listing, Finset.mem_val]

theorem nodup_listing (rank : K -> Nat) (keys : Finset K) : (listing rank keys).Nodup := by
  rw [<- Multiset.coe_nodup, coe_listing]
  exact keys.nodup

theorem countP_listing (rank : K -> Nat) (keys : Finset K) (test : K -> Bool) :
    (listing rank keys).countP test = (keys.filter fun key => test key = true).card := by
  calc
    (listing rank keys).countP test = (listing rank keys : Multiset K).countP (test · = true) := by
      rw [Multiset.coe_countP]
      simp only [Bool.decide_eq_true]
    _ = keys.val.countP (test · = true) := by rw [coe_listing]
    _ = (keys.filter fun key => test key = true).card := by
      rw [Multiset.countP_eq_card_filter]
      rfl

end Foundations
end DigGossip
