import Mathlib.Data.Finset.Card
import Mathlib.Data.List.DropRight
import DigGossip.Foundations.Selection

namespace DigGossip
namespace Foundations
namespace Retention

/-!
# Sets that forget the member they have had longest

A bounded set takes in what it is offered unless it holds it already, and lets go
of the members it has had longest until it fits again.  What it holds is at any
time the end of the list of its admissions, so its history is told by that list
alone.
-/

variable {K : Type} {capacity : Nat} {retained xs : List K} {x y : K}

theorem length_rtake (capacity : Nat) (log : List K) :
    (log.rtake capacity).length = min capacity log.length := by
  unfold List.rtake
  rw [List.length_drop]
  omega

theorem rtake_of_le {log : List K} (fits : log.length ≤ capacity) : log.rtake capacity = log := by
  unfold List.rtake
  rw [Nat.sub_eq_zero_of_le fits, List.drop_zero]

theorem rtake_sublist (capacity : Nat) (log : List K) : (log.rtake capacity).Sublist log :=
  List.drop_sublist _ _

/-- The end of a longer list is told by the end of the list. -/
theorem rtake_concat (capacity : Nat) (log : List K) (x : K) :
    (log.rtake capacity ++ [x]).rtake capacity = (log ++ [x]).rtake capacity := by
  have moved : log.rtake capacity ++ [x] = (log ++ [x]).drop (log.length - capacity) :=
    (List.drop_append_of_le_length (Nat.sub_le _ _)).symm
  have length : (log ++ [x]).length = log.length + 1 := by
    rw [List.length_append, List.length_singleton]
  rw [moved]
  unfold List.rtake
  rw [List.drop_drop, List.length_drop, length]
  congr 1
  omega

theorem nodup_concat (distinct : retained.Nodup) (absent : x ∉ retained) :
    (retained ++ [x]).Nodup := by
  rw [<- List.concat_eq_append]
  exact distinct.concat absent

variable [DecidableEq K]

def offer (capacity : Nat) (retained : List K) (x : K) : List K :=
  if x ∈ retained then retained else (retained ++ [x]).rtake capacity

def offerAll (capacity : Nat) (retained : List K) (xs : List K) : List K :=
  xs.foldl (offer capacity) retained

theorem offer_of_mem (member : x ∈ retained) : offer capacity retained x = retained :=
  if_pos member

theorem offer_of_not_mem (absent : x ∉ retained) :
    offer capacity retained x = (retained ++ [x]).rtake capacity :=
  if_neg absent

theorem offerAll_append (retained xs ys : List K) :
    offerAll capacity retained (xs ++ ys) = offerAll capacity (offerAll capacity retained xs) ys :=
  List.foldl_append

theorem offerAll_concat (retained xs : List K) (x : K) :
    offerAll capacity retained (xs ++ [x]) = offer capacity (offerAll capacity retained xs) x :=
  offerAll_append retained xs [x]

/-! ## What every offer keeps -/

theorem nodup_offer (distinct : retained.Nodup) : (offer capacity retained x).Nodup := by
  by_cases member : x ∈ retained
  · rw [offer_of_mem member]
    exact distinct
  · rw [offer_of_not_mem member]
    exact (nodup_concat distinct member).sublist (rtake_sublist _ _)

theorem length_offer (bounded : retained.length ≤ capacity) :
    (offer capacity retained x).length ≤ capacity := by
  by_cases member : x ∈ retained
  · rw [offer_of_mem member]
    exact bounded
  · rw [offer_of_not_mem member, length_rtake]
    exact Nat.min_le_left _ _

theorem mem_of_mem_offer (member : y ∈ offer capacity retained x) : y = x ∨ y ∈ retained := by
  by_cases known : x ∈ retained
  · rw [offer_of_mem known] at member
    exact Or.inr member
  · rw [offer_of_not_mem known] at member
    rcases List.mem_append.mp ((rtake_sublist _ _).mem member) with old | new
    · exact Or.inr old
    · exact Or.inl (List.mem_singleton.mp new)

/-- What is offered is held after the offer. -/
theorem mem_offer_self (positive : 0 < capacity) : x ∈ offer capacity retained x := by
  by_cases known : x ∈ retained
  · rw [offer_of_mem known]
    exact known
  · rw [offer_of_not_mem known]
    unfold List.rtake
    rw [List.length_append, List.length_singleton, List.drop_append_of_le_length (by omega)]
    exact List.mem_append_right _ (List.mem_singleton_self x)

/-- A member is only let go of for a new one, when it is the one held longest of as
many as fit. -/
theorem lost_of_offer (bounded : retained.length ≤ capacity) (held : y ∈ retained)
    (lost : y ∉ offer capacity retained x) :
    x ∉ retained ∧ retained.length = capacity ∧ retained.head? = some y := by
  have absent : x ∉ retained := by
    intro known
    rw [offer_of_mem known] at lost
    exact lost held
  rw [offer_of_not_mem absent] at lost
  by_cases room : retained.length < capacity
  · have fits : (retained ++ [x]).length ≤ capacity := by
      rw [List.length_append, List.length_singleton]
      exact room
    rw [rtake_of_le fits] at lost
    exact absurd (List.mem_append_left [x] held) lost
  · have full : retained.length = capacity := Nat.le_antisymm bounded (Nat.le_of_not_lt room)
    refine ⟨absent, full, ?_⟩
    cases retained with
    | nil => cases held
    | cons first others =>
        have one : (first :: others ++ [x]).length - capacity = 1 := by
          rw [List.length_append, List.length_singleton, full]
          exact Nat.add_sub_cancel_left capacity 1
        unfold List.rtake at lost
        rw [one, List.cons_append, List.drop_one, List.tail_cons] at lost
        rcases List.mem_cons.mp held with rfl | later
        · rfl
        · exact absurd (List.mem_append_left [x] later) lost

/-! ## Runs -/

/-- The elements that were not held when they were offered. -/
def newcomers (capacity : Nat) (retained xs : List K) : List K :=
  keepBy (fun past x => decide (x ∉ offerAll capacity retained past)) [] xs

theorem newcomers_concat (retained xs : List K) (x : K) :
    newcomers capacity retained (xs ++ [x]) = newcomers capacity retained xs ++
      if x ∈ offerAll capacity retained xs then [] else [x] := by
  unfold newcomers
  rw [keepBy_concat, List.nil_append]
  congr 1
  by_cases known : x ∈ offerAll capacity retained xs
  · rw [if_pos known, if_neg (by rw [decide_eq_true_iff, not_not]; exact known)]
  · rw [if_neg known, if_pos (decide_eq_true known)]

theorem nodup_offerAll (distinct : retained.Nodup) (xs : List K) :
    (offerAll capacity retained xs).Nodup := by
  induction xs using List.reverseRecOn with
  | nil => exact distinct
  | append_singleton xs x inner =>
      rw [offerAll_concat]
      exact nodup_offer inner

/-- What is held is the end of what was held at first and of the newcomers. -/
theorem offerAll_eq_rtake (bounded : retained.length ≤ capacity) (xs : List K) :
    offerAll capacity retained xs = (retained ++ newcomers capacity retained xs).rtake capacity := by
  induction xs using List.reverseRecOn with
  | nil =>
      show retained = (retained ++ []).rtake capacity
      rw [List.append_nil, rtake_of_le bounded]
  | append_singleton xs x inner =>
      rw [offerAll_concat, newcomers_concat]
      by_cases known : x ∈ offerAll capacity retained xs
      · rw [if_pos known, List.append_nil, offer_of_mem known]
        exact inner
      · rw [if_neg known, offer_of_not_mem known, <- List.append_assoc,
          <- rtake_concat capacity (retained ++ newcomers capacity retained xs), <- inner]

/-- A member that a run lets go of makes room for one newcomer of the run. -/
theorem lost_of_offerAll (held : y ∈ retained)
    (lost : y ∉ offerAll capacity retained xs) :
    exists before newer later, xs = before ++ newer :: later ∧
      y ∈ offerAll capacity retained before ∧
      y ∉ offer capacity (offerAll capacity retained before) newer := by
  induction xs using List.reverseRecOn with
  | nil => exact absurd held lost
  | append_singleton xs x inner =>
      by_cases still : y ∈ offerAll capacity retained xs
      · rw [offerAll_concat] at lost
        exact ⟨xs, x, [], rfl, still, lost⟩
      · rcases inner still with ⟨before, newer, later, rfl, there, gone⟩
        refine ⟨before, newer, later ++ [x], ?_, there, gone⟩
        rw [List.append_assoc, List.cons_append]

theorem mem_of_mem_offerAll (member : y ∈ offerAll capacity [] xs) : y ∈ xs := by
  induction xs using List.reverseRecOn with
  | nil => cases member
  | append_singleton xs x inner =>
      rw [offerAll_concat] at member
      rcases mem_of_mem_offer member with rfl | old
      · exact List.mem_append_right xs (List.mem_singleton_self y)
      · exact List.mem_append_left [x] (inner old)

/-- As long as all that was ever offered fits, nothing is let go of. -/
theorem mem_offerAll_iff (fits : xs.toFinset.card ≤ capacity) :
    y ∈ offerAll capacity [] xs ↔ y ∈ xs := by
  refine ⟨mem_of_mem_offerAll, fun offered => ?_⟩
  induction xs using List.reverseRecOn generalizing y with
  | nil => cases offered
  | append_singleton xs x inner =>
      have part : xs.toFinset ⊆ (xs ++ [x]).toFinset := by
        rw [List.toFinset_append]
        exact Finset.subset_union_left
      have all : ∀ z ∈ xs, z ∈ offerAll capacity [] xs := fun z =>
        inner ((Finset.card_le_card part).trans fits)
      have distinct : (offerAll capacity [] xs).Nodup := nodup_offerAll List.nodup_nil xs
      rw [offerAll_concat]
      by_cases known : x ∈ offerAll capacity [] xs
      · rw [offer_of_mem known]
        rcases List.mem_append.mp offered with old | new
        · exact all y old
        · rw [List.mem_singleton.mp new]
          exact known
      · have room : (offerAll capacity [] xs ++ [x]).length ≤ capacity := by
          rw [<- List.toFinset_card_of_nodup (nodup_concat distinct known)]
          refine (Finset.card_le_card fun z member => ?_).trans fits
          rw [List.mem_toFinset, List.mem_append] at member ⊢
          exact member.imp_left mem_of_mem_offerAll
        rw [offer_of_not_mem known, rtake_of_le room, List.mem_append]
        exact (List.mem_append.mp offered).imp_left (all y)

end Retention
end Foundations
end DigGossip
