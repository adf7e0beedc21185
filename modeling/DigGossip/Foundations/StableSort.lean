import Mathlib.Data.List.Perm.Basic

namespace DigGossip
namespace Foundations

/-!
# Searching a stably sorted list

The first element of a sorted list that passes a test is a least one of those
that pass.  When the sort is stable it is also the first of the least in the
order the list had before, so that a search after the sort can be described
without the sort.
-/

variable {A : Type}

/-- The first, in the order of the list, of the least elements that pass the test. -/
structure FirstLeast (test : A -> Bool) (le : A -> A -> Bool) (list : List A) (x : A) : Prop where
  passes : test x = true
  least : ∀ other ∈ list, test other = true -> le x other = true
  first : exists before after, list = before ++ x :: after ∧
    ∀ earlier ∈ before, test earlier = true -> le earlier x = false

theorem FirstLeast.unique {test : A -> Bool} {le : A -> A -> Bool} {list : List A} {x y : A}
    (left : FirstLeast test le list x) (right : FirstLeast test le list y) : x = y := by
  rcases left.first with ⟨before, after, split, sooner⟩
  rcases right.first with ⟨others, rest, otherSplit, otherSooner⟩
  have xMember : x ∈ list := split ▸ List.mem_append_right before List.mem_cons_self
  have yMember : y ∈ list := otherSplit ▸ List.mem_append_right others List.mem_cons_self
  have below := left.least y yMember right.passes
  have above := right.least x xMember left.passes
  rcases List.append_eq_append_iff.mp (split.symm.trans otherSplit) with
    ⟨middle, longer, same⟩ | ⟨middle, longer, same⟩
  · cases middle with
    | nil => exact (List.cons.inj same).1
    | cons next middle =>
        -- the element of the left split stands before that of the right one
        have here : x ∈ others := by
          rw [longer, (List.cons.inj same).1]
          exact List.mem_append_right before List.mem_cons_self
        rw [otherSooner x here left.passes] at below
        cases below
  · cases middle with
    | nil => exact (List.cons.inj same).1.symm
    | cons next middle =>
        have here : y ∈ before := by
          rw [longer, (List.cons.inj same).1]
          exact List.mem_append_right others List.mem_cons_self
        rw [sooner y here right.passes] at above
        cases above

/-- A sort does not change whether a search finds anything. -/
theorem find?_mergeSort_eq_none_iff {le : A -> A -> Bool} {test : A -> Bool} {list : List A} :
    (list.mergeSort le).find? test = none ↔ ∀ x ∈ list, ¬test x = true := by
  rw [List.find?_eq_none]
  constructor
  · intro refused x member
    exact refused x (List.mem_mergeSort.mpr member)
  · intro refused x member
    exact refused x (List.mem_mergeSort.mp member)

/-- A comparison that orders any two elements, some of them perhaps as equals. -/
structure Ranks (le : A -> A -> Bool) : Prop where
  trans : forall a b c, le a b = true -> le b c = true -> le a c = true
  total : forall a b, (le a b || le b a) = true

namespace Ranks

variable {le : A -> A -> Bool} (ranks : Ranks le)

include ranks

theorem refl (a : A) : le a a = true := by
  have either := ranks.total a a
  rwa [Bool.or_self] at either

/-- A stable sort leaves elements that all tie in the order they had. -/
theorem filter_mergeSort {tied : A -> Bool}
    (ties : forall a b, tied a = true -> tied b = true -> le a b = true) (list : List A) :
    (list.mergeSort le).filter tied = list.filter tied := by
  have ordered : (list.filter tied).Pairwise fun a b => le a b = true := by
    rw [List.pairwise_filter]
    exact List.pairwise_of_forall fun a b aTied bTied => ties a b aTied bTied
  have kept := (List.sublist_mergeSort ranks.trans ranks.total ordered
    List.filter_sublist).filter tied
  rw [List.filter_filter] at kept
  simp only [Bool.and_self] at kept
  exact (kept.eq_of_length ((List.mergeSort_perm list le).filter tied).length_eq.symm).symm

theorem firstLeast_of_find?_mergeSort {test : A -> Bool} {list : List A} {x : A}
    (found : (list.mergeSort le).find? test = some x) : FirstLeast test le list x := by
  rcases List.find?_eq_some_iff_append.mp found with ⟨passes, before, after, split, skipped⟩
  have least : ∀ other ∈ list, test other = true -> le x other = true := by
    intro other member otherPasses
    have sorted := List.pairwise_mergeSort ranks.trans ranks.total list
    have moved : other ∈ list.mergeSort le := List.mem_mergeSort.mpr member
    rw [split] at sorted moved
    rcases List.mem_append.mp moved with earlier | later
    · have refused := skipped other earlier
      rw [otherPasses] at refused
      cases refused
    · rcases List.mem_cons.mp later with rfl | later
      · exact ranks.refl other
      · exact (List.pairwise_cons.mp (List.pairwise_append.mp sorted).2.1).1 other later
  refine ⟨passes, least, ?_⟩
  -- among the elements that tie with the one found, the sort has kept the order
  have ties : forall a b, (test a && (le x a && le a x)) = true ->
      (test b && (le x b && le b x)) = true -> le a b = true := by
    intro a b aTied bTied
    simp only [Bool.and_eq_true] at aTied bTied
    exact ranks.trans a x b aTied.2.2 bTied.2.1
  have kept := ranks.filter_mergeSort ties list
  have none : before.filter (fun other => test other && (le x other && le other x)) = [] := by
    rw [List.filter_eq_nil_iff]
    intro other earlier tied
    have refused := skipped other earlier
    simp only [Bool.and_eq_true] at tied
    rw [tied.1] at refused
    cases refused
  rw [split, List.filter_append, none, List.nil_append,
    List.filter_cons_of_pos (by simp [passes, ranks.refl])] at kept
  rcases List.filter_eq_cons_iff.mp kept.symm with ⟨sooner, rest, listSplit, untied, _, _⟩
  refine ⟨sooner, rest, listSplit, ?_⟩
  intro earlier member earlierPasses
  have above := least earlier (listSplit ▸ List.mem_append_left _ member) earlierPasses
  have apart := untied earlier member
  simp only [earlierPasses, above, Bool.true_and] at apart
  exact Bool.eq_false_iff.mpr apart

/-- What a search after the sort finds, in the terms of the list before it. -/
theorem find?_mergeSort_eq_some_iff {test : A -> Bool} {list : List A} {x : A} :
    (list.mergeSort le).find? test = some x ↔ FirstLeast test le list x := by
  constructor
  · exact ranks.firstLeast_of_find?_mergeSort
  · intro firstLeast
    rcases firstLeast.first with ⟨before, after, split, _⟩
    have member : x ∈ list.mergeSort le :=
      List.mem_mergeSort.mpr (split ▸ List.mem_append_right before List.mem_cons_self)
    cases found : (list.mergeSort le).find? test with
    | none => exact absurd firstLeast.passes (List.find?_eq_none.mp found x member)
    | some y => rw [firstLeast.unique (ranks.firstLeast_of_find?_mergeSort found)]

end Ranks

/-- Sorting by an order in which no two elements are alike forgets how the list was
arranged. -/
theorem mergeSort_eq_of_perm {le : A -> A -> Bool}
    (trans : forall a b c, le a b = true -> le b c = true -> le a c = true)
    (total : forall a b, (le a b || le b a) = true)
    (antisymm : forall a b, le a b = true -> le b a = true -> a = b) {left right : List A}
    (same : left.Perm right) : left.mergeSort le = right.mergeSort le := by
  apply List.Perm.eq_of_pairwise (fun a b _ _ => antisymm a b)
    (List.pairwise_mergeSort trans total left) (List.pairwise_mergeSort trans total right)
  exact (List.mergeSort_perm left le).trans (same.trans (List.mergeSort_perm right le).symm)

end Foundations
end DigGossip
