import Mathlib.Data.List.Count
import Mathlib.Data.List.Induction
import Mathlib.Data.List.Perm.Basic

namespace DigGossip
namespace Foundations

/-!
# Selections that look back

A pass over a list that keeps an element by what came before it.  Membership,
order and the elements left out are all described by splits of the list, so
that no statement about such a pass needs its accumulators.
-/

variable {A : Type}

/-- The elements kept by a test of what stands before them and of themselves. -/
def keepBy (keep : List A -> A -> Bool) : (past : List A) -> List A -> List A
  | _, [] => []
  | past, x :: rest =>
      if keep past x then x :: keepBy keep (past ++ [x]) rest
      else keepBy keep (past ++ [x]) rest

theorem keepBy_cons_of_kept {keep : List A -> A -> Bool} {past rest : List A} {x : A}
    (kept : keep past x = true) :
    keepBy keep past (x :: rest) = x :: keepBy keep (past ++ [x]) rest := by
  rw [keepBy, if_pos kept]

theorem keepBy_cons_of_dropped {keep : List A -> A -> Bool} {past rest : List A} {x : A}
    (dropped : keep past x = false) :
    keepBy keep past (x :: rest) = keepBy keep (past ++ [x]) rest := by
  rw [keepBy, if_neg (Bool.eq_false_iff.mp dropped)]

theorem keepBy_sublist (keep : List A -> A -> Bool) (past list : List A) :
    (keepBy keep past list).Sublist list := by
  induction list generalizing past with
  | nil => exact List.Sublist.refl _
  | cons x rest inner =>
      cases kept : keep past x with
      | true =>
          rw [keepBy_cons_of_kept kept]
          exact (inner (past ++ [x])).cons_cons x
      | false =>
          rw [keepBy_cons_of_dropped kept]
          exact (inner (past ++ [x])).cons x

theorem keepBy_append (keep : List A -> A -> Bool) (past list later : List A) :
    keepBy keep past (list ++ later) =
      keepBy keep past list ++ keepBy keep (past ++ list) later := by
  induction list generalizing past with
  | nil =>
      rw [List.append_nil]
      rfl
  | cons y rest inner =>
      have split := inner (past ++ [y])
      rw [List.append_assoc, List.singleton_append] at split
      cases kept : keep past y with
      | true =>
          rw [List.cons_append, keepBy_cons_of_kept kept, keepBy_cons_of_kept kept, split]
          rfl
      | false =>
          rw [List.cons_append, keepBy_cons_of_dropped kept, keepBy_cons_of_dropped kept, split]

theorem keepBy_concat (keep : List A -> A -> Bool) (past list : List A) (x : A) :
    keepBy keep past (list ++ [x]) =
      keepBy keep past list ++ if keep (past ++ list) x then [x] else [] :=
  keepBy_append keep past list [x]

/-- Two tests that agree on the elements of a kind keep the same ones of that kind. -/
theorem filter_keepBy_congr {keep other : List A -> A -> Bool} {kind : A -> Bool} {list : List A}
    (agree : forall before x after, list = before ++ x :: after -> kind x = true ->
      keep before x = other before x) :
    (keepBy keep [] list).filter kind = (keepBy other [] list).filter kind := by
  induction list using List.reverseRecOn with
  | nil => rfl
  | append_singleton list x inner =>
      have earlier := inner fun before y after split => by
        apply agree before y (after ++ [x])
        rw [split, List.append_assoc, List.cons_append]
      rw [keepBy_concat, keepBy_concat, List.filter_append, List.filter_append, earlier,
        List.nil_append]
      congr 1
      cases of : kind x with
      | true => rw [agree list x [] rfl of]
      | false =>
          have dropped : forall test : Bool, (if test then [x] else []).filter kind = [] := by
            intro test
            cases test with
            | true => exact List.filter_cons_of_neg (Bool.eq_false_iff.mp of)
            | false => rfl
          rw [dropped, dropped]

/-- Nothing is kept once the test refuses everything that may come. -/
theorem keepBy_eq_nil {keep : List A -> A -> Bool} {past list : List A}
    (refused : forall before x, keep (past ++ before) x = false) : keepBy keep past list = [] := by
  induction list generalizing past with
  | nil => rfl
  | cons x rest inner =>
      have here := refused [] x
      rw [List.append_nil] at here
      rw [keepBy_cons_of_dropped here]
      apply inner
      intro before y
      rw [List.append_assoc]
      exact refused ([x] ++ before) y

/-- A split of a longer list is before its first element, or is one of the rest. -/
theorem forall_split_cons {P : List A -> A -> List A -> Prop} {z : A} {rest : List A} :
    (forall before x after, z :: rest = before ++ x :: after -> P before x after) ↔
      P [] z rest ∧
        forall before x after, rest = before ++ x :: after -> P (z :: before) x after := by
  constructor
  · intro splits
    refine ⟨splits [] z rest rfl, fun before x after split => ?_⟩
    exact splits (z :: before) x after (congrArg (List.cons z) split)
  · rintro ⟨first, later⟩ before x after split
    rcases List.cons_eq_append_iff.mp split with ⟨rfl, same⟩ | ⟨earlier, rfl, found⟩
    · cases same
      exact first
    · exact later earlier x after found

theorem exists_split_cons {P : List A -> Prop} {x z : A} {rest : List A} :
    (exists before after, z :: rest = before ++ x :: after ∧ P before) ↔
      (x = z ∧ P []) ∨ exists before after, rest = before ++ x :: after ∧ P (z :: before) := by
  constructor
  · rintro ⟨before, after, split, holds⟩
    rcases List.cons_eq_append_iff.mp split with ⟨rfl, same⟩ | ⟨earlier, rfl, found⟩
    · cases same
      exact Or.inl ⟨rfl, holds⟩
    · exact Or.inr ⟨earlier, after, found, holds⟩
  · rintro (⟨rfl, holds⟩ | ⟨before, after, split, holds⟩)
    · exact ⟨[], rest, rfl, holds⟩
    · exact ⟨z :: before, after, congrArg (List.cons z) split, holds⟩

/-- An element of a list has a last place in it. -/
theorem exists_last_split {B : Type*} {list : List B} {x : B} (member : x ∈ list) :
    exists before after, list = before ++ x :: after ∧ x ∉ after := by
  rcases List.eq_append_cons_of_mem (List.mem_reverse.mpr member) with
    ⟨after, before, split, absent⟩
  refine ⟨before.reverse, after.reverse, ?_, fun again => absent (List.mem_reverse.mp again)⟩
  have reversed := congrArg List.reverse split
  rwa [List.reverse_reverse, List.reverse_append, List.reverse_cons, List.append_assoc] at reversed

/-- A kept element stands at a split of the list where the test holds. -/
theorem mem_keepBy {keep : List A -> A -> Bool} {past list : List A} {x : A} :
    x ∈ keepBy keep past list ↔
      exists before after, list = before ++ x :: after ∧ keep (past ++ before) x = true := by
  induction list generalizing past with
  | nil =>
      constructor
      · intro member
        cases member
      · rintro ⟨before, after, split, _⟩
        cases before <;> cases split
  | cons y rest inner =>
      rw [exists_split_cons, List.append_nil]
      cases kept : keep past y with
      | true =>
          rw [keepBy_cons_of_kept kept, List.mem_cons, inner]
          simp only [List.append_assoc, List.singleton_append]
          exact or_congr_left (iff_self_and.mpr fun same => same ▸ kept)
      | false =>
          rw [keepBy_cons_of_dropped kept, inner]
          simp only [List.append_assoc, List.singleton_append]
          refine (or_iff_right ?_).symm
          rintro ⟨rfl, held⟩
          rw [kept] at held
          cases held

/-- Two kept elements stand at two splits of the list. -/
theorem pairwise_keepBy {keep : List A -> A -> Bool} {related : A -> A -> Prop}
    {past list : List A} :
    (keepBy keep past list).Pairwise related ↔
      forall before x rest, list = before ++ x :: rest -> keep (past ++ before) x = true ->
        forall middle y after, rest = middle ++ y :: after ->
          keep (past ++ before ++ x :: middle) y = true -> related x y := by
  induction list generalizing past with
  | nil =>
      refine ⟨fun _ before x rest split => ?_, fun _ => List.Pairwise.nil⟩
      cases before <;> cases split
  | cons z rest inner =>
      rw [forall_split_cons, List.append_nil]
      cases kept : keep past z with
      | true =>
          rw [keepBy_cons_of_kept kept, List.pairwise_cons, inner]
          simp only [List.append_assoc, List.cons_append, List.nil_append]
          refine and_congr_left fun _ => ?_
          constructor
          · intro head _ middle y after split keptToo
            apply head y
            refine mem_keepBy.mpr ⟨middle, after, split, ?_⟩
            rw [List.append_assoc]
            exact keptToo
          · intro head y member
            rcases mem_keepBy.mp member with ⟨middle, after, split, keptToo⟩
            rw [List.append_assoc] at keptToo
            exact head trivial middle y after split keptToo
      | false =>
          rw [keepBy_cons_of_dropped kept, inner]
          simp only [List.append_assoc, List.cons_append, List.nil_append]
          exact (and_iff_right Bool.noConfusion).symm

/-- A test and its opposite share a list between them. -/
theorem keepBy_append_perm (keep : List A -> A -> Bool) (past list : List A) :
    (keepBy keep past list ++ keepBy (fun past x => !keep past x) past list).Perm list := by
  induction list generalizing past with
  | nil => exact List.Perm.refl _
  | cons x rest inner =>
      cases kept : keep past x with
      | true =>
          have dropped : (!keep past x) = false := by rw [kept]; rfl
          rw [keepBy_cons_of_kept kept,
            @keepBy_cons_of_dropped A (fun past x => !keep past x) past rest x dropped]
          exact (inner (past ++ [x])).cons x
      | false =>
          have other : (!keep past x) = true := by rw [kept]; rfl
          rw [keepBy_cons_of_dropped kept,
            @keepBy_cons_of_kept A (fun past x => !keep past x) past rest x other]
          exact List.perm_middle.trans ((inner (past ++ [x])).cons x)

/-- The elements left out are those the opposite test keeps. -/
theorem diff_keepBy [DecidableEq A] (keep : List A -> A -> Bool) (past list : List A) :
    (list.diff (keepBy keep past list)).Perm (keepBy (fun past x => !keep past x) past list) := by
  have shared := keepBy_append_perm keep past list
  rw [List.perm_iff_count] at shared ⊢
  intro x
  have total := shared x
  rw [List.count_append] at total
  rw [List.count_diff]
  omega

end Foundations
end DigGossip
