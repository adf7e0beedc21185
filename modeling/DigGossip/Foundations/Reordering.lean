import Mathlib.Data.List.Basic

namespace DigGossip
namespace Foundations

universe u

variable {P : Type u}

/-!
# Restoring an order

Numbered chunks arrive in any order, some of them again and again.  What is known
of them is a partial function on the numbers, to which the first arrival of each
number adds.  The first number that is missing is determined by what is known,
and so is the run of chunks in front of it.
-/

namespace Reordering

/-- What is known once a chunk has arrived; an earlier arrival stays. -/
def arrive (known : Nat -> Option P) (number : Nat) (chunk : P) : Nat -> Option P :=
  fun other => (known other).or (if other = number then some chunk else none)

theorem arrive_of_known {known : Nat -> Option P} {number : Nat} (old : (known number).isSome)
    (chunk : P) : arrive known number chunk = known := by
  funext other
  unfold arrive
  by_cases same : other = number
  · rw [same]
    exact Option.or_of_isSome old
  · rw [if_neg same, Option.or_none]

theorem arrive_self {known : Nat -> Option P} {number : Nat} (fresh : known number = none)
    (chunk : P) : arrive known number chunk number = some chunk := by
  unfold arrive
  rw [fresh, if_pos rfl]
  rfl

theorem arrive_other (known : Nat -> Option P) {number other : Nat} (different : other ≠ number)
    (chunk : P) : arrive known number chunk other = known other := by
  unfold arrive
  rw [if_neg different, Option.or_none]

/-- A number is the first one that is missing. -/
structure Frontier (known : Nat -> Option P) (number : Nat) : Prop where
  below : forall earlier, earlier < number -> (known earlier).isSome
  missing : known number = none

theorem Frontier.unique {known : Nat -> Option P} {first second : Nat}
    (left : Frontier known first) (right : Frontier known second) : first = second := by
  rcases Nat.lt_trichotomy first second with less | same | more
  · have found := right.below first less
    rw [left.missing] at found
    cases found
  · exact same
  · have found := left.below second more
    rw [right.missing] at found
    cases found

/-- Chunks are the known ones in front of a number, in order. -/
def Prefix (known : Nat -> Option P) (number : Nat) (chunks : List P) : Prop :=
  chunks.map some = (List.range number).map known

theorem Prefix.zero (known : Nat -> Option P) : Prefix known 0 [] := rfl

theorem Prefix.concat {known : Nat -> Option P} {number : Nat} {chunks : List P} {next : P}
    (before : Prefix known number chunks) (found : known number = some next) :
    Prefix known (number + 1) (chunks ++ [next]) := by
  unfold Prefix
  rw [List.map_append, List.range_succ, List.map_append, before]
  show _ ++ [some next] = _ ++ [known number]
  rw [found]

/-- What is known in front of the number is all that matters. -/
theorem Prefix.congr {known other : Nat -> Option P} {number : Nat} {chunks : List P}
    (before : Prefix known number chunks)
    (same : forall earlier, earlier < number -> other earlier = known earlier) :
    Prefix other number chunks := by
  apply Eq.trans before
  apply List.map_congr_left
  intro earlier member
  exact (same earlier (List.mem_range.mp member)).symm

theorem Prefix.unique {known : Nat -> Option P} {number : Nat} {first second : List P}
    (left : Prefix known number first) (right : Prefix known number second) : first = second := by
  have injective : Function.Injective (some : P -> Option P) := fun _ _ same => Option.some.inj same
  exact List.map_injective_iff.mpr injective (left.trans right.symm)

/-- Where all that is known are members of a list, what is in front of the gap begins the list. -/
theorem Prefix.isPrefix {known : Nat -> Option P} {number : Nat} {chunks whole : List P}
    (before : Prefix known number chunks)
    (members : forall index chunk, known index = some chunk -> whole[index]? = some chunk) :
    chunks <+: whole := by
  rw [List.prefix_iff_getElem?]
  intro index below
  have read := congrArg (fun values => values[index]?) before
  simp only [List.getElem?_map, List.getElem?_eq_getElem below, Option.map_some] at read
  rcases Option.map_eq_some_iff.mp read.symm with ⟨earlier, found, knows⟩
  rcases List.getElem?_eq_some_iff.mp found with ⟨_, same⟩
  rw [List.getElem_range] at same
  rw [<- same] at knows
  exact members index _ knows

/-- Once the whole list is known it is all in front of the gap. -/
theorem Frontier.length_le {known : Nat -> Option P} {number : Nat} {whole : List P}
    (frontier : Frontier known number)
    (complete : forall index, index < whole.length -> (known index).isSome) :
    whole.length ≤ number := by
  by_contra more
  have found := complete number (Nat.lt_of_not_le more)
  rw [frontier.missing] at found
  cases found

theorem Prefix.length {known : Nat -> Option P} {number : Nat} {chunks : List P}
    (before : Prefix known number chunks) : chunks.length = number := by
  have lengths := congrArg List.length before
  rwa [List.length_map, List.length_map, List.length_range] at lengths

end Reordering
end Foundations
end DigGossip
