import DigGossip.Foundations.Interleaving

namespace DigGossip
namespace Foundations

/-!
# A system beside others

A larger system runs the operations of a smaller one beside operations of its
own.  An action of the larger system is one of the smaller, done on the part of
the state that the smaller one has, or it leaves this part alone.  An operation
of the larger system shadows one of the smaller: it does what that one begins
with, and may stop there.

Every run of the larger system is then, on the part they share, a run of the
smaller one with the same deeds.
-/

namespace Program

variable {A B : Type} {Reply : A -> Type} {ReplyB : B -> Type} {R R' T T' : Type}

/-- A program of the smaller system in the larger one. -/
def inject : Program A Reply R -> Program (A ⊕ B) (Sum.elim Reply ReplyB) R
  | done result => done result
  | act action next => act (.inl action) fun reply => inject (next reply)

/-- The first program does, of the smaller system's actions, what the second
begins with. -/
inductive Shadows : Program (A ⊕ B) (Sum.elim Reply ReplyB) R' -> Program A Reply R -> Prop
  | stop (result : R') (partner : Program A Reply R) : Shadows (.done result) partner
  | inner {action : A} {next : Reply action -> Program (A ⊕ B) (Sum.elim Reply ReplyB) R'}
      {rest : Reply action -> Program A Reply R}
      (follows : forall reply, Shadows (next reply) (rest reply)) :
      Shadows (.act (.inl action) next) (.act action rest)
  | outer {action : B} {next : ReplyB action -> Program (A ⊕ B) (Sum.elim Reply ReplyB) R'}
      {partner : Program A Reply R} (follows : forall reply, Shadows (next reply) partner) :
      Shadows (.act (.inr action) next) partner

theorem shadows_inject_bind (program : Program A Reply R)
    {rest : R -> Program (A ⊕ B) (Sum.elim Reply ReplyB) R'} {rest' : R -> Program A Reply T}
    (follows : forall result, Shadows (rest result) (rest' result)) :
    Shadows (inject program >>= rest) (program >>= rest') := by
  induction program with
  | done result => exact follows result
  | act action next inner => exact .inner inner

/-- A program of the larger system's own actions shadows every program. -/
theorem shadows_of_outer {program : Program (A ⊕ B) (Sum.elim Reply ReplyB) R'}
    (outer : Only Sum.isRight program) (partner : Program A Reply R) :
    Shadows program partner := by
  induction program with
  | done result => exact .stop result partner
  | act action next inner =>
      cases action with
      | inl action => cases outer.1
      | inr action => exact .outer fun reply => inner reply (outer.2 reply)

theorem shadows_map_inject (program : Program A Reply R) (change : R -> R') :
    Shadows (change <$> (inject program : Program (A ⊕ B) (Sum.elim Reply ReplyB) R)) program := by
  induction program with
  | done result => exact .stop (change result) _
  | act action next inner => exact .inner inner

theorem Shadows.map {program : Program (A ⊕ B) (Sum.elim Reply ReplyB) R}
    {partner : Program A Reply T} (shadows : Shadows program partner) (change : R -> R')
    (change' : T -> T') : Shadows (change <$> program) (change' <$> partner) := by
  induction shadows with
  | stop result partner => exact .stop (change result) _
  | inner _ inner => exact .inner inner
  | outer _ inner => exact .outer inner

end Program

open Program (Shadows)

variable {S A R Op C S' B R' Op' C' : Type} {Reply : A -> Type} {ReplyB : B -> Type}

section Lists

variable {P Q : Type} {Related : P -> Q -> Prop} {ps : List P} {qs : List Q}

theorem forall₂_getElem? (related : List.Forall₂ Related ps qs) {place : Nat} {p : P}
    (found : ps[place]? = some p) : exists q, qs[place]? = some q ∧ Related p q := by
  induction related generalizing place with
  | nil => cases found
  | @cons p' q' ps qs head _ inner =>
      cases place with
      | zero =>
          cases found
          exact ⟨q', rfl, head⟩
      | succ place => exact inner found

theorem forall₂_set (related : List.Forall₂ Related ps qs) {p : P} {q : Q} (head : Related p q)
    (place : Nat) : List.Forall₂ Related (ps.set place p) (qs.set place q) := by
  induction related generalizing place with
  | nil => exact .nil
  | cons same rest inner =>
      cases place with
      | zero => exact .cons head rest
      | succ place => exact .cons same (inner place)

end Lists

/-- The larger system with the view of the smaller one's state, what a choice is
to the smaller one, and the operation that each operation shadows. -/
structure System.Extends (large : System S' (A ⊕ B) (Sum.elim Reply ReplyB) R' Op' C')
    (small : System S A Reply R Op C) where
  view : S' -> S
  choose : C' -> C
  partner : Op' -> Op
  inner : forall choice action s,
    (view (large.exec choice (.inl action) s).1, (large.exec choice (.inl action) s).2) =
      small.exec (choose choice) action (view s)
  outer : forall choice action s, view (large.exec choice (.inr action) s).1 = view s
  shadows : forall op, Shadows (large.program op) (small.program (partner op))

namespace System.Extends

variable {large : System S' (A ⊕ B) (Sum.elim Reply ReplyB) R' Op' C'}
  {small : System S A Reply R Op C}

/-- The deed of the smaller system that a deed is. -/
def innerDeed : System.Deed (A ⊕ B) (Sum.elim Reply ReplyB) -> Option (System.Deed A Reply)
  | ⟨.inl action, reply⟩ => some ⟨action, reply⟩
  | ⟨.inr _, _⟩ => none

/-- The same shared part, and each thread shadows its partner. -/
structure Matches (wider : large.Extends small)
    (w : World S' (A ⊕ B) (Sum.elim Reply ReplyB) R') (v : World S A Reply R) : Prop where
  shared : wider.view w.shared = v.shared
  threads : List.Forall₂ Shadows w.threads v.threads

variable {wider : large.Extends small} {w : World S' (A ⊕ B) (Sum.elim Reply ReplyB) R'}
  {v : World S A Reply R}

/-- A move of the larger system is a move of the smaller with the same deed, or
it does nothing that the smaller one has. -/
theorem Matches.step (same : Matches wider w v) (move : Move Op' C') :
    exists moves', Matches wider (large.step w move) (small.run moves' v) ∧
      small.trace moves' v = (large.deed w move).toList.filterMap innerDeed := by
  cases move with
  | spawn op =>
      refine ⟨[.spawn (wider.partner op)], ⟨same.shared, ?_⟩, rfl⟩
      exact List.rel_append same.threads (.cons (wider.shadows op) .nil)
  | advance thread choice =>
      simp only [System.step, System.deed]
      cases found : w.threads[thread]? with
      | none => exact ⟨[], same, rfl⟩
      | some program =>
          rcases forall₂_getElem? same.threads found with ⟨partner, running, shadows⟩
          cases shadows with
          | stop result partner => exact ⟨[], same, rfl⟩
          | @inner action next rest follows =>
              have done := wider.inner choice action w.shared
              rw [same.shared] at done
              refine ⟨[.advance thread (wider.choose choice)], ⟨?_, ?_⟩, ?_⟩
              · simp only [System.run_cons, System.run_nil, System.step, running, <- done]
              · simp only [System.run_cons, System.run_nil, System.step, running, <- done]
                exact forall₂_set same.threads (follows _) thread
              · simp only [System.trace, System.deed, running, <- done]
                rfl
          | @outer action next partner follows =>
              refine ⟨[], ⟨(wider.outer choice action w.shared).trans same.shared, ?_⟩, rfl⟩
              have put := forall₂_set same.threads (follows (large.exec choice (.inr action)
                w.shared).2) thread
              rcases List.getElem?_eq_some_iff.mp running with ⟨held, rfl⟩
              rw [List.set_getElem_self] at put
              exact put

theorem Matches.run (same : Matches wider w v) (moves : List (Move Op' C')) :
    exists moves', Matches wider (large.run moves w) (small.run moves' v) ∧
      small.trace moves' v = (large.trace moves w).filterMap innerDeed := by
  induction moves generalizing w v with
  | nil => exact ⟨[], same, rfl⟩
  | cons move moves inner =>
      rcases same.step move with ⟨first, stepped, done⟩
      rcases inner stepped with ⟨rest, ends, did⟩
      refine ⟨first ++ rest, ?_, ?_⟩
      · rw [System.run_append]
        exact ends
      · rw [System.trace_append, done, did, <- List.filterMap_append]
        rfl

/-- Every run of the larger system is a run of the smaller on the part they share. -/
theorem project (wider : large.Extends small) (moves : List (Move Op' C')) (s : S') :
    exists moves', wider.view (large.run moves (World.idle s)).shared =
        (small.run moves' (World.idle (wider.view s))).shared ∧
      small.trace moves' (World.idle (wider.view s)) =
        (large.trace moves (World.idle s)).filterMap innerDeed := by
  have same : Matches wider (World.idle s) (World.idle (wider.view s)) := ⟨rfl, .nil⟩
  rcases same.run moves with ⟨moves', ends, did⟩
  exact ⟨moves', ends.shared, did⟩

end System.Extends
end Foundations
end DigGossip
