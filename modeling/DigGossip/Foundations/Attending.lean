import DigGossip.Foundations.Interleaving

namespace DigGossip
namespace Foundations

/-!
# What a program has ahead

A program has an action ahead when every path from here comes to it, whatever
the replies.  That is a promise about the future which the other threads cannot
take back: only the thread's own steps bring it nearer, until the action is done.

So a thread may answer for something the shared state still holds.  Once the
state is armed, everything it holds has a thread that is going to end it: what
was there when the state was armed is ended by the thread that armed it, and
nothing new is started unless some thread still has the end of it ahead.  When
no thread has anything ahead any more, the state holds nothing.

A token is the other thing a thread may answer for.  It can be had only while
the state says it is free, and whoever has it keeps the state from saying so;
then no two threads have it at a time.
-/

namespace Program

variable {A : Type} {Reply : A -> Type} {R T : Type}

/-- Every path comes to a hit. -/
def Ahead (hit : A -> Prop) : Program A Reply R -> Prop
  | done _ => False
  | act action next => hit action ∨ forall reply, Ahead hit (next reply)

/-- After every trigger, every path comes to a hit. -/
def Follows (trigger hit : A -> Prop) : Program A Reply R -> Prop
  | done _ => True
  | act action next => (trigger action -> forall reply, Ahead hit (next reply)) ∧
      forall reply, Follows trigger hit (next reply)

variable {hit trigger : A -> Prop}

theorem Ahead.later {action : A} {rest : Reply action -> Program A Reply R}
    (ahead : forall reply, Ahead hit (rest reply)) : Ahead hit (perform action >>= rest) :=
  Or.inr ahead

theorem Ahead.bind {program : Program A Reply R} (ahead : Ahead hit program)
    (rest : R -> Program A Reply T) : Ahead hit (program >>= rest) := by
  induction program with
  | done result => exact ahead.elim
  | act action next inner => exact ahead.imp_right fun later reply => inner reply (later reply)

theorem Ahead.after {rest : R -> Program A Reply T} (ahead : forall result, Ahead hit (rest result))
    (program : Program A Reply R) : Ahead hit (program >>= rest) := by
  induction program with
  | done result => exact ahead result
  | act action next inner => exact Or.inr inner

theorem Follows.begin {action : A} {rest : Reply action -> Program A Reply R}
    (triggered : trigger action -> forall reply, Ahead hit (rest reply))
    (follows : forall reply, Follows trigger hit (rest reply)) :
    Follows trigger hit (perform action >>= rest) :=
  ⟨triggered, follows⟩

/-- A program without a hit in it, which every action lets go on, has none ahead. -/
theorem Only.not_ahead {allowed : A -> Bool} (answer : forall action, Reply action)
    (misses : forall action, allowed action = true -> ¬hit action) {program : Program A Reply R}
    (only : Only allowed program) : ¬Ahead hit program := by
  induction program with
  | done result => exact id
  | act action next inner =>
      rintro (hits | ahead)
      · exact misses action only.1 hits
      · exact inner _ (only.2 _) (ahead (answer action))

theorem Only.follows {allowed : A -> Bool} (quiet : forall action, allowed action = true ->
    ¬trigger action) {program : Program A Reply R} (only : Only allowed program) :
    Follows trigger hit program := by
  induction program with
  | done result => trivial
  | act action next inner =>
      exact ⟨fun triggers => absurd triggers (quiet action only.1),
        fun reply => inner reply (only.2 reply)⟩

end Program

namespace System

variable {S A : Type} {Reply : A -> Type} {R Op C : Type} {sys : System S A Reply R Op C}

/-- The condition of a move that looks at the action its thread does. -/
def OnAction (condition : World S A Reply R -> A -> Prop) (w : World S A Reply R) :
    Move Op C -> Prop
  | .spawn _ => True
  | .advance thread _ => forall action next, w.threads[thread]? = some (.act action next) ->
      condition w action

/-- A world invariant that each new thread and each conforming action keeps. -/
theorem acting_invariant {condition : World S A Reply R -> A -> Prop}
    {Inv : World S A Reply R -> Prop}
    (spawned : forall (w : World S A Reply R) op, Inv w ->
      Inv { w with threads := w.threads ++ [sys.program op] })
    (acted : forall (w : World S A Reply R) (thread : Nat) choice action next,
      w.threads[thread]? = some (.act action next) -> condition w action -> Inv w ->
      Inv { shared := (sys.exec choice action w.shared).1
            threads := w.threads.set thread (next (sys.exec choice action w.shared).2) })
    {moves : List (Move Op C)} {w : World S A Reply R}
    (conforms : sys.Along (OnAction condition) moves w) (holds : Inv w) :
    Inv (sys.run moves w) := by
  apply conforming_invariant _ conforms holds
  intro w move conforms inv
  cases move with
  | spawn op => exact spawned w op inv
  | advance thread choice =>
      simp only [step]
      cases found : w.threads[thread]? with
      | none => exact inv
      | some program =>
          cases program with
          | done result => exact inv
          | act action next =>
              exact acted w thread choice action next found (conforms action next found) inv

/-- A condition that asks nothing is met by every run. -/
theorem along_anything (moves : List (Move Op C)) (w : World S A Reply R) :
    sys.Along (OnAction fun _ _ => True) moves w := by
  induction moves generalizing w with
  | nil => trivial
  | cons move moves inner =>
      refine ⟨?_, inner _⟩
      cases move with
      | spawn op => trivial
      | advance thread choice => exact fun _ _ _ => trivial

/-- What a run has done it did at one of its moves. -/
theorem of_mem_trace {deed : Deed A Reply} {moves : List (Move Op C)} {w : World S A Reply R}
    (done : deed ∈ sys.trace moves w) :
    exists before move rest, moves = before ++ move :: rest ∧
      sys.deed (sys.run before w) move = some deed := by
  induction moves generalizing w with
  | nil => cases done
  | cons move moves inner =>
      rcases List.mem_append.mp done with now | later
      · exact ⟨[], move, moves, rfl, Option.mem_toList.mp now⟩
      · rcases inner later with ⟨before, other, rest, rfl, made⟩
        exact ⟨move :: before, other, rest, rfl, made⟩

/-- A move that does something is the step of a thread that is at that action. -/
theorem of_deed {w : World S A Reply R} {move : Move Op C} {deed : Deed A Reply}
    (made : sys.deed w move = some deed) :
    exists thread choice next, move = .advance thread choice ∧
      w.threads[thread]? = some (.act deed.1 next) := by
  cases move with
  | spawn op => cases made
  | advance thread choice =>
      simp only [System.deed] at made
      split at made
      · rename_i action next found
        cases made
        exact ⟨thread, choice, next, rfl, found⟩
      · cases made
      · cases made

/-- What some thread has ahead it still has after an action that is no hit. -/
theorem ahead_set {hit : A -> Prop} {threads : List (Program A Reply R)}
    (ahead : ∃ program ∈ threads, program.Ahead hit) {thread : Nat} {action : A}
    {next : Reply action -> Program A Reply R} (found : threads[thread]? = some (.act action next))
    (misses : ¬hit action) (reply : Reply action) :
    ∃ program ∈ threads.set thread (next reply), program.Ahead hit := by
  rcases ahead with ⟨program, member, ahead⟩
  rcases List.mem_iff_getElem?.mp member with ⟨place, running⟩
  by_cases here : thread = place
  · subst here
    rw [found] at running
    cases running
    have alive := (List.getElem?_eq_some_iff.mp found).1
    exact ⟨next reply, List.mem_set alive _, (ahead.resolve_left misses) reply⟩
  · refine ⟨program, List.mem_iff_getElem?.mpr ⟨place, ?_⟩, ahead⟩
    rw [List.getElem?_set_ne here, running]

section Attending

variable {K : Type} (Armed : S -> Prop) (Holds : K -> S -> Prop) (arms : A -> Prop)
  (starts ends : K -> A -> Prop)

/-- Each thread that arms the state is then to end everything, and in an armed
state whatever is held has a thread that is going to end it. -/
structure Attended (w : World S A Reply R) : Prop where
  follows : ∀ program ∈ w.threads, forall key, program.Follows arms (ends key)
  ahead : Armed w.shared -> forall key, Holds key w.shared ->
    ∃ program ∈ w.threads, program.Ahead (ends key)

/-- In an armed state nothing is started unless some thread is still going to end it. -/
def StartsAttended (w : World S A Reply R) (action : A) : Prop :=
  Armed w.shared -> forall key, starts key action ->
    ∃ program ∈ w.threads, program.Ahead (ends key)

variable {Armed Holds arms starts ends}

theorem Attended.spawned {w : World S A Reply R} (attended : Attended Armed Holds arms ends w)
    {op : Op} (follows : forall key, (sys.program op).Follows arms (ends key)) :
    Attended Armed Holds arms ends { w with threads := w.threads ++ [sys.program op] } where
  follows := by
    intro program member key
    rcases List.mem_append.mp member with old | new
    · exact attended.follows program old key
    · rw [List.mem_singleton.mp new]
      exact follows key
  ahead := by
    intro armed key held
    rcases attended.ahead armed key held with ⟨program, member, ahead⟩
    exact ⟨program, List.mem_append_left _ member, ahead⟩

theorem Attended.acted {w : World S A Reply R} (attended : Attended Armed Holds arms ends w)
    {thread : Nat} {choice : C} {action : A} {next : Reply action -> Program A Reply R}
    (found : w.threads[thread]? = some (.act action next))
    (conforms : StartsAttended Armed starts ends w action)
    (armed_before : Armed (sys.exec choice action w.shared).1 -> Armed w.shared ∨ arms action)
    (held_before : forall key, Holds key (sys.exec choice action w.shared).1 ->
      ¬ends key action ∧ (Holds key w.shared ∨ starts key action)) :
    Attended Armed Holds arms ends
      { shared := (sys.exec choice action w.shared).1
        threads := w.threads.set thread (next (sys.exec choice action w.shared).2) } := by
  have running := List.mem_of_getElem? found
  constructor
  · intro program member key
    rcases List.mem_or_eq_of_mem_set member with old | new
    · exact attended.follows program old key
    · rw [new]
      exact (attended.follows _ running key).2 _
  · intro armed key held
    rcases held_before key held with ⟨misses, before⟩
    rcases armed_before armed with already | now
    · apply ahead_set _ found misses
      rcases before with old | started
      · exact attended.ahead already key old
      · exact conforms already key started
    · have alive := (List.getElem?_eq_some_iff.mp found).1
      exact ⟨_, List.mem_set alive _, (attended.follows _ running key).1 now _⟩

/-- When no thread has its end ahead, an armed state does not hold it. -/
theorem Attended.not_held {w : World S A Reply R} (attended : Attended Armed Holds arms ends w)
    (armed : Armed w.shared) {key : K} (idle : ∀ program ∈ w.threads, ¬program.Ahead (ends key)) :
    ¬Holds key w.shared := by
  intro held
  rcases attended.ahead armed key held with ⟨program, member, ahead⟩
  exact idle program member ahead

end Attending

/-! ## A token -/

section Token

variable (due : Bool -> A -> Prop) (settle : Bool -> (action : A) -> Reply action -> Bool)
  (post : R -> Bool -> Prop) (Free : S -> Prop)

/-- At most one thread has the token, and while it is had it is not free. -/
def Exclusive (w : World S A Reply R) : Prop :=
  exists owner : Option Nat,
    (forall thread, owner = some thread -> thread < w.threads.length ∧ ¬Free w.shared) ∧
    forall (thread : Nat) (program : Program A Reply R), w.threads[thread]? = some program ->
      program.wp due settle (decide (owner = some thread)) post

/-- What the actions of a system make of its token: it is taken only where it is
free, and only who has it lets it go. -/
structure Guarded (sys : System S A Reply R Op C) : Prop where
  begun : forall op, (sys.program op).wp due settle false post
  taken : forall choice action s, due false action ->
    settle false action (sys.exec choice action s).2 = true ->
      Free s ∧ ¬Free (sys.exec choice action s).1
  kept : forall choice action s, due true action ->
    settle true action (sys.exec choice action s).2 = true -> ¬Free s ->
      ¬Free (sys.exec choice action s).1
  passed : forall choice action s, due false action ->
    settle false action (sys.exec choice action s).2 = false -> ¬Free s ->
      ¬Free (sys.exec choice action s).1

variable {due settle post Free}

theorem Exclusive.spawned (guarded : Guarded due settle post Free sys) {w : World S A Reply R}
    (exclusive : Exclusive due settle post Free w) (op : Op) :
    Exclusive due settle post Free { w with threads := w.threads ++ [sys.program op] } := by
  rcases exclusive with ⟨owner, taken, owes⟩
  refine ⟨owner, fun thread owned => ?_, fun thread program found => ?_⟩
  · rw [List.length_append]
    exact ⟨Nat.lt_add_right _ (taken thread owned).1, (taken thread owned).2⟩
  · rcases Nat.lt_or_ge thread w.threads.length with old | new
    · rw [List.getElem?_append_left old] at found
      exact owes thread program found
    · have other : decide (owner = some thread) = false :=
        decide_eq_false fun owned => absurd (taken thread owned).1 (Nat.not_lt.mpr new)
      have fresh := List.mem_of_getElem? ((List.getElem?_append_right new).symm.trans found)
      rw [other, List.mem_singleton.mp fresh]
      exact guarded.begun op

/-- Whoever has the token after a step, the other threads have what they had. -/
theorem Exclusive.handed {w : World S A Reply R} {owner after : Option Nat}
    (taken : forall thread, owner = some thread -> thread < w.threads.length)
    (owes : forall (thread : Nat) (program : Program A Reply R), w.threads[thread]? = some program ->
      program.wp due settle (decide (owner = some thread)) post)
    {thread : Nat} {action : A} {next : Reply action -> Program A Reply R}
    (found : w.threads[thread]? = some (.act action next)) {s : S} {reply : Reply action}
    (own : decide (after = some thread) = settle (decide (owner = some thread)) action reply)
    (others : forall other, thread ≠ other -> (after = some other ↔ owner = some other))
    (shut : after ≠ none -> ¬Free s) :
    Exclusive due settle post Free
      { shared := s, threads := w.threads.set thread (next reply) } := by
  have alive := (List.getElem?_eq_some_iff.mp found).1
  refine ⟨after, fun holder owned => ⟨?_, shut (by rw [owned]; exact Option.some_ne_none _)⟩,
    fun place program running => ?_⟩
  · rw [List.length_set]
    by_cases here : thread = holder
    · exact here ▸ alive
    · exact taken holder ((others holder here).mp owned)
  · by_cases here : thread = place
    · subst here
      rw [List.getElem?_set_self alive] at running
      cases running
      rw [own]
      exact (owes thread _ found).2 _
    · rw [List.getElem?_set_ne here] at running
      rw [decide_eq_decide.mpr (others place here)]
      exact owes place program running

theorem Exclusive.acted (guarded : Guarded due settle post Free sys) {w : World S A Reply R}
    (exclusive : Exclusive due settle post Free w) {thread : Nat} {action : A}
    {next : Reply action -> Program A Reply R}
    (found : w.threads[thread]? = some (.act action next)) (choice : C) :
    Exclusive due settle post Free
      { shared := (sys.exec choice action w.shared).1
        threads := w.threads.set thread (next (sys.exec choice action w.shared).2) } := by
  rcases exclusive with ⟨owner, taken, owes⟩
  have due_here := (owes thread _ found).1
  have handed := fun after => @Exclusive.handed S A Reply R due settle post Free w owner after
    (fun holder owned => (taken holder owned).1) owes thread action next found
    (sys.exec choice action w.shared).1 (sys.exec choice action w.shared).2
  cases had : decide (owner = some thread) with
  | true =>
      rw [had] at due_here handed
      have owned := of_decide_eq_true had
      cases settles : settle true action (sys.exec choice action w.shared).2 with
      | true =>
          rw [settles] at handed
          exact handed owner had (fun _ _ => Iff.rfl) fun _ =>
            guarded.kept choice action w.shared due_here settles (taken thread owned).2
      | false =>
          rw [settles] at handed
          refine handed none rfl (fun other different => ?_) fun some => absurd rfl some
          rw [owned]
          exact iff_of_false nofun fun same => different (Option.some.inj same)
  | false =>
      rw [had] at due_here handed
      cases settles : settle false action (sys.exec choice action w.shared).2 with
      | true =>
          rw [settles] at handed
          have won := guarded.taken choice action w.shared due_here settles
          have unowned : owner = none := by
            cases owner with
            | none => rfl
            | some holder => exact absurd won.1 (taken holder rfl).2
          refine handed (some thread) (decide_eq_true rfl) (fun other different => ?_) fun _ => won.2
          rw [unowned]
          exact iff_of_false (fun same => different (Option.some.inj same)) nofun
      | false =>
          rw [settles] at handed
          refine handed owner had (fun _ _ => Iff.rfl) fun some => ?_
          rcases Option.ne_none_iff_exists'.mp some with ⟨holder, owned⟩
          exact guarded.passed choice action w.shared due_here settles (taken holder owned).2

theorem Exclusive.run (guarded : Guarded due settle post Free sys) {w : World S A Reply R}
    (exclusive : Exclusive due settle post Free w) (moves : List (Move Op C)) :
    Exclusive due settle post Free (sys.run moves w) :=
  acting_invariant (fun _ op inv => inv.spawned guarded op)
    (fun _ _ choice _ _ found _ inv => inv.acted guarded found choice)
    (along_anything moves w) exclusive

/-- Two threads that end as only the one with the token may are one thread. -/
theorem Exclusive.unique {w : World S A Reply R} (exclusive : Exclusive due settle post Free w)
    {Won : R -> Prop} (wins : forall result, Won result -> ¬post result false) {first second : Nat}
    {one other : R} (ended : w.threads[first]? = some (.done one)) (won : Won one)
    (endedToo : w.threads[second]? = some (.done other)) (wonToo : Won other) : first = second := by
  rcases exclusive with ⟨owner, _, owes⟩
  have has : forall (thread : Nat) (result : R), w.threads[thread]? = some (.done result) ->
      Won result -> owner = some thread := by
    intro thread result ended won
    by_contra without
    have fails := owes thread _ ended
    rw [decide_eq_false without] at fails
    exact wins result won fails
  exact Option.some.inj ((has first one ended won).symm.trans (has second other endedToo wonToo))

/-- In a state that stays shut the token is never free, and a thread that has
not got it by then never gets it. -/
theorem idle_run (guarded : Guarded due settle post Free sys)
    {condition : World S A Reply R -> A -> Prop} {Shut : S -> Prop}
    (unfree : forall s, Shut s -> ¬Free s)
    (stays : forall (w : World S A Reply R) choice action, condition w action -> Shut w.shared ->
      Shut (sys.exec choice action w.shared).1) (thread : Nat) {moves : List (Move Op C)}
    {w : World S A Reply R} (conforms : sys.Along (OnAction condition) moves w)
    (shut : Shut w.shared) (idle : forall program : Program A Reply R,
      w.threads[thread]? = some program -> program.wp due settle false post) :
    Shut (sys.run moves w).shared ∧ forall program : Program A Reply R,
      (sys.run moves w).threads[thread]? = some program -> program.wp due settle false post := by
  let Idle := fun w : World S A Reply R => Shut w.shared ∧ forall program : Program A Reply R,
    w.threads[thread]? = some program -> program.wp due settle false post
  suffices kept : Idle (sys.run moves w) from kept
  apply @acting_invariant _ _ _ _ _ _ sys condition Idle _ _ moves w conforms ⟨shut, idle⟩
  · rintro w op ⟨shut, idle⟩
    refine ⟨shut, fun program found => ?_⟩
    rcases Nat.lt_or_ge thread w.threads.length with old | new
    · rw [List.getElem?_append_left old] at found
      exact idle program found
    · have fresh := List.mem_of_getElem? ((List.getElem?_append_right new).symm.trans found)
      rw [List.mem_singleton.mp fresh]
      exact guarded.begun op
  · rintro w acting choice action next found conforms ⟨shut, idle⟩
    refine ⟨stays w choice action conforms shut, fun program running => ?_⟩
    by_cases here : acting = thread
    · subst here
      have alive := (List.getElem?_eq_some_iff.mp found).1
      rw [List.getElem?_set_self alive] at running
      cases running
      have mine := idle _ found
      have without : settle false action (sys.exec choice action w.shared).2 = false :=
        eq_false_of_ne_true fun won =>
          unfree w.shared shut (guarded.taken choice action w.shared mine.1 won).1
      rw [<- without]
      exact mine.2 _
    · rw [List.getElem?_set_ne here] at running
      exact idle program running

end Token

end System
end Foundations
end DigGossip
