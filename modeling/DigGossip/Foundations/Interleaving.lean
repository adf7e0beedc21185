import Mathlib.Algebra.GroupWithZero.Nat
import Mathlib.Algebra.Order.Group.Multiset
import Mathlib.Data.List.Induction
import DigGossip.Foundations.Program
import DigGossip.Foundations.Stepping

namespace DigGossip
namespace Foundations

/-!
# Interleaved runs

Operations are spawned as threads over one shared state, and the scheduler
advances them one atomic action at a time, in any order.  A choice supplied
with each advance resolves what the action leaves open.

Two rules carry a property along every run.  An invariant of the shared state
needs each action alone.  An invariant that also speaks of what the threads
still owe needs each program to keep a ledger of its debts and to end with
none; then the debts of all threads together are a value that one action
changes by its own program's ledger only.
-/

/-- An interpreter of actions and the programs of the operations. -/
structure System (S A : Type) (Reply : A -> Type) (R Op C : Type) where
  exec : C -> (action : A) -> S -> S × Reply action
  program : Op -> Program A Reply R

structure World (S A : Type) (Reply : A -> Type) (R : Type) where
  shared : S
  threads : List (Program A Reply R)

inductive Move (Op C : Type) where
  | spawn (op : Op)
  | advance (thread : Nat) (choice : C)

namespace World

variable {S A : Type} {Reply : A -> Type} {R : Type}

/-- A world before any operation is spawned. -/
def idle (s : S) : World S A Reply R := { shared := s, threads := [] }

/-- Every spawned operation has completed. -/
def settled (w : World S A Reply R) : Bool :=
  w.threads.all Program.isDone

/-- A measure of programs, summed over the threads. -/
def total (measure : Program A Reply R -> Nat) (w : World S A Reply R) : Nat :=
  (w.threads.map measure).sum

end World

namespace System

variable {S A : Type} {Reply : A -> Type} {R Op C : Type} (sys : System S A Reply R Op C)

def step (w : World S A Reply R) : Move Op C -> World S A Reply R
  | .spawn op => { w with threads := w.threads ++ [sys.program op] }
  | .advance thread choice =>
      match w.threads[thread]? with
      | some (.act action next) =>
          let (shared, reply) := sys.exec choice action w.shared
          { shared := shared, threads := w.threads.set thread (next reply) }
      | some (.done _) => w
      | none => w

def run (moves : List (Move Op C)) (w : World S A Reply R) : World S A Reply R :=
  moves.foldl sys.step w

/-- A test that every move of a run passes in the world it is made in. -/
def along (test : World S A Reply R -> Move Op C -> Bool) :
    List (Move Op C) -> World S A Reply R -> Bool
  | [], _ => true
  | move :: moves, w => test w move && along test moves (sys.step w move)

/-- A condition that every move of a run meets in the world it is made in. -/
def Along (condition : World S A Reply R -> Move Op C -> Prop) :
    List (Move Op C) -> World S A Reply R -> Prop
  | [], _ => True
  | move :: moves, w => condition w move ∧ Along condition moves (sys.step w move)

/-- The test of a move that looks at the action done and the state it is done in. -/
def onAction (test : C -> A -> S -> Bool) (w : World S A Reply R) : Move Op C -> Bool
  | .spawn _ => true
  | .advance thread choice =>
      match w.threads[thread]? with
      | some (.act action _) => test choice action w.shared
      | some (.done _) => true
      | none => true

/-- The test of a move that looks at the operation spawned. -/
def onSpawn (test : Op -> Bool) (_ : World S A Reply R) : Move Op C -> Bool
  | .spawn op => test op
  | .advance _ _ => true

variable {sys}

theorem run_nil (w : World S A Reply R) : sys.run [] w = w := rfl

theorem run_cons (move : Move Op C) (moves : List (Move Op C)) (w : World S A Reply R) :
    sys.run (move :: moves) w = sys.run moves (sys.step w move) := rfl

theorem run_append (moves later : List (Move Op C)) (w : World S A Reply R) :
    sys.run (moves ++ later) w = sys.run later (sys.run moves w) :=
  List.foldl_append

/-- The moves of a run are the events of the system's step. -/
theorem along_eq (test : World S A Reply R -> Move Op C -> Bool) (moves : List (Move Op C))
    (w : World S A Reply R) : sys.along test moves w = Stepping.along sys.step test moves w := by
  induction moves generalizing w with
  | nil => rfl
  | cons move moves inner => exact congrArg (test w move && ·) (inner (sys.step w move))

/-- What holds of a run holds of each of its beginnings. -/
theorem along_take {test : World S A Reply R -> Move Op C -> Bool} {moves : List (Move Op C)}
    {w : World S A Reply R} (passed : sys.along test moves w = true) (count : Nat) :
    sys.along test (moves.take count) w = true := by
  induction moves generalizing w count with
  | nil => simp [along]
  | cons move moves inner =>
      cases count with
      | zero => rfl
      | succ count =>
          have both := Bool.and_eq_true_iff.mp passed
          exact Bool.and_eq_true_iff.mpr ⟨both.1, inner both.2 count⟩

/-- A test that every move passes is no condition. -/
theorem along_always {test : World S A Reply R -> Move Op C -> Bool}
    (always : forall w move, test w move = true) (moves : List (Move Op C))
    (w : World S A Reply R) : sys.along test moves w = true := by
  induction moves generalizing w with
  | nil => rfl
  | cons move moves inner =>
      exact Bool.and_eq_true_iff.mpr ⟨always w move, inner (sys.step w move)⟩

/-- A world invariant that every passing move keeps holds after every passing run. -/
theorem run_invariant {test : World S A Reply R -> Move Op C -> Bool}
    {Inv : World S A Reply R -> Prop}
    (kept : forall w move, test w move = true -> Inv w -> Inv (sys.step w move))
    {moves : List (Move Op C)} {w : World S A Reply R}
    (passed : sys.along test moves w = true) (holds : Inv w) : Inv (sys.run moves w) := by
  rw [along_eq] at passed
  exact Stepping.invariant kept passed holds

/-- An invariant of the shared state needs each action alone. -/
theorem shared_invariant {test : C -> A -> S -> Bool} {Inv : S -> Prop}
    (kept : forall choice action s, test choice action s = true -> Inv s ->
      Inv (sys.exec choice action s).1)
    {moves : List (Move Op C)} {w : World S A Reply R}
    (passed : sys.along (onAction test) moves w = true) (holds : Inv w.shared) :
    Inv (sys.run moves w).shared := by
  suffices kept : forall (w : World S A Reply R) (move : Move Op C), onAction test w move = true ->
      Inv w.shared -> Inv (sys.step w move).shared from run_invariant kept passed holds
  intro w move allowed inv
  cases move with
  | spawn op => exact inv
  | advance thread choice =>
      simp only [step]
      simp only [onAction] at allowed
      cases found : w.threads[thread]? with
      | none => exact inv
      | some program =>
          rw [found] at allowed
          cases program with
          | done result => exact inv
          | act action next => exact kept choice action w.shared allowed inv

/-! ## Conditions that are not tests -/

section Conditions

variable {condition : World S A Reply R -> Move Op C -> Prop}

theorem along_of_test {test : World S A Reply R -> Move Op C -> Bool}
    (implies : forall w move, test w move = true -> condition w move) {moves : List (Move Op C)}
    {w : World S A Reply R} (passed : sys.along test moves w = true) :
    sys.Along condition moves w := by
  induction moves generalizing w with
  | nil => trivial
  | cons move moves inner =>
      have both := Bool.and_eq_true_iff.mp passed
      exact ⟨implies w move both.1, inner both.2⟩

theorem along_append {moves later : List (Move Op C)} {w : World S A Reply R} :
    sys.Along condition (moves ++ later) w ↔
      sys.Along condition moves w ∧ sys.Along condition later (sys.run moves w) := by
  induction moves generalizing w with
  | nil => exact ⟨fun along => ⟨trivial, along⟩, fun along => along.2⟩
  | cons move moves inner =>
      rw [List.cons_append, Along, Along, inner, run_cons, and_assoc]

/-- A world invariant that every conforming move keeps holds after every conforming run. -/
theorem conforming_invariant {Inv : World S A Reply R -> Prop}
    (kept : forall w move, condition w move -> Inv w -> Inv (sys.step w move))
    {moves : List (Move Op C)} {w : World S A Reply R} (conforms : sys.Along condition moves w)
    (holds : Inv w) : Inv (sys.run moves w) := by
  induction moves generalizing w with
  | nil => exact holds
  | cons move moves inner =>
      rw [run_cons]
      exact inner conforms.2 (kept w move conforms.1 holds)

end Conditions

/-! ## Good states that every thread keeps good -/

section Keeping

variable (sys) in
/-- The shared state is good, and no thread will break a good state. -/
def Kept (Good : S -> Prop) (w : World S A Reply R) : Prop :=
  Good w.shared ∧ forall program, program ∈ w.threads -> program.Keeps sys.exec Good

variable {Good : S -> Prop}

/-- Each thread keeps the state good on its own, so they do together in any order. -/
theorem Kept.step {w : World S A Reply R} (kept : sys.Kept Good w)
    (begun : forall op, (sys.program op).Keeps sys.exec Good) (move : Move Op C) :
    sys.Kept Good (sys.step w move) := by
  rcases kept with ⟨good, keeps⟩
  cases move with
  | spawn op =>
      refine ⟨good, fun program running => ?_⟩
      rcases List.mem_append.mp running with old | new
      · exact keeps program old
      · rw [List.mem_singleton.mp new]
        exact begun op
  | advance thread choice =>
      simp only [System.step]
      cases found : w.threads[thread]? with
      | none => exact ⟨good, keeps⟩
      | some program =>
          cases program with
          | done result => exact ⟨good, keeps⟩
          | act action next =>
              have moved := keeps _ (List.mem_of_getElem? found) choice w.shared good
              refine ⟨moved.1, fun program running => ?_⟩
              rcases List.mem_or_eq_of_mem_set running with old | new
              · exact keeps program old
              · rw [new]
                exact moved.2

theorem Kept.run {w : World S A Reply R} (kept : sys.Kept Good w)
    (begun : forall op, (sys.program op).Keeps sys.exec Good) (moves : List (Move Op C)) :
    sys.Kept Good (sys.run moves w) := by
  induction moves generalizing w with
  | nil => exact kept
  | cons move moves inner => exact inner (kept.step begun move)

end Keeping

/-! ## What a run has done -/

/-- An action with the reply it got. -/
abbrev Deed (A : Type) (Reply : A -> Type) := (action : A) × Reply action

variable (sys) in
/-- The action of a move in this world, if the move does one. -/
def deed (w : World S A Reply R) : Move Op C -> Option (Deed A Reply)
  | .spawn _ => none
  | .advance thread choice =>
      match w.threads[thread]? with
      | some (.act action _) => some ⟨action, (sys.exec choice action w.shared).2⟩
      | some (.done _) => none
      | none => none

variable (sys) in
/-- Everything a run has done, in order. -/
def trace : List (Move Op C) -> World S A Reply R -> List (Deed A Reply)
  | [], _ => []
  | move :: moves, w => (sys.deed w move).toList ++ trace moves (sys.step w move)

/-- An invariant of the world together with all that was done on the way to it. -/
theorem trace_invariant {test : World S A Reply R -> Move Op C -> Bool}
    {Inv : List (Deed A Reply) -> World S A Reply R -> Prop}
    (kept : forall past w move, test w move = true -> Inv past w ->
      Inv (past ++ (sys.deed w move).toList) (sys.step w move))
    {moves : List (Move Op C)} {w : World S A Reply R} (passed : sys.along test moves w = true)
    {past : List (Deed A Reply)} (holds : Inv past w) :
    Inv (past ++ sys.trace moves w) (sys.run moves w) := by
  induction moves generalizing w past with
  | nil =>
      rw [trace, List.append_nil]
      exact holds
  | cons move moves inner =>
      have both := Bool.and_eq_true_iff.mp passed
      have later := inner both.2 (kept past w move both.1 holds)
      rw [List.append_assoc] at later
      exact later

/-- An invariant of the shared state and all that was done, kept by every action. -/
theorem trace_kept {Inv : List (Deed A Reply) -> S -> Prop}
    (kept : forall past choice action s, Inv past s ->
      Inv (past ++ [⟨action, (sys.exec choice action s).2⟩]) (sys.exec choice action s).1)
    {past : List (Deed A Reply)} {w : World S A Reply R} (holds : Inv past w.shared)
    (moves : List (Move Op C)) :
    Inv (past ++ sys.trace moves w) (sys.run moves w).shared := by
  induction moves generalizing past w with
  | nil => exact (List.append_nil past).symm ▸ holds
  | cons move moves inner =>
      rw [trace, <- List.append_assoc]
      apply inner
      cases move with
      | spawn op => exact (List.append_nil past).symm ▸ holds
      | advance thread choice =>
          simp only [deed, step]
          split
          · exact kept past choice _ w.shared holds
          · exact (List.append_nil past).symm ▸ holds
          · exact (List.append_nil past).symm ▸ holds

theorem trace_append (moves later : List (Move Op C)) (w : World S A Reply R) :
    sys.trace (moves ++ later) w = sys.trace moves w ++ sys.trace later (sys.run moves w) := by
  induction moves generalizing w with
  | nil => rfl
  | cons move moves inner =>
      rw [List.cons_append, trace, trace, inner, List.append_assoc]
      rfl

/-! ## What each thread promises -/

/-- The operations a run has spawned; the thread of each is at its place. -/
def spawned (moves : List (Move Op C)) : List Op :=
  moves.filterMap fun
    | .spawn op => some op
    | .advance _ _ => none

theorem run_concat (moves : List (Move Op C)) (move : Move Op C) (w : World S A Reply R) :
    sys.run (moves ++ [move]) w = sys.step (sys.run moves w) move :=
  run_append moves [move] w

theorem length_threads (moves : List (Move Op C)) (s : S) :
    (sys.run moves (World.idle s)).threads.length = (spawned moves).length := by
  induction moves using List.reverseRecOn with
  | nil => rfl
  | append_singleton moves move inner =>
      rw [run_concat, spawned, List.filterMap_append, List.length_append]
      cases move with
      | spawn op => simp [step, inner, spawned]
      | advance index choice =>
          simp only [step]
          split
          · simp [inner, spawned]
          · simp [inner, spawned]
          · simp [inner, spawned]

theorem spawned_spawn (moves : List (Move Op C)) (op : Op) :
    spawned (moves ++ [.spawn op]) = spawned moves ++ [op] :=
  List.filterMap_append

theorem spawned_advance (moves : List (Move Op C)) (index : Nat) (choice : C) :
    spawned (moves ++ [(.advance index choice : Move Op C)]) = spawned moves := by
  rw [spawned, List.filterMap_append]
  exact List.append_nil _

/-- After one more move a thread has just been spawned, is as it was, or has
done the action of the move. -/
theorem thread_concat {moves : List (Move Op C)} {move : Move Op C} {s : S} {thread : Nat} {op : Op}
    {program : Program A Reply R} (started : (spawned (moves ++ [move]))[thread]? = some op)
    (running : (sys.run (moves ++ [move]) (World.idle s)).threads[thread]? = some program) :
    program = sys.program op ∨
      (spawned moves)[thread]? = some op ∧
        ((sys.run moves (World.idle s)).threads[thread]? = some program ∨
          exists choice action next, move = .advance thread choice ∧
            (sys.run moves (World.idle s)).threads[thread]? = some (.act action next) ∧
            program = next (sys.exec choice action (sys.run moves (World.idle s)).shared).2) := by
  have length : (sys.run moves (World.idle s)).threads.length = (spawned moves).length :=
    length_threads moves s
  rw [run_concat] at running
  cases move with
  | spawn newer =>
      rw [spawned_spawn] at started
      simp only [step] at running
      rcases Nat.lt_or_ge thread (spawned moves).length with before | late
      · rw [List.getElem?_append_left before] at started
        rw [List.getElem?_append_left (length ▸ before)] at running
        exact Or.inr ⟨started, Or.inl running⟩
      · rw [List.getElem?_append_right late, List.getElem?_singleton] at started
        rw [List.getElem?_append_right (length ▸ late), length, List.getElem?_singleton] at running
        split at started
        · rename_i here
          rw [if_pos here] at running
          cases started
          cases running
          exact Or.inl rfl
        · cases started
  | advance index choice =>
      rw [spawned_advance] at started
      refine Or.inr ⟨started, ?_⟩
      simp only [step] at running
      split at running
      · rename_i action next active
        rw [List.getElem?_set] at running
        split at running
        · rename_i here
          subst here
          split at running
          · cases running
            exact Or.inr ⟨choice, action, next, rfl, active, rfl⟩
          · cases running
        · exact Or.inl running
      · exact Or.inl running
      · exact Or.inl running

/-- A thread stays where it is while other threads go on. -/
theorem thread_beside {w : World S A Reply R} {thread : Nat} {program : Program A Reply R}
    (waits : w.threads[thread]? = some program) {move : Move Op C}
    (other : forall choice, move ≠ .advance thread choice) :
    (sys.step w move).threads[thread]? = some program := by
  cases move with
  | spawn op =>
      have alive := (List.getElem?_eq_some_iff.mp waits).1
      simp only [step]
      rw [List.getElem?_append_left alive]
      exact waits
  | advance index choice =>
      have apart : index ≠ thread := by
        rintro rfl
        exact other choice rfl
      simp only [step]
      split
      · rw [List.getElem?_set_ne apart]
        exact waits
      · exact waits
      · exact waits

/-! ## Watching one thread

A watcher follows one thread.  It learns each action the thread does with its
reply, and of the other threads only how they change the shared state.
-/

section Watching

variable {V : Type} (own : V -> (action : A) -> Reply action -> V) (others : V -> S -> S -> V)

variable (sys) in
/-- What the watcher of a thread makes of a move. -/
def watchMove (thread : Nat) (w : World S A Reply R) (view : V) : Move Op C -> V
  | .spawn _ => view
  | .advance index choice =>
      match w.threads[index]? with
      | some (.act action _) =>
          let (shared, reply) := sys.exec choice action w.shared
          if index = thread then own view action reply else others view w.shared shared
      | some (.done _) => view
      | none => view

variable (sys) in
/-- What the watcher of a thread makes of a run. -/
def watch (thread : Nat) : List (Move Op C) -> World S A Reply R -> V -> V
  | [], _, view => view
  | move :: moves, w, view =>
      watch thread moves (sys.step w move) (sys.watchMove own others thread w view move)

theorem watch_concat (thread : Nat) (moves : List (Move Op C)) (move : Move Op C)
    (w : World S A Reply R) (view : V) :
    sys.watch own others thread (moves ++ [move]) w view =
      sys.watchMove own others thread (sys.run moves w)
        (sys.watch own others thread moves w view) move := by
  induction moves generalizing w view with
  | nil => rfl
  | cons first moves inner => exact inner _ _

variable {own others}

/-- What is promised of the watched thread after these moves: the view is fresh
before the thread is spawned, and the promise of its operation holds afterwards. -/
def KeepsPromise (sys : System S A Reply R Op C) (own : V -> (action : A) -> Reply action -> V)
    (others : V -> S -> S -> V) (Fresh : V -> Prop)
    (Promise : Op -> V -> S -> Program A Reply R -> Prop) (s : S) (view : V) (thread : Nat)
    (moves : List (Move Op C)) : Prop :=
  ((spawned moves)[thread]? = none ->
    Fresh (sys.watch own others thread moves (World.idle s) view)) ∧
  forall op program, (spawned moves)[thread]? = some op ->
    (sys.run moves (World.idle s)).threads[thread]? = some program ->
    Promise op (sys.watch own others thread moves (World.idle s) view)
      (sys.run moves (World.idle s)).shared program

section Promises

variable {Fresh : V -> Prop} {Promise : Op -> V -> S -> Program A Reply R -> Prop} {s : S}
  {view : V} {thread : Nat} {moves : List (Move Op C)}

/-- A thread that is spawned starts with its promise. -/
theorem KeepsPromise.spawn (keeps : KeepsPromise sys own others Fresh Promise s view thread moves)
    (begun : forall op view shared, Fresh view -> Promise op view shared (sys.program op))
    (op : Op) :
    KeepsPromise sys own others Fresh Promise s view thread (moves ++ [.spawn op]) := by
  rcases keeps with ⟨idle, promises⟩
  have length : (sys.run moves (World.idle s)).threads.length = (spawned moves).length :=
    length_threads moves s
  rw [KeepsPromise, run_concat, watch_concat, spawned_spawn]
  simp only [step, watchMove]
  rcases Nat.lt_trichotomy thread (spawned moves).length with before | here | after
  · rw [List.getElem?_append_left before, List.getElem?_append_left (length ▸ before)]
    exact ⟨idle, promises⟩
  · subst here
    have isFresh := idle (List.getElem?_eq_none (Nat.le_refl _))
    rw [List.getElem?_append_right (Nat.le_refl _), List.getElem?_append_right (by omega),
      length, Nat.sub_self]
    refine ⟨fun none => (by cases none), ?_⟩
    rintro other program started found
    cases started
    cases found
    exact begun op _ _ isFresh
  · refine ⟨fun _ => idle (List.getElem?_eq_none (by omega)), ?_⟩
    intro other program started
    rw [List.getElem?_eq_none (by simp; omega)] at started
    cases started

/-- An action keeps the promise of the thread that does it, and disturbs no other's. -/
theorem KeepsPromise.advance
    (keeps : KeepsPromise sys own others Fresh Promise s view thread moves)
    (unborn : forall view before after, Fresh view -> Fresh (others view before after))
    (advanced : forall op view (index : Nat) choice action next,
      (sys.run moves (World.idle s)).threads[index]? = some (Program.act action next) ->
      Promise op view (sys.run moves (World.idle s)).shared (.act action next) ->
      Promise op (own view action (sys.exec choice action (sys.run moves (World.idle s)).shared).2)
        (sys.exec choice action (sys.run moves (World.idle s)).shared).1
        (next (sys.exec choice action (sys.run moves (World.idle s)).shared).2))
    (undisturbed : forall op view before after program, Promise op view before program ->
      Promise op (others view before after) after program) (index : Nat) (choice : C) :
    KeepsPromise sys own others Fresh Promise s view thread (moves ++ [.advance index choice]) := by
  rcases keeps with ⟨idle, promises⟩
  have length : (sys.run moves (World.idle s)).threads.length = (spawned moves).length :=
    length_threads moves s
  rw [KeepsPromise, run_concat, watch_concat, spawned_advance]
  simp only [step, watchMove]
  cases active : (sys.run moves (World.idle s)).threads[index]? with
  | none => exact ⟨idle, promises⟩
  | some running =>
      cases running with
      | done result => exact ⟨idle, promises⟩
      | act action next =>
          simp only [List.getElem?_set]
          by_cases here : index = thread
          · subst here
            have alive := (List.getElem?_eq_some_iff.mp active).1
            rw [if_pos rfl, if_pos rfl, if_pos alive]
            constructor
            · intro none
              exact absurd (List.getElem?_eq_none_iff.mp none) (by omega)
            · intro op program started found
              cases found
              exact advanced op _ index choice action next active (promises op _ started active)
          · rw [if_neg here, if_neg here]
            exact ⟨fun none => unborn _ _ _ (idle none), fun op program started found =>
              undisturbed op _ _ _ program (promises op program started found)⟩

end Promises

/-- What an operation's program promises of the watcher's view and the state
holds of its thread after every run.  Its own actions keep the promise, in
worlds that are sound, and no change by the others breaks it. -/
theorem watched {Sound : World S A Reply R -> Prop} {Fresh : V -> Prop}
    {Promise : Op -> V -> S -> Program A Reply R -> Prop} {s : S} {view : V}
    (sound : forall moves, Sound (sys.run moves (World.idle s))) (fresh : Fresh view)
    (unborn : forall view before after, Fresh view -> Fresh (others view before after))
    (begun : forall op view shared, Fresh view -> Promise op view shared (sys.program op))
    (advanced : forall op view (w : World S A Reply R) (thread : Nat) choice action next, Sound w ->
      w.threads[thread]? = some (Program.act action next) ->
      Promise op view w.shared (.act action next) ->
      Promise op (own view action (sys.exec choice action w.shared).2)
        (sys.exec choice action w.shared).1 (next (sys.exec choice action w.shared).2))
    (undisturbed : forall op view before after program, Promise op view before program ->
      Promise op (others view before after) after program)
    (moves : List (Move Op C)) (thread : Nat) :
    KeepsPromise sys own others Fresh Promise s view thread moves := by
  induction moves using List.reverseRecOn with
  | nil => exact ⟨fun _ => fresh, fun op program started => by cases started⟩
  | append_singleton moves move inner =>
      cases move with
      | spawn op => exact inner.spawn begun op
      | advance index choice =>
          apply inner.advance unborn _ undisturbed
          intro op view index choice action next
          exact advanced op view _ index choice action next (sound moves)

end Watching

/-- What an operation's program promises, and each of its own actions keeps,
holds of its thread after every run. -/
theorem thread_invariant {Promise : Op -> Program A Reply R -> Prop}
    (begun : forall op, Promise op (sys.program op))
    (kept : forall op choice s action next, Promise op (.act action next) ->
      Promise op (next (sys.exec choice action s).2))
    (moves : List (Move Op C)) (s : S) (thread : Nat) (op : Op) (program : Program A Reply R)
    (started : (spawned moves)[thread]? = some op)
    (running : (sys.run moves (World.idle s)).threads[thread]? = some program) :
    Promise op program := by
  induction moves using List.reverseRecOn generalizing program with
  | nil => cases started
  | append_singleton moves move inner =>
      rcases thread_concat started running with rfl | ⟨before, same | moved⟩
      · exact begun op
      · exact inner program before same
      · rcases moved with ⟨choice, action, next, -, active, rfl⟩
        exact kept op choice _ action next (inner _ before active)

/-! ## Totals over the threads -/

section Totals

variable (measure : Program A Reply R -> Nat)

theorem sum_map_set {T : Type} (measure : T -> Nat) {items : List T} {index : Nat} {item : T}
    (found : items[index]? = some item) (changed : T) :
    ((items.set index changed).map measure).sum + measure item =
      (items.map measure).sum + measure changed := by
  induction items generalizing index with
  | nil => cases found
  | cons first items inner =>
      cases index with
      | zero =>
          cases found
          simp only [List.set_cons_zero, List.map_cons, List.sum_cons]
          omega
      | succ index =>
          have rest := inner found
          simp only [List.set_cons_succ, List.map_cons, List.sum_cons]
          omega

theorem total_spawn (op : Op) (w : World S A Reply R) :
    (sys.step w (.spawn op)).total measure = w.total measure + measure (sys.program op) := by
  simp [World.total, step]

/-- An advance trades the measure of the program before the action for the one after it. -/
theorem total_advance {w : World S A Reply R} {thread : Nat} {action : A}
    {next : Reply action -> Program A Reply R} (found : w.threads[thread]? = some (.act action next))
    (choice : C) :
    (sys.step w (.advance thread choice)).total measure + measure (.act action next) =
      w.total measure + measure (next (sys.exec choice action w.shared).2) := by
  simp only [step, found]
  exact sum_map_set measure found _

end Totals

/-! ## Debts of the threads -/

/-- The ledgers of the threads, and their total. -/
inductive Accounts {T G : Type} [Add G] [Zero G] (Owes : T -> G -> Prop) : List T -> G -> Prop
  | nil : Accounts Owes [] 0
  | cons {thread : T} {threads : List T} {ledger total : G} (owes : Owes thread ledger)
      (rest : Accounts Owes threads total) : Accounts Owes (thread :: threads) (total + ledger)

namespace Accounts

variable {T D : Type} {Owes : T -> Multiset D -> Prop}

/-- A thread that starts without debts leaves the total as it is. -/
theorem spawn {threads : List T} {total : Multiset D} (accounts : Accounts Owes threads total)
    {thread : T} (owes : Owes thread 0) : Accounts Owes (threads ++ [thread]) total := by
  induction accounts with
  | nil =>
      have single : Accounts Owes [thread] (0 + 0) := Accounts.cons owes Accounts.nil
      rw [add_zero] at single
      exact single
  | cons first _ inner => exact Accounts.cons first inner

/-- Ledgers kept under one reading are ledgers under any reading it implies. -/
theorem mono {Owes' : T -> Multiset D -> Prop} {threads : List T} {total : Multiset D}
    (accounts : Accounts Owes threads total)
    (implies : forall thread ledger, Owes thread ledger -> Owes' thread ledger) :
    Accounts Owes' threads total := by
  induction accounts with
  | nil => exact Accounts.nil
  | cons owes _ inner => exact Accounts.cons (implies _ _ owes) inner

/-- One thread's ledger can be taken out of the total and another put in, while
the others are kept under a reading that theirs implies. -/
theorem exchange {Owes' : T -> Multiset D -> Prop} {threads : List T} {total : Multiset D}
    (accounts : Accounts Owes threads total)
    (implies : forall thread ledger, Owes thread ledger -> Owes' thread ledger)
    {index : Nat} {thread : T} (found : threads[index]? = some thread) :
    exists others ledger, total = others + ledger ∧ Owes thread ledger ∧
      forall after changed, Owes' after changed ->
        Accounts Owes' (threads.set index after) (others + changed) := by
  induction accounts generalizing index with
  | nil => simp at found
  | @cons head tail ledger total owes rest inner =>
      cases index with
      | zero =>
          rw [List.getElem?_cons_zero] at found
          cases found
          exact ⟨total, ledger, rfl, owes,
            fun after changed owed => Accounts.cons owed (rest.mono implies)⟩
      | succ index =>
          rw [List.getElem?_cons_succ] at found
          rcases inner found with ⟨others, mine, split, owed, put⟩
          refine ⟨others + ledger, mine, ?_, owed, fun after changed owing => ?_⟩
          · rw [split, add_right_comm]
          · rw [add_right_comm]
            exact Accounts.cons (implies head ledger owes) (put after changed owing)

/-- One thread's ledger can be taken out of the total and another put in. -/
theorem advance {threads : List T} {total : Multiset D} (accounts : Accounts Owes threads total)
    {index : Nat} {thread : T} (found : threads[index]? = some thread) :
    exists others ledger, total = others + ledger ∧ Owes thread ledger ∧
      forall after changed, Owes after changed ->
        Accounts Owes (threads.set index after) (others + changed) :=
  accounts.exchange (fun _ _ owes => owes) found

/-- Threads that owe nothing once done owe nothing together. -/
theorem settled {threads : List T} {total : Multiset D} (accounts : Accounts Owes threads total)
    {isDone : T -> Bool} (done : threads.all isDone = true)
    (free : forall thread ledger, isDone thread = true -> Owes thread ledger -> ledger = 0) :
    total = 0 := by
  induction accounts with
  | nil => rfl
  | cons owes _ inner =>
      rw [List.all_cons, Bool.and_eq_true_iff] at done
      rw [inner done.2, free _ _ done.1 owes, add_zero]

end Accounts

section Debts

variable {D : Type} (due : Multiset D -> A -> Prop)
  (settle : Multiset D -> (action : A) -> Reply action -> Multiset D)

/-- A program that, started with this ledger, does only what is due and ends without debts. -/
def Owes (program : Program A Reply R) (ledger : Multiset D) : Prop :=
  program.wp due settle ledger fun _ after => after = 0

/-- The shared state and the threads' debts together are as the invariant demands. -/
def Balanced (Global : S -> Multiset D -> Prop) (w : World S A Reply R) : Prop :=
  exists total, Accounts (Owes due settle) w.threads total ∧ Global w.shared total

variable {due settle}

theorem Owes.done {result : R} {ledger : Multiset D}
    (owes : Owes due settle (.done result : Program A Reply R) ledger) : ledger = 0 := owes

/-- An invariant of the shared state and the debts needs each action with the
ledger of its own program; the debts of the other threads stay as they are. -/
theorem balanced_run {test : World S A Reply R -> Move Op C -> Bool} {allowed : C -> A -> S -> Bool}
    {Global : S -> Multiset D -> Prop}
    (spawned : forall w op, test w (.spawn op) = true -> Owes due settle (sys.program op) 0)
    (advanced : forall w thread choice, test w (.advance thread choice) = true ->
      onAction allowed w (.advance thread choice : Move Op C) = true)
    (kept : forall choice action s others ledger, allowed choice action s = true ->
      due ledger action -> Global s (others + ledger) ->
      Global (sys.exec choice action s).1
        (others + settle ledger action (sys.exec choice action s).2))
    {moves : List (Move Op C)} {w : World S A Reply R}
    (passed : sys.along test moves w = true) (holds : Balanced due settle Global w) :
    Balanced due settle Global (sys.run moves w) := by
  apply run_invariant _ passed holds
  intro w move ok balanced
  rcases balanced with ⟨total, accounts, global⟩
  cases move with
  | spawn op => exact ⟨total, accounts.spawn (spawned w op ok), global⟩
  | advance thread choice =>
      have permitted := advanced w thread choice ok
      simp only [onAction] at permitted
      simp only [step]
      cases found : w.threads[thread]? with
      | none => exact ⟨total, accounts, global⟩
      | some program =>
          rw [found] at permitted
          cases program with
          | done result => exact ⟨total, accounts, global⟩
          | act action next =>
              rcases accounts.advance found with ⟨others, ledger, split, owes, put⟩
              rw [split] at global
              exact ⟨_, put _ _ (owes.2 _),
                kept choice action w.shared others ledger permitted owes.1 global⟩

/-- When every operation has completed there are no debts left. -/
theorem Balanced.settled {Global : S -> Multiset D -> Prop} {w : World S A Reply R}
    (balanced : Balanced due settle Global w) (done : w.settled = true) :
    Global w.shared 0 := by
  rcases balanced with ⟨total, accounts, global⟩
  have none := accounts.settled done fun thread ledger finished owes => by
    cases thread with
    | done result => exact owes.done
    | act action next => cases finished
  rw [none] at global
  exact global

end Debts

/-! ## Debts and knowledge

A ledger may also hold what a thread knows of the shared state.  Knowledge is
no debt: it stays true whatever the other threads do, and need not be given up.
-/

section Knowledge

variable {G D : Type} (debts : G -> Multiset D) (due : G -> A -> Prop)
  (settle : G -> (action : A) -> Reply action -> G)

/-- A program that, knowing what it knows, does only what is due and ends without debts. -/
def OwesKnowing (Knows : G -> Prop) (program : Program A Reply R) (owed : Multiset D) : Prop :=
  exists ledger, debts ledger = owed ∧ Knows ledger ∧
    program.wp due settle ledger fun _ after => debts after = 0

/-- The past, the shared state and the threads' debts together are as demanded. -/
def BalancedKnowing (Knows : S -> G -> Prop)
    (Global : List (Deed A Reply) -> S -> Multiset D -> Prop) (past : List (Deed A Reply))
    (w : World S A Reply R) : Prop :=
  exists total, Accounts (OwesKnowing debts due settle (Knows w.shared)) w.threads total ∧
    Global past w.shared total

variable {debts due settle}

/-- As for debts alone; the knowledge of a thread is kept by the others' actions
and brought up to date by its own. -/
theorem balancedKnowing_run {test : World S A Reply R -> Move Op C -> Bool}
    {allowed : C -> A -> S -> Bool} {Knows : S -> G -> Prop}
    {Global : List (Deed A Reply) -> S -> Multiset D -> Prop}
    (spawned : forall w op, test w (.spawn op) = true ->
      OwesKnowing debts due settle (Knows w.shared) (sys.program op) 0)
    (advanced : forall w thread choice, test w (.advance thread choice) = true ->
      onAction allowed w (.advance thread choice : Move Op C) = true)
    (stable : forall choice action s ledger, allowed choice action s = true -> Knows s ledger ->
      Knows (sys.exec choice action s).1 ledger)
    (learned : forall choice action s ledger, allowed choice action s = true -> Knows s ledger ->
      Knows (sys.exec choice action s).1 (settle ledger action (sys.exec choice action s).2))
    (kept : forall past choice action s others ledger, allowed choice action s = true ->
      Knows s ledger -> due ledger action -> Global past s (others + debts ledger) ->
      Global (past ++ [⟨action, (sys.exec choice action s).2⟩]) (sys.exec choice action s).1
        (others + debts (settle ledger action (sys.exec choice action s).2)))
    {moves : List (Move Op C)} {w : World S A Reply R}
    (passed : sys.along test moves w = true) {past : List (Deed A Reply)}
    (holds : BalancedKnowing debts due settle Knows Global past w) :
    BalancedKnowing debts due settle Knows Global (past ++ sys.trace moves w)
      (sys.run moves w) := by
  apply trace_invariant _ passed holds
  intro past w move ok balanced
  rcases balanced with ⟨total, accounts, global⟩
  cases move with
  | spawn op =>
      rw [deed, Option.toList_none, List.append_nil]
      exact ⟨total, accounts.spawn (spawned w op ok), global⟩
  | advance thread choice =>
      have permitted := advanced w thread choice ok
      simp only [onAction] at permitted
      simp only [step, deed]
      cases found : w.threads[thread]? with
      | none =>
          simp only [Option.toList_none, List.append_nil]
          exact ⟨total, accounts, global⟩
      | some program =>
          rw [found] at permitted
          cases program with
          | done result =>
              simp only [Option.toList_none, List.append_nil]
              exact ⟨total, accounts, global⟩
          | act action next =>
              have still : forall (program : Program A Reply R) owed,
                  OwesKnowing debts due settle (Knows w.shared) program owed ->
                  OwesKnowing debts due settle (Knows (sys.exec choice action w.shared).1)
                    program owed := by
                rintro program owed ⟨ledger, same, knows, owes⟩
                exact ⟨ledger, same, stable choice action w.shared ledger permitted knows, owes⟩
              rcases accounts.exchange still found with
                ⟨others, _, rfl, ⟨ledger, rfl, knows, owes⟩, put⟩
              have knowing := learned choice action w.shared ledger permitted knows
              refine ⟨_, put _ _ ⟨_, rfl, knowing, owes.2 _⟩, ?_⟩
              exact kept past choice action w.shared others ledger permitted knows owes.1 global

/-- When every operation has completed there are no debts left. -/
theorem BalancedKnowing.settled {Knows : S -> G -> Prop}
    {Global : List (Deed A Reply) -> S -> Multiset D -> Prop} {past : List (Deed A Reply)}
    {w : World S A Reply R} (balanced : BalancedKnowing debts due settle Knows Global past w)
    (done : w.settled = true) : Global past w.shared 0 := by
  rcases balanced with ⟨total, accounts, global⟩
  have none := accounts.settled done fun thread owed finished owes => by
    rcases owes with ⟨ledger, same, _, ends⟩
    cases thread with
    | done result => exact same.symm.trans ends
    | act action next => cases finished
  rw [none] at global
  exact global

end Knowledge

end System
end Foundations
end DigGossip
