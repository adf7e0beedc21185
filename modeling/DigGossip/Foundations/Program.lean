import Mathlib.Data.Nat.Notation
import Mathlib.Tactic.ByContra

namespace DigGossip
namespace Foundations

/-!
# Programs of atomic actions

A concurrent operation is a tree of atomic actions: each action names what is
done to the shared state, and the reply chooses how the operation goes on.
Nothing is said here about the state; an interpreter supplies that, and the
scheduler decides whose action comes next.

A ghost ledger is a value carried along one program and updated by its actions
and their replies.  The transformer `wp` says that every path of the program
meets a requirement at each action and ends with a ledger as demanded.

A program keeps a state good when none of its actions can break it, on the
replies that a good state gives.  Programs that all do so may be interleaved in
any order.
-/

inductive Program (A : Type) (Reply : A -> Type) (R : Type) : Type where
  | done (result : R)
  | act (action : A) (next : Reply action -> Program A Reply R)

namespace Program

variable {A : Type} {Reply : A -> Type} {R T : Type}

def bind : Program A Reply R -> (R -> Program A Reply T) -> Program A Reply T
  | done result, rest => rest result
  | act action next, rest => act action fun reply => (next reply).bind rest

instance : Monad (Program A Reply) where
  pure := done
  bind := bind

theorem bind_assoc {T' : Type} (program : Program A Reply R) (middle : R -> Program A Reply T)
    (rest : T -> Program A Reply T') :
    program >>= middle >>= rest = program >>= fun result => middle result >>= rest := by
  induction program with
  | done result => rfl
  | act action next inner => exact congrArg (act action) (funext inner)

/-- The program that does one action and returns its reply. -/
def perform (action : A) : Program A Reply (Reply action) :=
  act action done

def isDone : Program A Reply R -> Bool
  | done _ => true
  | act _ _ => false

/-! ## Footprints -/

/-- Every action on every path is allowed. -/
def Only (allowed : A -> Bool) : Program A Reply R -> Prop
  | done _ => True
  | act action next => allowed action = true ∧ forall reply, Only allowed (next reply)

section Footprints

variable {allowed : A -> Bool}

theorem Only.pure (result : R) : Only allowed (Pure.pure result : Program A Reply R) :=
  trivial

theorem Only.perform {action : A} (isAllowed : allowed action = true) :
    Only allowed (Program.perform action : Program A Reply (Reply action)) :=
  ⟨isAllowed, fun _ => trivial⟩

theorem Only.bind {program : Program A Reply R} (only : Only allowed program)
    {rest : R -> Program A Reply T} (after : forall result, Only allowed (rest result)) :
    Only allowed (program >>= rest) := by
  induction program with
  | done result => exact after result
  | act action next inner => exact ⟨only.1, fun reply => inner reply (only.2 reply)⟩

theorem Only.map {program : Program A Reply R} (only : Only allowed program) (change : R -> T) :
    Only allowed (change <$> program) :=
  only.bind fun _ => trivial

theorem Only.mono {wider : A -> Bool} {program : Program A Reply R} (only : Only allowed program)
    (widen : forall action, allowed action = true -> wider action = true) : Only wider program := by
  induction program with
  | done result => trivial
  | act action next inner =>
      exact ⟨widen action only.1, fun reply => inner reply (only.2 reply)⟩

end Footprints

/-! ## Ghost ledgers -/

section Ledgers

variable {G : Type} (due : G -> A -> Prop) (settle : G -> (action : A) -> Reply action -> G)

/-- Every path from this ledger does only actions that are due and ends as demanded. -/
def wp : Program A Reply R -> G -> (R -> G -> Prop) -> Prop
  | done result, ledger, post => post result ledger
  | act action next, ledger, post =>
      due ledger action ∧ forall reply, wp (next reply) (settle ledger action reply) post

variable {due settle}

@[simp] theorem wp_bind (program : Program A Reply R) (rest : R -> Program A Reply T)
    (ledger : G) (post : T -> G -> Prop) :
    wp due settle (program >>= rest) ledger post =
      wp due settle program ledger fun result after => wp due settle (rest result) after post := by
  induction program generalizing ledger with
  | done result => rfl
  | act action next inner =>
      apply congrArg (due ledger action ∧ ·)
      exact forall_congr fun reply => inner reply (settle ledger action reply)

/-- A program that begins with an action. -/
theorem wp_perform_bind {action : A} {rest : Reply action -> Program A Reply R} {ledger : G}
    {post : R -> G -> Prop} (isDue : due ledger action)
    (after : forall reply, wp due settle (rest reply) (settle ledger action reply) post) :
    wp due settle (perform action >>= rest) ledger post :=
  ⟨isDue, after⟩

@[simp] theorem wp_map (program : Program A Reply R) (change : R -> T) (ledger : G)
    (post : T -> G -> Prop) :
    wp due settle (change <$> program) ledger post =
      wp due settle program ledger fun result after => post (change result) after :=
  wp_bind program (fun result => pure (change result)) ledger post

theorem wp_mono {program : Program A Reply R} {ledger : G} {post weaker : R -> G -> Prop}
    (holds : wp due settle program ledger post)
    (weaken : forall result after, post result after -> weaker result after) :
    wp due settle program ledger weaker := by
  induction program generalizing ledger with
  | done result => exact weaken result ledger holds
  | act action next inner =>
      exact ⟨holds.1, fun reply => inner reply (holds.2 reply)⟩

/-- A requirement that asks for less is met where the stronger one is. -/
theorem wp_of_due {weakDue : G -> A -> Prop} {program : Program A Reply R} {ledger : G}
    {post : R -> G -> Prop} (holds : wp due settle program ledger post)
    (weaken : forall ledger action, due ledger action -> weakDue ledger action) :
    wp weakDue settle program ledger post := by
  induction program generalizing ledger with
  | done result => exact holds
  | act action next inner =>
      exact ⟨weaken ledger action holds.1, fun reply => inner reply (holds.2 reply)⟩

/-- A program that does only what is due does only what that allows. -/
theorem only_of_wp {allowed : A -> Bool} {program : Program A Reply R} {ledger : G}
    {post : R -> G -> Prop} (holds : wp due settle program ledger post)
    (allows : forall ledger action, due ledger action -> allowed action = true) :
    Only allowed program := by
  induction program generalizing ledger with
  | done result => trivial
  | act action next inner =>
      exact ⟨allows ledger action holds.1, fun reply => inner reply (holds.2 reply)⟩

/-- What holds of every result and ledger holds at the end of a program whose
actions are always due. -/
theorem Only.wp {allowed : A -> Bool} {program : Program A Reply R} (only : Only allowed program)
    {ledger : G} {post : R -> G -> Prop} (always : forall action, allowed action = true ->
      forall ledger, due ledger action)
    (holds : forall result after, post result after) : wp due settle program ledger post := by
  induction program generalizing ledger with
  | done result => exact holds result ledger
  | act action next inner =>
      exact ⟨always action only.1 ledger, fun reply => inner reply (only.2 reply)⟩

variable (due settle) in
/-- A quiet program does only actions that are always due and leave every
ledger as it is. -/
def Quiet : Program A Reply R -> Prop
  | done _ => True
  | act action next =>
      (forall ledger, due ledger action) ∧
        (forall ledger reply, settle ledger action reply = ledger) ∧ forall reply, Quiet (next reply)

theorem wp_of_quiet {program : Program A Reply R} (quiet : Quiet due settle program)
    {ledger : G} {post : R -> G -> Prop} (holds : forall result, post result ledger) :
    wp due settle program ledger post := by
  induction program with
  | done result => exact holds result
  | act action next inner =>
      refine ⟨quiet.1 ledger, fun reply => ?_⟩
      rw [quiet.2.1 ledger reply]
      exact inner reply (quiet.2.2 reply)

/-- A program whose actions are all quiet is quiet. -/
theorem Only.quiet {allowed : A -> Bool} {program : Program A Reply R}
    (only : Only allowed program) (always : forall action, allowed action = true ->
      forall ledger, due ledger action)
    (still : forall action, allowed action = true -> forall ledger reply,
      settle ledger action reply = ledger) : Quiet due settle program := by
  induction program with
  | done result => trivial
  | act action next inner =>
      exact ⟨always action only.1, still action only.1, fun reply => inner reply (only.2 reply)⟩

/-- What holds of every result and ledger holds at the end, if every action is due. -/
theorem wp_of_forall {program : Program A Reply R} {ledger : G} {post : R -> G -> Prop}
    (always : forall ledger action, due ledger action)
    (holds : forall result after, post result after) : wp due settle program ledger post := by
  induction program generalizing ledger with
  | done result => exact holds result ledger
  | act action next inner => exact ⟨always ledger action, fun reply => inner reply⟩

/-- A quiet beginning leaves the ledger for the rest of the program. -/
theorem wp_quiet_bind {program : Program A Reply R} (quiet : Quiet due settle program)
    {rest : R -> Program A Reply T} {ledger : G} {post : T -> G -> Prop}
    (after : forall result, wp due settle (rest result) ledger post) :
    wp due settle (program >>= rest) ledger post := by
  rw [wp_bind]
  exact wp_of_quiet quiet after

theorem Quiet.pure (result : R) : Quiet due settle (Pure.pure result : Program A Reply R) :=
  trivial

theorem Quiet.bind {program : Program A Reply R} (quiet : Quiet due settle program)
    {rest : R -> Program A Reply T} (after : forall result, Quiet due settle (rest result)) :
    Quiet due settle (program >>= rest) := by
  induction program with
  | done result => exact after result
  | act action next inner =>
      exact ⟨quiet.1, quiet.2.1, fun reply => inner reply (quiet.2.2 reply)⟩

theorem Quiet.perform {action : A} (always : forall ledger, due ledger action)
    (still : forall ledger reply, settle ledger action reply = ledger) :
    Quiet due settle (Program.perform action) :=
  ⟨always, still, fun _ => trivial⟩

end Ledgers

/-! ## Keeping a state good -/

section Keeping

variable {S C : Type} (exec : C -> (action : A) -> S -> S × Reply action) (Good : S -> Prop)

/-- Some path of the program, on the replies that good states give, comes to an
action that breaks a good state. -/
inductive Breaks : Program A Reply R -> Prop
  | here {action : A} {next : Reply action -> Program A Reply R} {choice : C} {s : S}
      (good : Good s) (broken : ¬ Good (exec choice action s).1) : Breaks (.act action next)
  | later {action : A} {next : Reply action -> Program A Reply R} {choice : C} {s : S}
      (good : Good s) (rest : Breaks (next (exec choice action s).2)) : Breaks (.act action next)

/-- Every action keeps a good state good, on every path that good states lead to. -/
def Keeps : Program A Reply R -> Prop
  | done _ => True
  | act action next => forall choice s, Good s ->
      Good (exec choice action s).1 ∧ Keeps (next (exec choice action s).2)

variable {exec Good}

theorem keeps_iff_not_breaks {program : Program A Reply R} :
    Keeps exec Good program ↔ ¬ Breaks exec Good program := by
  induction program with
  | done result => exact ⟨fun _ breaks => (by cases breaks), fun _ => trivial⟩
  | act action next inner =>
      constructor
      · intro keeps breaks
        cases breaks with
        | here good broken => exact broken (keeps _ _ good).1
        | later good rest => exact (inner _).mp (keeps _ _ good).2 rest
      · intro sound choice s good
        refine ⟨?_, (inner _).mpr fun rest => sound (Breaks.later good rest)⟩
        by_contra broken
        exact sound (Breaks.here good broken)

theorem Keeps.pure (result : R) : Keeps exec Good (Pure.pure result : Program A Reply R) :=
  trivial

theorem Keeps.bind {program : Program A Reply R} (keeps : Keeps exec Good program)
    {rest : R -> Program A Reply T} (after : forall result, Keeps exec Good (rest result)) :
    Keeps exec Good (program >>= rest) := by
  induction program with
  | done result => exact after result
  | act action next inner =>
      intro choice s good
      have step := keeps choice s good
      exact ⟨step.1, inner _ step.2⟩

theorem Keeps.map {program : Program A Reply R} (keeps : Keeps exec Good program)
    (change : R -> T) : Keeps exec Good (change <$> program) :=
  keeps.bind fun _ => trivial

/-- A program whose actions all keep a good state good, whatever the replies. -/
theorem Only.keeps {allowed : A -> Bool} {program : Program A Reply R}
    (only : Only allowed program) (kept : forall action, allowed action = true ->
      forall choice s, Good s -> Good (exec choice action s).1) : Keeps exec Good program := by
  induction program with
  | done result => trivial
  | act action next inner =>
      intro choice s good
      exact ⟨kept action only.1 choice s good, inner _ (only.2 _)⟩

end Keeping

/-! ## Running alone -/

section Alone

variable {S : Type} (exec : (action : A) -> S -> S × Reply action)

/-- The state and the result of a program that nothing else interleaves with. -/
def alone : Program A Reply R -> S -> S × R
  | done result, s => (s, result)
  | act action next, s => alone (next (exec action s).2) (exec action s).1

/-- The actions of a program that nothing else interleaves with, in order. -/
def trail : Program A Reply R -> S -> List A
  | done _, _ => []
  | act action next, s => action :: trail (next (exec action s).2) (exec action s).1

/-- The state in which a program stops that is cut off after so many actions. -/
def cutAfter : Nat -> Program A Reply R -> S -> S
  | 0, _, s => s
  | _ + 1, done _, s => s
  | count + 1, act action next, s =>
      cutAfter count (next (exec action s).2) (exec action s).1

variable {exec}

@[simp] theorem alone_perform_bind (action : A) (rest : Reply action -> Program A Reply R) (s : S) :
    alone exec (perform action >>= rest) s =
      alone exec (rest (exec action s).2) (exec action s).1 := rfl

theorem alone_bind (program : Program A Reply R) (rest : R -> Program A Reply T) (s : S) :
    alone exec (program >>= rest) s =
      alone exec (rest (alone exec program s).2) (alone exec program s).1 := by
  induction program generalizing s with
  | done result => rfl
  | act action next inner => exact inner _ _

theorem alone_map (program : Program A Reply R) (change : R -> T) (s : S) :
    alone exec (change <$> program) s =
      ((alone exec program s).1, change (alone exec program s).2) :=
  alone_bind program (fun result => pure (change result)) s

@[simp] theorem trail_perform_bind (action : A) (rest : Reply action -> Program A Reply R) (s : S) :
    trail exec (perform action >>= rest) s =
      action :: trail exec (rest (exec action s).2) (exec action s).1 := rfl

theorem trail_bind (program : Program A Reply R) (rest : R -> Program A Reply T) (s : S) :
    trail exec (program >>= rest) s =
      trail exec program s ++ trail exec (rest (alone exec program s).2) (alone exec program s).1 := by
  induction program generalizing s with
  | done result => rfl
  | act action next inner => exact congrArg (action :: ·) (inner _ _)

theorem trail_map (program : Program A Reply R) (change : R -> T) (s : S) :
    trail exec (change <$> program) s = trail exec program s :=
  (trail_bind program (fun result => pure (change result)) s).trans (List.append_nil _)

/-- A program that is cut off late enough has come to its end. -/
theorem cutAfter_late (program : Program A Reply R) (s : S) :
    exists enough, forall count, enough ≤ count ->
      cutAfter exec count program s = (alone exec program s).1 := by
  induction program generalizing s with
  | done result =>
      refine ⟨0, fun count _ => ?_⟩
      cases count with
      | zero => rfl
      | succ count => rfl
  | act action next inner =>
      rcases inner (exec action s).2 (exec action s).1 with ⟨enough, ended⟩
      refine ⟨enough + 1, fun count late => ?_⟩
      cases count with
      | zero => exact absurd late (Nat.not_succ_le_zero enough)
      | succ count => exact ended count (Nat.le_of_succ_le_succ late)

/-- A view that none of the allowed actions changes is the same at the end. -/
theorem Only.alone {V : Type} {allowed : A -> Bool} {program : Program A Reply R}
    (only : Only allowed program) (view : S -> V)
    (kept : forall action, allowed action = true -> forall s, view (exec action s).1 = view s)
    (s : S) : view (alone exec program s).1 = view s := by
  induction program generalizing s with
  | done result => rfl
  | act action next inner => exact (inner _ (only.2 _) _).trans (kept action only.1 s)

/-- After a program that keeps a view, the rest starts from a state with that view. -/
theorem Only.alone_bind {V : Type} {allowed : A -> Bool} {program : Program A Reply R}
    (only : Only allowed program) (view : S -> V)
    (kept : forall action, allowed action = true -> forall s, view (exec action s).1 = view s)
    {rest : R -> Program A Reply T} {s : S} (post : S × T -> Prop)
    (after : forall t result, view t = view s -> post (Program.alone exec (rest result) t)) :
    post (Program.alone exec (program >>= rest) s) := by
  rw [Program.alone_bind]
  exact after _ _ (only.alone view kept s)

theorem Only.mem_trail {allowed : A -> Bool} {program : Program A Reply R}
    (only : Only allowed program) (s : S) : ∀ action ∈ trail exec program s,
      allowed action = true := by
  induction program generalizing s with
  | done result =>
      intro action member
      cases member
  | act action next inner =>
      intro other member
      rcases List.mem_cons.mp member with rfl | later
      · exact only.1
      · exact inner _ (only.2 _) _ other later

@[simp] theorem cutAfter_zero (program : Program A Reply R) (s : S) :
    cutAfter exec 0 program s = s := by
  cases program <;> rfl

@[simp] theorem cutAfter_pure (count : Nat) (result : R) (s : S) :
    cutAfter exec count (pure result : Program A Reply R) s = s := by
  cases count <;> rfl

/-! ## Deadlines -/

variable (exec) in
/-- The state and, if the program came to its end within so many actions, its result. -/
def within : Nat -> Program A Reply R -> S -> S × Option R
  | _, done result, s => (s, some result)
  | 0, act _ _, s => (s, none)
  | count + 1, act action next, s =>
      within count (next (exec action s).2) (exec action s).1

@[simp] theorem within_pure (count : Nat) (result : R) (s : S) :
    within exec count (pure result : Program A Reply R) s = (s, some result) := by
  cases count <;> rfl

@[simp] theorem within_succ (count : Nat) (action : A)
    (rest : Reply action -> Program A Reply R) (s : S) :
    within exec (count + 1) (perform action >>= rest) s =
      within exec count (rest (exec action s).2) (exec action s).1 := rfl

/-- Every path does the first actions of a script, and no others. -/
def Recites : Program A Reply R -> List A -> Prop
  | done _, _ => True
  | act _ _, [] => False
  | act action next, first :: script => action = first ∧ forall reply, Recites (next reply) script

/-- A program that follows a script has logged a beginning of it at any deadline. -/
theorem Recites.within {log : S -> List A}
    (logged : forall action s, log (exec action s).1 = log s ++ [action])
    {program : Program A Reply R} {script : List A} (recites : Recites program script)
    (count : Nat) (s : S) :
    ∃ made, made <+: script ∧ log (within exec count program s).1 = log s ++ made := by
  induction program generalizing script count s with
  | done result =>
      refine ⟨[], List.nil_prefix, ?_⟩
      cases count <;> exact (List.append_nil _).symm
  | act action next inner =>
      cases count with
      | zero => exact ⟨[], List.nil_prefix, (List.append_nil _).symm⟩
      | succ count =>
          cases script with
          | nil => cases recites
          | cons first script =>
              rcases recites with ⟨rfl, recites⟩
              rcases inner _ (recites (exec action s).2) count (exec action s).1 with
                ⟨made, beginning, ends⟩
              refine ⟨action :: made, List.cons_prefix_cons.mpr ⟨rfl, beginning⟩, ?_⟩
              show log (Program.within exec count _ _).1 = _
              rw [ends, logged, List.append_assoc]
              rfl

end Alone

end Program
end Foundations
end DigGossip
