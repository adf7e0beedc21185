import DigGossip.Foundations.Interleaving

namespace DigGossip
namespace Foundations

/-!
# Audited runs

An auditor follows a whole run.  It notes of each thread which operation it
runs, what its own actions have told it and what the other threads have changed
since, and it keeps one book of everything that is done.  Nothing depends on
the notes: an audited run without them is the run itself.

A property that speaks of several threads, or of points charged so far, is an
invariant of the audited run.  It needs the running thread's own action, the
change the others see, and the entry in the book.
-/

/-- A thread with its operation and what is noted of it. -/
structure Thread (A : Type) (Reply : A -> Type) (R Op V : Type) where
  op : Op
  view : V
  program : Program A Reply R

/-- What is noted of a thread at first, by its own actions and by those of the
others, and what is entered in the book for an action of an operation. -/
structure Auditor (S A : Type) (Reply : A -> Type) (Op V B : Type) where
  unseen : V
  own : V -> (action : A) -> Reply action -> V
  others : V -> S -> S -> V
  enter : B -> Op -> (action : A) -> Reply action -> B

structure Audit (S A : Type) (Reply : A -> Type) (R Op V B : Type) where
  shared : S
  threads : List (Thread A Reply R Op V)
  book : B

variable {S A : Type} {Reply : A -> Type} {R Op C V B : Type}

namespace Audit

/-- An audit before any operation is spawned. -/
def idle (s : S) (book : B) : Audit S A Reply R Op V B :=
  { shared := s, threads := [], book := book }

/-- What is audited, without the notes. -/
def world (audit : Audit S A Reply R Op V B) : World S A Reply R where
  shared := audit.shared
  threads := audit.threads.map Thread.program

end Audit

namespace Auditor

variable (auditor : Auditor S A Reply Op V B)

/-- A thread as it is noted when another one has acted. -/
def observe (before after : S) (thread : Thread A Reply R Op V) : Thread A Reply R Op V :=
  { thread with view := auditor.others thread.view before after }

/-- The audit after an action of the thread at this place, with what it leaves and replies. -/
def note (audit : Audit S A Reply R Op V B) (index : Nat) (op : Op) (view : V) (action : A)
    (next : Reply action -> Program A Reply R) (left : S × Reply action) :
    Audit S A Reply R Op V B where
  shared := left.1
  threads := (audit.threads.map (auditor.observe audit.shared left.1)).set index
    ⟨op, auditor.own view action left.2, next left.2⟩
  book := auditor.enter audit.book op action left.2

variable {auditor} {audit : Audit S A Reply R Op V B} {index : Nat} {op : Op} {view : V}
  {action : A} {next : Reply action -> Program A Reply R} {left : S × Reply action}

/-- Each thread noted is the one that acted or one that was observed. -/
theorem of_mem_note {thread : Thread A Reply R Op V}
    (member : thread ∈ (auditor.note audit index op view action next left).threads) :
    thread = ⟨op, auditor.own view action left.2, next left.2⟩ ∨
      ∃ old ∈ audit.threads, thread = auditor.observe audit.shared left.1 old := by
  rcases List.mem_or_eq_of_mem_set member with observed | acted
  · rcases List.mem_map.mp observed with ⟨old, held, same⟩
    exact Or.inr ⟨old, held, same.symm⟩
  · exact Or.inl acted

/-- A thread is observed unless it is the one that acted. -/
theorem mem_note {old : Thread A Reply R Op V}
    (running : audit.threads[index]? = some ⟨op, view, .act action next⟩)
    (member : old ∈ audit.threads) :
    old = ⟨op, view, .act action next⟩ ∨ auditor.observe audit.shared left.1 old ∈
      (auditor.note audit index op view action next left).threads := by
  rcases List.mem_iff_getElem?.mp member with ⟨place, found⟩
  by_cases here : index = place
  · subst here
    rw [running] at found
    exact Or.inl (Option.some.inj found).symm
  · refine Or.inr (List.mem_iff_getElem?.mpr ⟨place, ?_⟩)
    rw [note, List.getElem?_set_ne here, List.getElem?_map, found]
    rfl

theorem mem_note_self (running : audit.threads[index]? = some ⟨op, view, .act action next⟩) :
    ⟨op, auditor.own view action left.2, next left.2⟩ ∈
      (auditor.note audit index op view action next left).threads := by
  have alive := (List.getElem?_eq_some_iff.mp running).1
  refine List.mem_iff_getElem?.mpr ⟨index, ?_⟩
  rw [note, List.getElem?_set_self]
  rw [List.length_map]
  exact alive

end Auditor

namespace System

variable (sys : System S A Reply R Op C) (auditor : Auditor S A Reply Op V B)

def auditMove (audit : Audit S A Reply R Op V B) : Move Op C -> Audit S A Reply R Op V B
  | .spawn op =>
      { audit with threads := audit.threads ++ [⟨op, auditor.unseen, sys.program op⟩] }
  | .advance index choice =>
      match audit.threads[index]? with
      | some ⟨op, view, .act action next⟩ =>
          auditor.note audit index op view action next (sys.exec choice action audit.shared)
      | some ⟨_, _, .done _⟩ => audit
      | none => audit

variable {sys auditor}

/-- The notes decide nothing. -/
theorem world_auditMove (audit : Audit S A Reply R Op V B) (move : Move Op C) :
    (sys.auditMove auditor audit move).world = sys.step audit.world move := by
  cases move with
  | spawn op => simp [auditMove, step, Audit.world]
  | advance index choice =>
      simp only [auditMove, step, Audit.world, List.getElem?_map]
      cases running : audit.threads[index]? with
      | none => rfl
      | some thread =>
          rcases thread with ⟨op, view, program⟩
          cases program with
          | done result => rfl
          | act action next =>
              have unnoted : forall after (thread : Thread A Reply R Op V),
                  (auditor.observe audit.shared after thread).program = thread.program :=
                fun _ _ => rfl
              simp only [Auditor.note, Option.map_some, List.map_set, List.map_map,
                Function.comp_def, unnoted]

theorem world_audited (moves : List (Move Op C)) (audit : Audit S A Reply R Op V B) :
    (Stepping.run (sys.auditMove auditor) moves audit).world = sys.run moves audit.world := by
  induction moves generalizing audit with
  | nil => rfl
  | cons move moves inner => rw [Stepping.run_cons, run_cons, inner, world_auditMove]

/-- The test of a move that looks at the thread that acts, what it does and the audit. -/
def onNoted (test : Audit S A Reply R Op V B -> Op -> V -> A -> Bool)
    (audit : Audit S A Reply R Op V B) : Move Op C -> Bool
  | .spawn _ => true
  | .advance index _ =>
      match audit.threads[index]? with
      | some ⟨op, view, .act action _⟩ => test audit op view action
      | some ⟨_, _, .done _⟩ => true
      | none => true

/-- An invariant of an audited run is kept by each new thread and by each action
that passes the test. -/
theorem audit_invariant {test : Audit S A Reply R Op V B -> Op -> V -> A -> Bool}
    {Inv : Audit S A Reply R Op V B -> Prop}
    (spawned : forall audit op, Inv audit ->
      Inv { audit with threads := audit.threads ++ [⟨op, auditor.unseen, sys.program op⟩] })
    (acted : forall audit index choice op view action next,
      audit.threads[index]? = some ⟨op, view, .act action next⟩ ->
      test audit op view action = true -> Inv audit ->
      Inv (auditor.note audit index op view action next (sys.exec choice action audit.shared)))
    {moves : List (Move Op C)} {audit : Audit S A Reply R Op V B}
    (passed : Stepping.along (sys.auditMove auditor) (onNoted test) moves audit = true)
    (holds : Inv audit) : Inv (Stepping.run (sys.auditMove auditor) moves audit) := by
  apply Stepping.invariant _ passed holds
  intro audit move allowed inv
  cases move with
  | spawn op => exact spawned audit op inv
  | advance index choice =>
      simp only [onNoted] at allowed
      simp only [auditMove]
      cases running : audit.threads[index]? with
      | none => exact inv
      | some thread =>
          rw [running] at allowed
          rcases thread with ⟨op, view, program⟩
          cases program with
          | done result => exact inv
          | act action next => exact acted audit index choice op view action next running allowed inv

end System

end Foundations
end DigGossip
