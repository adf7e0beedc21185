import DigGossip.Discovery.Representation
import DigGossip.Discovery.Snapshot
import DigGossip.Foundations.FileSystem

namespace DigGossip
namespace Discovery

open Foundations DigGossip.Types

/-!
# The peer file

Saving a snapshot and loading it back, as the file-system steps the source
takes.  The byte format of a snapshot is a parameter.
-/

/-- `bincode::serialize` and `bincode::deserialize`, with the texts of their failures. -/
structure Bincode where
  serialize : AddressManagerState -> Except String (List UInt8)
  deserialize : List UInt8 -> Except String AddressManagerState

/-- A file operation that may fail. -/
abbrev FileAction (T : Type) := ExceptT GossipError FileProgram T

namespace FileAction

/-- What is known without a file-system step. -/
def known {T : Type} (result : Except GossipError T) : FileAction T :=
  ExceptT.mk (pure result)

def osResult {T : Type} : Except OsError T -> Except GossipError T
  | .ok result => .ok result
  | .error error => .error (.ioError error.text)

def pathExists (path : Path) : FileAction Bool :=
  ExceptT.mk (Except.ok <$> Program.perform (FileStep.pathExists path))

def read (path : Path) : FileAction (List UInt8) :=
  ExceptT.mk (osResult <$> Program.perform (FileStep.read path))

def createDirAll (path : Path) : FileAction Unit :=
  ExceptT.mk (osResult <$> Program.perform (FileStep.createDirAll path))

def write (path : Path) (bytes : List UInt8) : FileAction Unit :=
  ExceptT.mk (osResult <$> Program.perform (FileStep.write path bytes))

def removeFile (path : Path) : FileAction Unit :=
  ExceptT.mk (osResult <$> Program.perform (FileStep.removeFile path))

def rename (source target : Path) : FileAction Unit :=
  ExceptT.mk (osResult <$> Program.perform (FileStep.rename source target))

end FileAction

section Codec

variable (bincode : Bincode)

/-- The name a snapshot is first written under. -/
def temporaryPath (path : Path) : Path :=
  path.withExtension "tmp"

def bincodeSerialize (state : AddressManagerState) : Except GossipError (List UInt8) :=
  match bincode.serialize state with
  | .ok bytes => .ok bytes
  | .error detail => .error (.addressManagerStore ("bincode serialize: " ++ detail))

def bincodeDeserialize (bytes : List UInt8) : Except GossipError AddressManagerState :=
  match bincode.deserialize bytes with
  | .ok state => .ok state
  | .error detail => .error (.addressManagerStore ("bincode deserialize: " ++ detail))

/-- The directory a path is in, when it names one. -/
def namedParent (path : Path) : Except GossipError Path :=
  match path.parent.filter (fun parent => !parent.isEmpty) with
  | some parent => .ok parent
  | none => .error (.ioError ("peers file path has no parent directory: " ++ path.display))

def saveSync (state : AddressManagerState) (path : Path) : FileAction Unit := do
  FileAction.known (validateSnapshot state)
  if path.isEmpty then
    throw (.invalidConfig "peers_file_path is empty; cannot save address manager")
  let parent <- FileAction.known (namedParent path)
  FileAction.createDirAll parent
  let bytes <- FileAction.known (bincodeSerialize bincode state)
  FileAction.write (temporaryPath path) bytes
  if <- FileAction.pathExists path then
    FileAction.removeFile path
  FileAction.rename (temporaryPath path) path

def loadSync (path : Path) : FileAction (Option AddressManagerState) := do
  if !(<- FileAction.pathExists path) then
    return none
  let bytes <- FileAction.read path
  if bytes.isEmpty then
    return none
  let state <- FileAction.known (bincodeDeserialize bincode bytes)
  FileAction.known (validateSnapshot state)
  return some state

/-- What a load of the path returns when nothing else touches the files. -/
def load (path : Path) (fs : FileSystem) : Except GossipError (Option AddressManagerState) :=
  (Program.alone FileStep.exec (loadSync bincode path).run fs).2

/-- The files when the process stops after so many file-system steps of a save. -/
def savedUpTo (steps : Nat) (state : AddressManagerState) (path : Path) (fs : FileSystem) :
    FileSystem :=
  Program.cutAfter FileStep.exec steps (saveSync bincode state path).run fs

end Codec

/-! ## Steps of an operation -/

section Steps

variable {T U : Type} {fs : FileSystem} {rest : T -> FileAction U}

theorem alone_known {result : T} :
    Program.alone FileStep.exec (FileAction.known (.ok result) >>= rest).run fs =
      Program.alone FileStep.exec (rest result).run fs := rfl

variable {count : Nat}

theorem cutAfter_known {result : T} :
    Program.cutAfter FileStep.exec count (FileAction.known (.ok result) >>= rest).run fs =
      Program.cutAfter FileStep.exec count (rest result).run fs := rfl

theorem cutAfter_known_error {error : GossipError} :
    Program.cutAfter FileStep.exec count (FileAction.known (.error error) >>= rest).run fs = fs :=
  Program.cutAfter_pure count _ fs

variable {step : FileStep} {convert : step.Reply -> Except GossipError T} {after : FileSystem}
  {reply : step.Reply}

theorem alone_step (done : step.exec fs = (after, reply)) {result : T}
    (answer : convert reply = .ok result) :
    Program.alone FileStep.exec (ExceptT.mk (convert <$> Program.perform step) >>= rest).run fs =
      Program.alone FileStep.exec (rest result).run after := by
  show Program.alone FileStep.exec (ExceptT.bindCont rest (convert (step.exec fs).2)) _ = _
  rw [done, answer]
  rfl

theorem alone_step_error (done : step.exec fs = (after, reply)) {error : GossipError}
    (answer : convert reply = .error error) :
    Program.alone FileStep.exec (ExceptT.mk (convert <$> Program.perform step) >>= rest).run fs =
      (after, .error error) := by
  show Program.alone FileStep.exec (ExceptT.bindCont rest (convert (step.exec fs).2)) _ = _
  rw [done, answer]
  rfl

theorem cutAfter_step (done : step.exec fs = (after, reply)) {result : T}
    (answer : convert reply = .ok result) :
    Program.cutAfter FileStep.exec (count + 1)
        (ExceptT.mk (convert <$> Program.perform step) >>= rest).run fs =
      Program.cutAfter FileStep.exec count (rest result).run after := by
  show Program.cutAfter FileStep.exec count (ExceptT.bindCont rest (convert (step.exec fs).2)) _ = _
  rw [done, answer]
  rfl

theorem cutAfter_step_error (done : step.exec fs = (after, reply)) {error : GossipError}
    (answer : convert reply = .error error) :
    Program.cutAfter FileStep.exec (count + 1)
        (ExceptT.mk (convert <$> Program.perform step) >>= rest).run fs = after := by
  show Program.cutAfter FileStep.exec count (ExceptT.bindCont rest (convert (step.exec fs).2)) _ = _
  rw [done, answer]
  exact Program.cutAfter_pure count _ _

end Steps

/-! ## The stages of a save -/

section Stages

variable {bincode : Bincode} {state : AddressManagerState} {path : Path} {fs : FileSystem}
  {stored bytes : List UInt8}

/-- The save is accepted and its temporary name is free for a file, so that it
goes on to replace the file. -/
def replaces (bincode : Bincode) (state : AddressManagerState) (path : Path) (fs : FileSystem) :
    Bool :=
  (validateSnapshot state).isOk && (namedParent path).isOk && (bincode.serialize state).isOk &&
    !FileSystem.isDirectory fs (temporaryPath path)

/-- The files after each step of a save that replaces the file. -/
def replacing (path : Path) (bytes : List UInt8) (fs : FileSystem) : Nat -> FileSystem
  | 0 | 1 => fs
  | 2 | 3 => fs.insert (temporaryPath path) (.file bytes)
  | 4 => (fs.insert (temporaryPath path) (.file bytes)).erase path
  | _ + 5 =>
      ((FileStep.rename (temporaryPath path) path).exec
        ((fs.insert (temporaryPath path) (.file bytes)).erase path)).1

theorem temporaryPath_beside (path : Path) : Path.Beside (temporaryPath path) path :=
  path.withExtension_beside "tmp"

/-- A save accepted up to its first write. -/
theorem accepted_of_replaces (goesOn : replaces bincode state path fs = true) :
    validateSnapshot state = .ok () ∧ (exists parent, namedParent path = .ok parent) ∧
      (exists bytes, bincode.serialize state = .ok bytes) ∧
      FileSystem.isDirectory fs (temporaryPath path) = false := by
  unfold replaces at goesOn
  simp only [Bool.and_eq_true, Bool.not_eq_true'] at goesOn
  rcases goesOn with ⟨⟨⟨valid, parent⟩, serialized⟩, free⟩
  refine ⟨?_, ?_, ?_, free⟩
  · cases result : validateSnapshot state with
    | ok done => rfl
    | error error =>
        rw [result] at valid
        cases valid
  · cases result : namedParent path with
    | ok parent => exact ⟨parent, rfl⟩
    | error error =>
        rw [result] at parent
        cases parent
  · cases result : bincode.serialize state with
    | ok bytes => exact ⟨bytes, rfl⟩
    | error detail =>
        rw [result] at serialized
        cases serialized

theorem parent_of_namedParent {parent : Path} (named : namedParent path = .ok parent) :
    path.parent = some parent := by
  unfold namedParent at named
  split at named
  · rename_i found
    cases named
    exact (Option.filter_eq_some_iff.mp found).1
  · cases named

section Held

variable (holds : FileSystem.stat fs path = some (.file stored))
include holds

theorem isEmpty_of_held : path.isEmpty = false := by
  rcases FileSystem.fileName_of_stat holds with ⟨name, named⟩
  exact Path.isEmpty_of_fileName named

/-- The directory of a file that is there needs no making. -/
theorem exec_createDirAll {parent : Path} (named : namedParent path = .ok parent) :
    (FileStep.createDirAll parent).exec fs = (fs, .ok ()) := by
  show FileSystem.attempt fs (FileSystem.createDirAll fs parent) = _
  rw [FileSystem.createDirAll_of_reaches (parent_of_namedParent named)
    (FileSystem.reaches_of_stat holds)]
  rfl

theorem temporary_reached : FileSystem.reaches fs (temporaryPath path) = true := by
  unfold FileSystem.reaches
  rw [(temporaryPath_beside path).ancestors_eq]
  exact FileSystem.reaches_of_stat holds

theorem exec_write (free : FileSystem.isDirectory fs (temporaryPath path) = false) :
    (FileStep.write (temporaryPath path) bytes).exec fs =
      (fs.insert (temporaryPath path) (.file bytes), .ok ()) := by
  show FileSystem.attempt fs (FileSystem.write fs (temporaryPath path) bytes) = _
  rw [FileSystem.write_of_free free (temporary_reached holds)]
  rfl

/-- The path holds a file before and after the temporary file is written. -/
theorem stat_written :
    FileSystem.stat (fs.insert (temporaryPath path) (.file bytes)) path =
      some (.file (if temporaryPath path = path then bytes else stored)) := by
  by_cases same : temporaryPath path = path
  · rcases FileSystem.fileName_of_stat holds with ⟨name, named⟩
    rw [if_pos same, same]
    exact FileSystem.stat_insert_self named (FileSystem.reaches_of_stat holds) _
  · rw [if_neg same, <- holds]
    exact FileSystem.stat_insert_of_ne (Ne.symm same) (temporaryPath_beside path).2.2.ge _

/-- The rename fails where the temporary name is the path itself, and otherwise
puts the new bytes in place. -/
theorem stat_renamed (free : FileSystem.isDirectory fs (temporaryPath path) = false) :
    FileSystem.stat ((FileStep.rename (temporaryPath path) path).exec
        ((fs.insert (temporaryPath path) (.file bytes)).erase path)).1 path =
      if temporaryPath path = path then none else some (.file bytes) := by
  rcases FileSystem.fileName_of_stat holds with ⟨name, named⟩
  have length := (temporaryPath_beside path).2.2
  have gone := @FileSystem.stat_erase_self (fs.insert (temporaryPath path) (.file bytes)) path name
    named
  show FileSystem.stat (FileSystem.attempt _ (FileSystem.rename _ (temporaryPath path) path)).1 path
    = _
  by_cases same : temporaryPath path = path
  · rw [if_pos same]
    unfold FileSystem.rename
    simp only [same] at gone ⊢
    simp only [gone]
    exact gone
  · rw [if_neg same]
    have reached := FileSystem.reaches_of_stat holds
    have moved : FileSystem.stat ((fs.insert (temporaryPath path) (.file bytes)).erase path)
        (temporaryPath path) = some (.file bytes) := by
      rcases FileSystem.fileName_of_free free with ⟨temporary, temporaryNamed⟩
      rw [FileSystem.stat_erase_of_ne same length.le]
      exact FileSystem.stat_insert_self temporaryNamed (temporary_reached holds) _
    have room : FileSystem.write (((fs.insert (temporaryPath path) (.file bytes)).erase path).erase
          (temporaryPath path)) path bytes =
        .ok ((((fs.insert (temporaryPath path) (.file bytes)).erase path).erase
          (temporaryPath path)).insert path (.file bytes)) := by
      apply FileSystem.write_of_free
      · unfold FileSystem.isDirectory
        rw [named, FiniteMap.lookup_erase_eq, if_neg (Ne.symm same), FiniteMap.lookup_erase_eq,
          if_pos rfl]
        rfl
      · rw [FileSystem.reaches_erase length.ge, FileSystem.reaches_erase (Nat.le_refl _),
          FileSystem.reaches_insert length.ge, reached]
    unfold FileSystem.rename
    simp only [moved, room]
    apply FileSystem.stat_insert_self named
    rw [FileSystem.reaches_erase length.ge, FileSystem.reaches_erase (Nat.le_refl _),
      FileSystem.reaches_insert length.ge, reached]

/-- A save that replaces the file goes through the stages in order. -/
theorem savedUpTo_of_replaces (goesOn : replaces bincode state path fs = true)
    (serialized : bincode.serialize state = .ok bytes) (steps : Nat) :
    savedUpTo bincode steps state path fs = replacing path bytes fs steps := by
  rcases accepted_of_replaces goesOn with ⟨valid, ⟨parent, named⟩, _, free⟩
  have made := exec_createDirAll holds named
  have written := @exec_write path fs stored bytes holds free
  have there : (FileStep.pathExists path).exec (fs.insert (temporaryPath path) (.file bytes)) =
      (fs.insert (temporaryPath path) (.file bytes), true) := by
    show (_, (FileSystem.stat _ path).isSome) = _
    rw [stat_written holds]
    rfl
  have removed : (FileStep.removeFile path).exec
        (fs.insert (temporaryPath path) (.file bytes)) =
      ((fs.insert (temporaryPath path) (.file bytes)).erase path, .ok ()) := by
    show FileSystem.attempt _ (FileSystem.removeFile _ path) = _
    rw [FileSystem.removeFile_of_stat (stat_written holds)]
    rfl
  have encoded : bincodeSerialize bincode state = .ok bytes := by
    unfold bincodeSerialize
    rw [serialized]
  unfold savedUpTo saveSync
  rw [valid, cutAfter_known, isEmpty_of_held holds]
  simp only [Bool.false_eq_true, if_false]
  rw [named, cutAfter_known]
  cases steps with
  | zero => exact Program.cutAfter_zero _ _
  | succ steps =>
  refine (cutAfter_step made (by rfl)).trans ?_
  rw [encoded, cutAfter_known]
  cases steps with
  | zero => exact Program.cutAfter_zero _ _
  | succ steps =>
  refine (cutAfter_step written (by rfl)).trans ?_
  cases steps with
  | zero => exact Program.cutAfter_zero _ _
  | succ steps =>
  refine (cutAfter_step there (by rfl)).trans ?_
  rw [if_pos rfl]
  cases steps with
  | zero => exact Program.cutAfter_zero _ _
  | succ steps =>
  refine (cutAfter_step removed (by rfl)).trans ?_
  cases steps with
  | zero => exact Program.cutAfter_zero _ _
  | succ steps => exact Program.cutAfter_pure steps _ _

/-- A save that does not go on to replace the file leaves the files as they are. -/
theorem savedUpTo_of_not_replaces (refused : replaces bincode state path fs = false)
    (steps : Nat) : savedUpTo bincode steps state path fs = fs := by
  unfold savedUpTo saveSync
  cases valid : validateSnapshot state with
  | error error => exact cutAfter_known_error
  | ok done =>
  rw [cutAfter_known, isEmpty_of_held holds]
  simp only [Bool.false_eq_true, if_false]
  cases named : namedParent path with
  | error error => exact cutAfter_known_error
  | ok parent =>
  rw [cutAfter_known]
  have made := exec_createDirAll holds named
  cases steps with
  | zero => exact Program.cutAfter_zero _ _
  | succ steps =>
  refine (cutAfter_step made (by rfl)).trans ?_
  cases serialized : bincode.serialize state with
  | error detail =>
      unfold bincodeSerialize
      rw [serialized]
      exact cutAfter_known_error
  | ok bytes =>
      have taken : FileSystem.isDirectory fs (temporaryPath path) = true := by
        simpa [replaces, valid, named, serialized, Except.isOk, Except.toBool] using refused
      have blocked : exists error, FileSystem.write fs (temporaryPath path) bytes = .error error := by
        unfold FileSystem.write
        rw [taken]
        split
        · exact ⟨_, rfl⟩
        · exact ⟨_, rfl⟩
      rcases blocked with ⟨error, blocked⟩
      have failed : (FileStep.write (temporaryPath path) bytes).exec fs = (fs, .error error) :=
        congrArg (FileSystem.attempt fs) blocked
      unfold bincodeSerialize
      rw [serialized, cutAfter_known]
      cases steps with
      | zero => exact Program.cutAfter_zero _ _
      | succ steps => exact cutAfter_step_error failed (by rfl)

end Held

end Stages

/-! ## Loading -/

section Loading

variable {bincode : Bincode} {state : AddressManagerState} {path : Path} {fs : FileSystem}

theorem exec_pathExists (path : Path) (fs : FileSystem) :
    (FileStep.pathExists path).exec fs = (fs, (FileSystem.stat fs path).isSome) := rfl

theorem exec_read {result : Except OsError (List UInt8)}
    (contents : FileSystem.read fs path = result) :
    (FileStep.read path).exec fs = (fs, result) :=
  congrArg (Prod.mk fs) contents

theorem load_of_missing (missing : FileSystem.stat fs path = none) :
    load bincode path fs = .ok none := by
  have absent := exec_pathExists path fs
  rw [missing] at absent
  exact congrArg Prod.snd (alone_step absent (by rfl))

/-- Something at the path is read, and a failure to read it is the load's. -/
theorem load_of_unreadable {entry : Entry} {error : OsError}
    (found : FileSystem.stat fs path = some entry)
    (failed : FileSystem.read fs path = .error error) :
    load bincode path fs = .error (.ioError error.text) := by
  have there := exec_pathExists path fs
  rw [found] at there
  refine (congrArg Prod.snd (alone_step there (by rfl))).trans ?_
  exact congrArg Prod.snd (alone_step_error (exec_read failed) (by rfl))

/-- The bytes that are read hold a valid snapshot or the load fails; without
bytes there is no snapshot. -/
theorem load_of_read {entry : Entry} {bytes : List UInt8}
    (found : FileSystem.stat fs path = some entry)
    (contents : FileSystem.read fs path = .ok bytes) :
    load bincode path fs =
      if bytes.isEmpty then .ok none
      else (bincodeDeserialize bincode bytes).bind fun state =>
        (validateSnapshot state).map fun _ => some state := by
  have there := exec_pathExists path fs
  rw [found] at there
  refine (congrArg Prod.snd (alone_step there (by rfl))).trans ?_
  refine (congrArg Prod.snd (alone_step (exec_read contents) (by rfl))).trans ?_
  cases bytes with
  | nil => rfl
  | cons first rest =>
      simp only [List.isEmpty_cons, Bool.false_eq_true, if_false]
      cases bincodeDeserialize bincode (first :: rest) with
      | error error => rfl
      | ok state =>
          rw [alone_known]
          show _ = (validateSnapshot state).map fun _ => some state
          cases validateSnapshot state with
          | error error => rfl
          | ok done => rfl

/-- A file gives the snapshot that its bytes hold, if they hold a valid one. -/
theorem load_of_file {bytes : List UInt8} (holds : FileSystem.stat fs path = some (.file bytes)) :
    load bincode path fs = .ok (some state) ↔
      bytes ≠ [] ∧ bincode.deserialize bytes = .ok state ∧ validateSnapshot state = .ok () := by
  have contents : FileSystem.read fs path = .ok bytes := by
    unfold FileSystem.read
    rw [holds]
  rw [load_of_read holds contents]
  cases bytes with
  | nil =>
      constructor
      · intro loaded
        cases loaded
      · intro parts
        exact absurd rfl parts.1
  | cons first rest =>
      simp only [List.isEmpty_cons, Bool.false_eq_true, if_false]
      unfold bincodeDeserialize
      cases bincode.deserialize (first :: rest) with
      | error detail =>
          constructor
          · intro loaded
            cases loaded
          · intro parts
            cases parts.2.1
      | ok decoded =>
          simp only [Except.bind]
          cases valid : validateSnapshot decoded with
          | error error =>
              constructor
              · intro loaded
                cases loaded
              · intro parts
                cases parts.2.1
                rw [valid] at parts
                cases parts.2.2
          | ok done =>
              constructor
              · intro loaded
                cases loaded
                exact ⟨List.cons_ne_nil first rest, rfl, valid⟩
              · intro parts
                cases parts.2.1
                rfl

/-- A snapshot is loaded from a file that holds one and from nothing else. -/
theorem load_eq_some_iff : load bincode path fs = .ok (some state) ↔
    exists bytes, FileSystem.stat fs path = some (.file bytes) ∧ bytes ≠ [] ∧
      bincode.deserialize bytes = .ok state ∧ validateSnapshot state = .ok () := by
  constructor
  · intro loaded
    cases found : FileSystem.stat fs path with
    | none =>
        rw [load_of_missing found] at loaded
        cases loaded
    | some entry =>
        cases entry with
        | file bytes => exact ⟨bytes, rfl, (load_of_file found).mp loaded⟩
        | directory =>
            have failed : FileSystem.read fs path = .error .isADirectory := by
              unfold FileSystem.read
              rw [found]
            rw [load_of_unreadable found failed] at loaded
            cases loaded
  · rintro ⟨bytes, found, parts⟩
    exact (load_of_file found).mpr parts

end Loading

/-! ## Stopping a save -/

/-- The save is stopped where no load finds a snapshot: after the removal and
before the rename, or, at a path whose temporary name is its own, at any time
after the removal. -/
def exposed (bincode : Bincode) (state : AddressManagerState) (path : Path) (fs : FileSystem)
    (steps : Nat) : Bool :=
  replaces bincode state path fs &&
    if path.extension = some "tmp" then decide (4 ≤ steps) else decide (steps = 4)

/-- Wherever a save is stopped, a load finds the old snapshot or the new one,
except in the window between removing the file and renaming the new one. -/
theorem saved_survives_iff (bincode : Bincode) (fs : FileSystem) (path : Path)
    (old new : AddressManagerState) (steps : Nat)
    (onDisk : load bincode path fs = .ok (some old))
    (nonempty : bincode.serialize new ≠ .ok [])
    (roundTrip : forall bytes, bincode.serialize new = .ok bytes ->
      bincode.deserialize bytes = .ok new) :
    (load bincode path (savedUpTo bincode steps new path fs) = .ok (some old) ∨
      load bincode path (savedUpTo bincode steps new path fs) = .ok (some new)) ↔
      exposed bincode new path fs steps = false := by
  rcases load_eq_some_iff.mp onDisk with ⟨stored, holds, oldFacts⟩
  rcases FileSystem.fileName_of_stat holds with ⟨name, named⟩
  have sameName : temporaryPath path = path ↔ path.extension = some "tmp" :=
    Path.withExtension_eq_iff named (by decide)
  unfold exposed
  cases goesOn : replaces bincode new path fs with
  | false =>
      rw [savedUpTo_of_not_replaces holds goesOn]
      exact iff_of_true (Or.inl onDisk) rfl
  | true =>
      rcases accepted_of_replaces goesOn with ⟨valid, _, ⟨bytes, serialized⟩, free⟩
      have newFacts : bytes ≠ [] ∧ bincode.deserialize bytes = .ok new ∧
          validateSnapshot new = .ok () :=
        ⟨fun none => nonempty (none ▸ serialized), roundTrip bytes serialized, valid⟩
      have survives {after : FileSystem} {held : List UInt8}
          (found : FileSystem.stat after path = some (.file held))
          (either : held = bytes ∨ held = stored) :
          load bincode path after = .ok (some old) ∨ load bincode path after = .ok (some new) := by
        rcases either with rfl | rfl
        · exact Or.inr ((load_of_file found).mpr newFacts)
        · exact Or.inl ((load_of_file found).mpr oldFacts)
      have lost {after : FileSystem} (missing : FileSystem.stat after path = none) :
          ¬ (load bincode path after = .ok (some old) ∨
            load bincode path after = .ok (some new)) := by
        rw [load_of_missing missing]
        rintro (found | found) <;> cases found
      have written := survives (@stat_written path fs stored bytes holds) (by
        by_cases same : temporaryPath path = path
        · exact Or.inl (if_pos same)
        · exact Or.inr (if_neg same))
      rw [savedUpTo_of_replaces holds goesOn serialized, Bool.true_and]
      rcases steps with _ | _ | _ | _ | _ | steps
      · exact iff_of_true (Or.inl onDisk) (by simp)
      · exact iff_of_true (Or.inl onDisk) (by simp)
      · exact iff_of_true written (by simp)
      · exact iff_of_true written (by simp)
      · exact iff_of_false (lost (FileSystem.stat_erase_self named)) (by simp)
      · have renamed := @stat_renamed path fs stored bytes holds free
        by_cases same : temporaryPath path = path
        · rw [if_pos same] at renamed
          rw [if_pos (sameName.mp same)]
          exact iff_of_false (lost renamed) (by simp)
        · rw [if_neg same] at renamed
          rw [if_neg (mt sameName.mpr same)]
          exact iff_of_true (survives renamed (Or.inl rfl)) (by simp)

/-! ## A save of a fresh book -/

namespace Example

/-- The snapshot of a book without rows. -/
def blankSnapshot (key : Key) : AddressManagerState where
  version := addressManagerStateVersion
  key := key
  nodeIds := []
  entries := []
  triedTable := List.replicate triedBucketCount (List.replicate bucketSize none)
  newTable := List.replicate newBucketCount (List.replicate bucketSize none)
  randomPos := []
  lastGood := 1
  triedCollisionIndices := []
  allowPrivateSubnets := false
  idCount := 0
  triedCount := 0
  newCount := 0

theorem blankSnapshot_valid (key : Key) : validateSnapshot (blankSnapshot key) = .ok () :=
  validateSnapshot_ok.mpr {
    version := rfl
    parallel := rfl
    empty := fun _ => ⟨⟨rfl, rfl⟩, rfl, rfl, rfl⟩
    triedTable := .replicate triedBucketCount fun ix filled => by cases filled
    newTable := .replicate newBucketCount fun ix filled => by cases filled
    order := fun _ member => by cases member
    collisions := fun _ member => by cases member }

def littleEndian (width value : Nat) : List UInt8 :=
  (List.range width).map fun place => UInt8.ofNat (value / 256 ^ place)

def encodeVec {T : Type} (encode : T -> List UInt8) (items : List T) : List UInt8 :=
  littleEndian 8 items.length ++ items.flatMap encode

def encodeCell : Option Nat -> List UInt8
  | none => [0]
  | some ix => 1 :: littleEndian 8 ix

/-- The bytes of a snapshot without rows: fixed-width integers, and a length
in front of every list. -/
def encodeBlank (state : AddressManagerState) : List UInt8 :=
  littleEndian 4 state.version ++ state.key.toList ++
    encodeVec (fun nodeId => littleEndian 4 nodeId.toNat) state.nodeIds ++
    encodeVec (fun _ => []) state.entries ++
    encodeVec (encodeVec encodeCell) state.triedTable ++
    encodeVec (encodeVec encodeCell) state.newTable ++
    encodeVec (littleEndian 8) state.randomPos ++ littleEndian 8 state.lastGood ++
    encodeVec (littleEndian 8) state.triedCollisionIndices ++
    [if state.allowPrivateSubnets then 1 else 0] ++ littleEndian 4 state.idCount.toNat ++
    littleEndian 4 state.triedCount ++ littleEndian 4 state.newCount

theorem littleEndian_length (width value : Nat) : (littleEndian width value).length = width := by
  unfold littleEndian
  rw [List.length_map, List.length_range]

theorem encodeBlank_key (state : AddressManagerState) :
    ((encodeBlank state).drop 4).take 32 = state.key.toList := by
  have header : (littleEndian 4 state.version).length = 4 := littleEndian_length 4 _
  have key : state.key.toList.length = 32 := Vector.length_toList
  unfold encodeBlank
  simp only [List.append_assoc]
  rw [List.drop_append_of_le_length header.ge, List.drop_of_length_le header.le, List.nil_append,
    List.take_append_of_le_length key.ge, List.take_of_length_le key.le]

def oldSnapshot : AddressManagerState := blankSnapshot zeroKey

def newSnapshot : AddressManagerState := blankSnapshot (Vector.replicate 32 1)

/-- The codec on the two snapshots of a book without rows. -/
def blankBincode : Bincode where
  serialize state := .ok (encodeBlank state)
  deserialize bytes :=
    if bytes = encodeBlank oldSnapshot then .ok oldSnapshot
    else if bytes = encodeBlank newSnapshot then .ok newSnapshot
    else .error "io error: unexpected end of file"

theorem encodeBlank_ne : encodeBlank newSnapshot ≠ encodeBlank oldSnapshot := by
  intro same
  have keys := congrArg (fun bytes => (bytes.drop 4).take 32) same
  simp only [encodeBlank_key] at keys
  revert keys
  decide +kernel

theorem encodeBlank_nonempty (state : AddressManagerState) : encodeBlank state ≠ [] := by
  intro none
  have key := encodeBlank_key state
  rw [none] at key
  have length := congrArg List.length key
  simp at length

theorem blankBincode_old : blankBincode.deserialize (encodeBlank oldSnapshot) = .ok oldSnapshot := by
  unfold blankBincode
  simp only [if_true]

theorem blankBincode_new : blankBincode.deserialize (encodeBlank newSnapshot) = .ok newSnapshot := by
  unfold blankBincode
  simp only [if_neg encodeBlank_ne, if_true]

def directory : Path := { absolute := true, components := ["data"] }

def peersFile : Path := { absolute := true, components := ["data", "peers.dat"] }

/-- A data directory whose peer file holds the old snapshot. -/
def disk : FileSystem :=
  ((∅ : FileSystem).insert directory .directory).insert peersFile (.file (encodeBlank oldSnapshot))

theorem disk_holds : FileSystem.stat disk peersFile = some (.file (encodeBlank oldSnapshot)) := by
  apply FileSystem.stat_insert_self (show peersFile.fileName = some "peers.dat" by decide)
  decide +kernel

theorem disk_loads : load blankBincode peersFile disk = .ok (some oldSnapshot) :=
  (load_of_file disk_holds).mpr
    ⟨encodeBlank_nonempty oldSnapshot, blankBincode_old, blankSnapshot_valid zeroKey⟩

theorem disk_replaces : replaces blankBincode newSnapshot peersFile disk = true := by
  have parent : namedParent peersFile = .ok directory := by decide +kernel
  have free : FileSystem.isDirectory disk (temporaryPath peersFile) = false := by
    have name : temporaryPath peersFile =
        { absolute := true, components := ["data", "peers.tmp"] } := by decide +kernel
    unfold FileSystem.isDirectory disk
    rw [name, FiniteMap.lookup_insert_eq, if_neg (by decide), FiniteMap.lookup_insert_eq,
      if_neg (by decide), Finmap.lookup_empty]
    decide
  unfold replaces
  rw [parent, free, show validateSnapshot newSnapshot = .ok () from blankSnapshot_valid _]
  rfl

end Example

open Example in
/-- A save stopped before the removal keeps the old book. -/
theorem saved_survives_before_removal :
    load blankBincode peersFile (savedUpTo blankBincode 3 newSnapshot peersFile disk) =
        .ok (some oldSnapshot) ∨
      load blankBincode peersFile (savedUpTo blankBincode 3 newSnapshot peersFile disk) =
        .ok (some newSnapshot) :=
  (saved_survives_iff blankBincode disk peersFile oldSnapshot newSnapshot 3 disk_loads
    (fun none => encodeBlank_nonempty newSnapshot (Except.ok.inj none))
    (fun bytes serialized => Except.ok.inj serialized ▸ blankBincode_new)).mpr (by
      unfold exposed
      rw [if_neg (by decide +kernel)]
      exact Bool.and_false _)

open Example in
/-- A save stopped right after the removal leaves an empty book. -/
theorem saved_survives_fails :
    ¬ forall (bincode : Bincode) (fs : FileSystem) (path : Path) (old new : AddressManagerState)
        (steps : Nat), load bincode path fs = .ok (some old) -> bincode.serialize new ≠ .ok [] ->
      (forall bytes, bincode.serialize new = .ok bytes -> bincode.deserialize bytes = .ok new) ->
      load bincode path (savedUpTo bincode steps new path fs) = .ok (some old) ∨
        load bincode path (savedUpTo bincode steps new path fs) = .ok (some new) := by
  intro claim
  have stopped := claim blankBincode disk peersFile oldSnapshot newSnapshot 4 disk_loads
    (fun none => encodeBlank_nonempty newSnapshot (Except.ok.inj none))
    (fun bytes serialized => Except.ok.inj serialized ▸ blankBincode_new)
  rw [savedUpTo_of_replaces disk_holds disk_replaces rfl] at stopped
  have missing : load blankBincode peersFile
      (replacing peersFile (encodeBlank newSnapshot) disk 4) = .ok none :=
    load_of_missing (FileSystem.stat_erase_self (show peersFile.fileName = some "peers.dat" by
      decide))
  rw [missing] at stopped
  rcases stopped with found | found <;> cases found

end Discovery
end DigGossip
