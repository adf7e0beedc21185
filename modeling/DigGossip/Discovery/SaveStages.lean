import DigGossip.Discovery.AcceptedSnapshot
import DigGossip.Discovery.PeerFile

namespace DigGossip
namespace Discovery

open Foundations DigGossip.Types

/-!
# The stages of a save

What a save that is stopped at any of its file steps leaves behind, on a path
that holds a snapshot, an empty file or nothing.  `Shelf` names what is there;
`Shelf.after` says what becomes of it.
-/

/-! ## Where the book is kept -/

/-- What is where the book is kept. -/
inductive Shelf where
  | missing
  /-- An empty file, as an operator may leave for a placeholder. -/
  | blank
  | holds (book : Inner)

namespace Shelf

/-- The book that a life starts with. -/
def found (key : Key) : Shelf -> Inner
  | holds book => book
  | _ => Inner.new key

/-- What a save leaves that is stopped after so many file steps.  The fourth
step takes a file away that is there and the fifth puts the new one in its place. -/
def after (shelf : Shelf) (book : Inner) (steps : Nat) : Shelf :=
  if steps < 4 then shelf
  else
    match shelf with
    | missing => holds book
    | _ => if steps = 4 then missing else holds book

theorem after_late (shelf : Shelf) (book : Inner) (count : Nat) :
    shelf.after book (count + 5) = .holds book := by
  unfold after
  rw [if_neg (by omega), if_neg (by omega)]
  cases shelf with
  | missing => rfl
  | blank => rfl
  | holds other => rfl

end Shelf

/-! ## The stages of a save -/

/-- A path whose directory is there and whose temporary name is free for a file. -/
structure Ready (path : Path) (fs : FileSystem) : Prop where
  parent : exists directory, namedParent path = .ok directory
  reached : FileSystem.reaches fs path = true
  free : FileSystem.isDirectory fs (temporaryPath path) = false

/-- A path that a save can make ready.  The name of the file is not the name
its snapshots are first written under. -/
structure Savable (path : Path) (fs : FileSystem) : Prop where
  directory : exists directory made,
    namedParent path = .ok directory ∧ FileSystem.createDirAll fs directory = .ok made
  free : FileSystem.isDirectory fs (temporaryPath path) = false
  distinct : temporaryPath path ≠ path

section Stages

variable {path : Path} {fs : FileSystem}

theorem parent_nonempty {directory : Path} (named : namedParent path = .ok directory) :
    directory.isEmpty = false := by
  unfold namedParent at named
  split at named
  · rename_i found
    cases named
    exact Bool.not_eq_true' _ ▸ (Option.filter_eq_some_iff.mp found).2
  · cases named

theorem temporaryPath_length (path : Path) :
    (temporaryPath path).components.length = path.components.length :=
  (temporaryPath_beside path).2.2

/-- Whether a name beside the path is a directory depends on its own entry only. -/
theorem isDirectory_congr {other : Path} {after : FileSystem}
    (same : after.lookup other = fs.lookup other) :
    FileSystem.isDirectory after other = FileSystem.isDirectory fs other := by
  unfold FileSystem.isDirectory
  rw [same]

namespace Ready

theorem savable (ready : Ready path fs) (distinct : temporaryPath path ≠ path) : Savable path fs := by
  rcases ready.parent with ⟨directory, named⟩
  exact ⟨⟨directory, fs, named, FileSystem.createDirAll_of_reaches (parent_of_namedParent named)
    ready.reached⟩, ready.free, distinct⟩

theorem fileName (ready : Ready path fs) : exists name, (temporaryPath path).fileName = some name :=
  FileSystem.fileName_of_free ready.free

theorem reached_temporary (ready : Ready path fs) :
    FileSystem.reaches fs (temporaryPath path) = true := by
  unfold FileSystem.reaches
  rw [(temporaryPath_beside path).ancestors_eq]
  exact ready.reached

/-- A file written at the path's level leaves the path ready. -/
theorem insertFile (ready : Ready path fs) {changed : Path}
    (level : changed.components.length = path.components.length) (bytes : List UInt8) :
    Ready path (fs.insert changed (.file bytes)) := by
  refine ⟨ready.parent, (FileSystem.reaches_insert level.ge _).trans ready.reached, ?_⟩
  by_cases same : temporaryPath path = changed
  · rcases ready.fileName with ⟨name, named⟩
    unfold FileSystem.isDirectory
    rw [named, FiniteMap.lookup_insert_eq, if_pos same]
    rfl
  · have kept : (fs.insert changed (.file bytes)).lookup (temporaryPath path) =
        fs.lookup (temporaryPath path) := by
      rw [FiniteMap.lookup_insert_eq, if_neg same]
    exact (isDirectory_congr kept).trans ready.free

/-- An entry taken away at the path's level leaves the path ready. -/
theorem erase (ready : Ready path fs) {changed : Path}
    (level : changed.components.length = path.components.length) :
    Ready path (fs.erase changed) := by
  refine ⟨ready.parent, (FileSystem.reaches_erase level.ge).trans ready.reached, ?_⟩
  rcases ready.fileName with ⟨name, named⟩
  unfold FileSystem.isDirectory
  rw [named, FiniteMap.lookup_erase_eq]
  split
  · rfl
  · have free := ready.free
    unfold FileSystem.isDirectory at free
    rw [named] at free
    exact free

end Ready

/-- The rename puts the temporary file in the path's place. -/
theorem exec_rename {bytes : List UInt8}
    (written : FileSystem.stat fs (temporaryPath path) = some (.file bytes))
    (free : FileSystem.isDirectory fs path = false) (reached : FileSystem.reaches fs path = true) :
    (FileStep.rename (temporaryPath path) path).exec fs =
      ((fs.erase (temporaryPath path)).insert path (.file bytes), .ok ()) := by
  have room : FileSystem.write (fs.erase (temporaryPath path)) path bytes =
      .ok ((fs.erase (temporaryPath path)).insert path (.file bytes)) := by
    apply FileSystem.write_of_free
    · rcases FileSystem.fileName_of_free free with ⟨name, named⟩
      unfold FileSystem.isDirectory at free ⊢
      rw [named] at free ⊢
      rw [FiniteMap.lookup_erase_eq]
      split
      · rfl
      · exact free
    · exact (FileSystem.reaches_erase (temporaryPath_length path).ge).trans reached
  show FileSystem.attempt fs (FileSystem.rename fs (temporaryPath path) path) = _
  unfold FileSystem.rename
  simp only [written, room]
  rfl

/-! ## What the files hold -/

/-- The bytes are those of a snapshot from which the book is built. -/
def StoredAs (bincode : Bincode) (bytes : List UInt8) (book : Inner) : Prop :=
  bytes ≠ [] ∧ exists state,
    bincode.deserialize bytes = .ok state ∧ state.fromAddressManagerState = .ok book

/-- The path holds what the shelf says. -/
inductive Shelved (bincode : Bincode) (path : Path) (fs : FileSystem) : Shelf -> Prop
  | missing (nothing : fs.lookup path = none) : Shelved bincode path fs .missing
  | blank (file : FileSystem.stat fs path = some (.file [])) : Shelved bincode path fs .blank
  | holds {bytes : List UInt8} {book : Inner} (file : FileSystem.stat fs path = some (.file bytes))
      (stored : StoredAs bincode bytes book) : Shelved bincode path fs (.holds book)

variable {bincode : Bincode}

/-- An accepted snapshot of the book, written as these bytes. -/
structure Written (bincode : Bincode) (state : AddressManagerState) (bytes : List UInt8)
    (book : Inner) : Prop where
  valid : validateSnapshot state = .ok ()
  serialized : bincode.serialize state = .ok bytes
  stored : StoredAs bincode bytes book

/-- Making the directory of a savable path makes it ready. -/
theorem Savable.made (savable : Savable path fs) {directory : Path} {made : FileSystem}
    (named : namedParent path = .ok directory)
    (done : FileSystem.createDirAll fs directory = .ok made) :
    Ready path made ∧ made.lookup path = fs.lookup path := by
  rcases FileSystem.createDirAll_spec (parent_of_namedParent named) (parent_nonempty named) done with
    ⟨reached, level⟩
  have free := isDirectory_congr (level _ (temporaryPath_length path))
  exact ⟨⟨⟨_, named⟩, reached, free.trans savable.free⟩, level path rfl⟩

/-- The files after each step of a save onto a path where nothing is. -/
def placing (path : Path) (bytes : List UInt8) (fs made : FileSystem) : Nat -> FileSystem
  | 0 => fs
  | 1 => made
  | 2 | 3 => made.insert (temporaryPath path) (.file bytes)
  | _ + 4 =>
      ((FileStep.rename (temporaryPath path) path).exec
        (made.insert (temporaryPath path) (.file bytes))).1

variable {state : AddressManagerState} {bytes : List UInt8} {book : Inner}

theorem Ready.exec_write (ready : Ready path fs) (bytes : List UInt8) :
    (FileStep.write (temporaryPath path) bytes).exec fs =
      (fs.insert (temporaryPath path) (.file bytes), .ok ()) := by
  show FileSystem.attempt fs (FileSystem.write fs (temporaryPath path) bytes) = _
  rw [FileSystem.write_of_free ready.free ready.reached_temporary]
  rfl

theorem Ready.stat_temporary (ready : Ready path fs) (bytes : List UInt8) :
    FileSystem.stat (fs.insert (temporaryPath path) (.file bytes)) (temporaryPath path) =
      some (.file bytes) := by
  rcases ready.fileName with ⟨name, named⟩
  exact FileSystem.stat_insert_self named ready.reached_temporary _

/-- A save onto a path where nothing is goes through its stages in order. -/
theorem savedUpTo_of_missing (savable : Savable path fs) (nothing : fs.lookup path = none)
    (fileNamed : exists name, path.fileName = some name)
    (written : Written bincode state bytes book) :
    exists made, Ready path made ∧ made.lookup path = none ∧ forall steps,
      savedUpTo bincode steps state path fs = placing path bytes fs made steps := by
  rcases savable.directory with ⟨directory, made, named, done⟩
  rcases savable.made named done with ⟨ready, same⟩
  refine ⟨made, ready, same.trans nothing, fun steps => ?_⟩
  rcases fileNamed with ⟨name, fileName⟩
  have created : (FileStep.createDirAll directory).exec fs = (made, .ok ()) :=
    congrArg (FileSystem.attempt fs) done
  have wrote := ready.exec_write bytes
  have absent : (FileStep.pathExists path).exec (made.insert (temporaryPath path) (.file bytes)) =
      (made.insert (temporaryPath path) (.file bytes), false) := by
    show (_, (FileSystem.stat _ path).isSome) = _
    rw [FileSystem.stat_insert_of_ne savable.distinct.symm (temporaryPath_length path).ge]
    unfold FileSystem.stat
    rw [fileName, same.trans nothing]
    simp
  have encoded : bincodeSerialize bincode state = .ok bytes := by
    unfold bincodeSerialize
    rw [written.serialized]
  unfold savedUpTo saveSync
  rw [written.valid, cutAfter_known, Path.isEmpty_of_fileName fileName]
  simp only [Bool.false_eq_true, if_false]
  rw [named, cutAfter_known]
  cases steps with
  | zero => exact Program.cutAfter_zero _ _
  | succ steps =>
  refine (cutAfter_step created (by rfl)).trans ?_
  rw [encoded, cutAfter_known]
  cases steps with
  | zero => exact Program.cutAfter_zero _ _
  | succ steps =>
  refine (cutAfter_step wrote (by rfl)).trans ?_
  cases steps with
  | zero => exact Program.cutAfter_zero _ _
  | succ steps =>
  refine (cutAfter_step absent (by rfl)).trans ?_
  rw [if_neg Bool.false_ne_true]
  cases steps with
  | zero => exact Program.cutAfter_zero _ _
  | succ steps => exact Program.cutAfter_pure steps _ _

/-- After the rename the path holds the new bytes. -/
theorem Ready.renamed (ready : Ready path fs)
    (written : FileSystem.stat fs (temporaryPath path) = some (.file bytes))
    (free : FileSystem.isDirectory fs path = false) :
    Ready path ((FileStep.rename (temporaryPath path) path).exec fs).1 ∧
      FileSystem.stat ((FileStep.rename (temporaryPath path) path).exec fs).1 path =
        some (.file bytes) := by
  rw [exec_rename written free ready.reached]
  have cleared := ready.erase (temporaryPath_length path)
  rcases FileSystem.fileName_of_free free with ⟨name, named⟩
  exact ⟨cleared.insertFile rfl bytes, FileSystem.stat_insert_self named cleared.reached _⟩

/-- An entry that is missing is no directory. -/
theorem free_of_missing (nothing : fs.lookup path = none)
    (fileNamed : exists name, path.fileName = some name) :
    FileSystem.isDirectory fs path = false := by
  rcases fileNamed with ⟨name, named⟩
  unfold FileSystem.isDirectory
  rw [named, nothing]
  rfl

/-- A save onto a path where nothing is, stopped anywhere. -/
theorem placing_shelved {made : FileSystem} (savable : Savable path fs)
    (nothing : fs.lookup path = none) (ready : Ready path made)
    (still : made.lookup path = none) (fileNamed : exists name, path.fileName = some name)
    (stored : StoredAs bincode bytes book) (steps : Nat) :
    Savable path (placing path bytes fs made steps) ∧
      Shelved bincode path (placing path bytes fs made steps) (Shelf.missing.after book steps) := by
  have distinct := savable.distinct
  have wrote := ready.insertFile (temporaryPath_length path) bytes
  have absent : (made.insert (temporaryPath path) (.file bytes)).lookup path = none := by
    rw [FiniteMap.lookup_insert_eq, if_neg distinct.symm]
    exact still
  rcases steps with _ | _ | _ | _ | steps
  · exact ⟨savable, .missing nothing⟩
  · exact ⟨ready.savable distinct, .missing still⟩
  · exact ⟨wrote.savable distinct, .missing absent⟩
  · exact ⟨wrote.savable distinct, .missing absent⟩
  · rcases wrote.renamed (ready.stat_temporary bytes) (free_of_missing absent fileNamed) with
      ⟨placed, holds⟩
    have late : Shelf.missing.after book (steps + 4) = .holds book := by
      unfold Shelf.after
      rw [if_neg (by omega)]
    rw [late]
    exact ⟨placed.savable distinct, .holds holds stored⟩

/-- A save over a file, stopped anywhere. -/
theorem replacing_shelved {shelf : Shelf} {held : List UInt8} (savable : Savable path fs)
    (file : FileSystem.stat fs path = some (.file held))
    (keeps : forall after : FileSystem, FileSystem.stat after path = some (.file held) ->
      Shelved bincode path after shelf) (there : shelf ≠ .missing)
    (stored : StoredAs bincode bytes book) (steps : Nat) :
    Savable path (replacing path bytes fs steps) ∧
      Shelved bincode path (replacing path bytes fs steps) (shelf.after book steps) := by
  have distinct := savable.distinct
  rcases FileSystem.fileName_of_stat file with ⟨name, named⟩
  rcases savable.directory with ⟨directory, _, parentNamed, _⟩
  have ready : Ready path fs := ⟨⟨directory, parentNamed⟩, FileSystem.reaches_of_stat file, savable.free⟩
  have wrote := ready.insertFile (temporaryPath_length path) bytes
  have removed : Ready path ((fs.insert (temporaryPath path) (.file bytes)).erase path) :=
    wrote.erase rfl
  have still : FileSystem.stat (fs.insert (temporaryPath path) (.file bytes)) path =
      some (.file held) := by
    rw [FileSystem.stat_insert_of_ne distinct.symm (temporaryPath_length path).ge]
    exact file
  have gone : ((fs.insert (temporaryPath path) (.file bytes)).erase path).lookup path = none := by
    rw [FiniteMap.lookup_erase_eq, if_pos rfl]
  have temporary : FileSystem.stat ((fs.insert (temporaryPath path) (.file bytes)).erase path)
      (temporaryPath path) = some (.file bytes) := by
    rw [FileSystem.stat_erase_of_ne distinct (temporaryPath_length path).le]
    exact ready.stat_temporary bytes
  have before (early : steps < 4) : shelf.after book steps = shelf := if_pos early
  have emptied : shelf.after book 4 = .missing := by
    cases shelf with
    | missing => exact absurd rfl there
    | blank => rfl
    | holds other => rfl
  rcases steps with _ | _ | _ | _ | _ | steps
  · exact ⟨savable, before (by omega) ▸ keeps fs file⟩
  · exact ⟨savable, before (by omega) ▸ keeps fs file⟩
  · exact ⟨wrote.savable distinct, before (by omega) ▸ keeps _ still⟩
  · exact ⟨wrote.savable distinct, before (by omega) ▸ keeps _ still⟩
  · exact ⟨removed.savable distinct, emptied ▸ .missing gone⟩
  · rcases removed.renamed temporary (free_of_missing gone ⟨name, named⟩) with ⟨placed, holds⟩
    exact ⟨placed.savable distinct, shelf.after_late book steps ▸ .holds holds stored⟩

/-- Wherever a save is stopped, the path can be saved to again, and it holds
what the shelf says. -/
theorem savedUpTo_shelved {shelf : Shelf} (savable : Savable path fs)
    (fileNamed : exists name, path.fileName = some name)
    (shelved : Shelved bincode path fs shelf) (written : Written bincode state bytes book)
    (steps : Nat) :
    Savable path (savedUpTo bincode steps state path fs) ∧
      Shelved bincode path (savedUpTo bincode steps state path fs) (shelf.after book steps) := by
  have goesOn : replaces bincode state path fs = true := by
    rcases savable.directory with ⟨directory, _, named, _⟩
    unfold replaces
    rw [written.valid, named, written.serialized, savable.free]
    rfl
  cases shelved with
  | missing nothing =>
      rcases savedUpTo_of_missing savable nothing fileNamed written with ⟨made, ready, still, stage⟩
      rw [stage steps]
      exact placing_shelved savable nothing ready still fileNamed written.stored steps
  | blank file =>
      rw [savedUpTo_of_replaces file goesOn written.serialized steps]
      exact replacing_shelved savable file (fun _ => .blank) (by nofun) written.stored steps
  | holds file stored =>
      rw [savedUpTo_of_replaces file goesOn written.serialized steps]
      exact replacing_shelved savable file (fun _ found => .holds found stored) (by nofun)
        written.stored steps

end Stages

end Discovery
end DigGossip
