import DigGossip.Discovery.SaveStages
import DigGossip.Foundations.Simulation

namespace DigGossip
namespace Discovery

open Foundations DigGossip.Types

/-!
# Restarts

The book over many lives of the process.  In each life it is operated on and
saved; the process may stop at any file step of a save, and the next life
builds its book from the files that it finds.

`Machine` is the code: files, the book in memory, and a snapshot on its way to
the disk.  `Life` says what saving is for: a shelf that holds one book, which a
completed save replaces and a restart takes up.
-/

/-! ## Building a book from the files -/

section Source

variable (sha256 : Digest) (bincode : Bincode) (directoryLength : Nat) (path : Path)

/-- `metadata(path).len()`.  What it is for a directory is up to the file system. -/
def metadataLength : Entry -> Nat
  | .file bytes => bytes.length
  | .directory => directoryLength

/-- `AddressManager::create`, on files that nothing else changes meanwhile.
The key is the one drawn for a fresh book. -/
def create (key : Key) (fs : FileSystem) : Except GossipError Inner :=
  if path.isEmpty then .ok (Inner.new key)
  else
    match FileSystem.stat fs path with
    | none => .ok (Inner.new key)
    | some entry =>
        if metadataLength directoryLength entry = 0 then .ok (Inner.new key)
        else
          match load bincode path fs with
          | .error error => .error error
          | .ok none => .ok (Inner.new key)
          | .ok (some state) => state.fromAddressManagerState

structure Machine where
  files : FileSystem
  book : Inner
  /-- The snapshot that a save has taken and not finished writing. -/
  saving : Option AddressManagerState

inductive Event where
  | operate (op : Operation)
  | beginSave
  | finishSave
  /-- The process stops, so many file steps into the save under way, and starts again. -/
  | restart (steps : Nat) (key : Key)

namespace Machine

/-- The files after a save that comes to its end. -/
def saved (state : AddressManagerState) (fs : FileSystem) : FileSystem :=
  (Program.alone FileStep.exec (saveSync bincode state path).run fs).1

/-- The files that a stop leaves behind. -/
def left (m : Machine) (steps : Nat) : FileSystem :=
  match m.saving with
  | none => m.files
  | some state => savedUpTo bincode steps state path m.files

/-- `save` takes its snapshot under the lock and writes it without the lock, so
the book may change in between.  Saves are made one at a time. -/
def step (m : Machine) : Event -> Option Machine
  | .operate op => (Discovery.step sha256 m.book op).map fun book => { m with book := book }
  | .beginSave =>
      if m.saving.isSome || path.isEmpty then some m
      else m.book.toAddressManagerState.map fun state => { m with saving := some state }
  | .finishSave =>
      match m.saving with
      | none => some m
      | some state => some { m with files := saved bincode path state m.files, saving := none }
  | .restart steps key =>
      match create bincode directoryLength path key (m.left bincode path steps) with
      | .error _ => none
      | .ok book => some { files := m.left bincode path steps, book := book, saving := none }

end Machine

end Source

/-! ## What saving is for -/

structure Life where
  book : Inner
  shelf : Shelf
  saving : Option Inner

namespace Life

def left (l : Life) (steps : Nat) : Shelf :=
  match l.saving with
  | none => l.shelf
  | some book => l.shelf.after book steps

def step (sha256 : Digest) (l : Life) : Event -> Option Life
  | .operate op => (Discovery.step sha256 l.book op).map fun book => { l with book := book }
  | .beginSave => some { l with saving := some (l.saving.getD l.book) }
  | .finishSave =>
      match l.saving with
      | none => some l
      | some book => some { l with shelf := .holds book, saving := none }
  | .restart steps key =>
      some { book := (l.left steps).found key, shelf := l.left steps, saving := none }

end Life

/-! ## The files between lives -/

section Files

variable {bincode : Bincode} {path : Path} {fs : FileSystem}

/-- A book that is stored is a book that a load finds. -/
theorem StoredAs.load {bytes : List UInt8} {book : Inner} (stored : StoredAs bincode bytes book)
    (file : FileSystem.stat fs path = some (.file bytes)) :
    exists state, load bincode path fs = .ok (some state) ∧
      state.fromAddressManagerState = .ok book := by
  rcases stored with ⟨nonempty, state, decoded, restored⟩
  refine ⟨state, (load_of_file file).mpr ⟨nonempty, decoded, ?_⟩, restored⟩
  unfold AddressManagerState.fromAddressManagerState at restored
  cases checked : validateSnapshot state with
  | ok => rfl
  | error failure =>
      rw [checked] at restored
      cases restored

/-- Whatever is on the shelf, building the book takes it up and never fails. -/
theorem create_of_shelved {shelf : Shelf} (shelved : Shelved bincode path fs shelf)
    (fileNamed : exists name, path.fileName = some name) (directoryLength : Nat) (key : Key) :
    create bincode directoryLength path key fs = .ok (shelf.found key) := by
  rcases fileNamed with ⟨name, named⟩
  unfold create
  rw [Path.isEmpty_of_fileName named]
  simp only [Bool.false_eq_true, if_false]
  cases shelved with
  | missing nothing =>
      have absent : FileSystem.stat fs path = none := by
        unfold FileSystem.stat
        rw [named, nothing]
        simp
      rw [absent]
      rfl
  | blank file =>
      rw [file]
      rfl
  | holds file stored =>
      rcases stored.load file with ⟨state, loaded, restored⟩
      rw [file]
      simp only [metadataLength, List.length_eq_zero_iff, if_neg stored.1, loaded]
      exact restored

variable {state : AddressManagerState} {bytes : List UInt8} {book : Inner}

/-- A save that comes to its end leaves the new book. -/
theorem saved_shelved {shelf : Shelf} (savable : Savable path fs)
    (fileNamed : exists name, path.fileName = some name)
    (shelved : Shelved bincode path fs shelf) (written : Written bincode state bytes book) :
    Savable path (Machine.saved bincode path state fs) ∧
      Shelved bincode path (Machine.saved bincode path state fs) (.holds book) := by
  have runsOut : exists enough, forall count, enough ≤ count ->
      savedUpTo bincode count state path fs = Machine.saved bincode path state fs :=
    Program.cutAfter_late (saveSync bincode state path).run fs
  rcases runsOut with ⟨enough, ended⟩
  have stage := savedUpTo_shelved savable fileNamed shelved written (enough + 5)
  rw [shelf.after_late] at stage
  rw [ended (enough + 5) (by omega)] at stage
  exact stage

end Files

/-! ## Lives -/

section Lives

variable (sha256 : Digest) (bincode : Bincode) (directoryLength : Nat) (path : Path)

/-- The codec writes the snapshot as some bytes and reads it back from them. -/
def Serialized (bincode : Bincode) (state : AddressManagerState) : Prop :=
  exists bytes, bincode.serialize state = .ok bytes ∧ bytes ≠ [] ∧
    bincode.deserialize bytes = .ok state

/-- What an event needs: an operation that does not panic, and a snapshot that
can be taken and that the codec is right about. -/
def Event.Meets (m : Machine) : Event -> Prop
  | .operate op => stepSafe sha256 m.book op = true
  | .beginSave => m.saving = none -> collisionsKnown m.book = true ∧
      forall state, m.book.toAddressManagerState = some state -> Serialized bincode state
  | .finishSave => True
  | .restart _ _ => True

/-- The snapshot on its way to the disk is one of the book that the life is saving. -/
def Carries (taken : Option AddressManagerState) (saving : Option Inner) : Prop :=
  taken = none ∧ saving = none ∨ exists state book bytes, taken = some state ∧
    saving = some book ∧ Inv sha256 book ∧ Written bincode state bytes book

/-- The machine leads the life. -/
structure Leads (m : Machine) (l : Life) : Prop where
  book : m.book = l.book
  sound : Inv sha256 m.book
  savable : Savable path m.files
  shelved : Shelved bincode path m.files l.shelf
  kept : forall book, l.shelf = .holds book -> Inv sha256 book
  carries : Carries sha256 bincode m.saving l.saving

variable {sha256 bincode directoryLength path}

/-- A snapshot of a sound book is written as that book. -/
theorem written_of_inv {book : Inner} {state : AddressManagerState} (inv : Inv sha256 book)
    (known : collisionsKnown book = true) (taken : book.toAddressManagerState = some state)
    (serialized : Serialized bincode state) : exists bytes, Written bincode state bytes book := by
  rcases snapshot_exists inv known with ⟨frozenState, same, frozen⟩
  cases taken.symm.trans same
  have valid := validateSnapshot_ok.mpr (frozen.layout inv)
  rcases serialized with ⟨bytes, encoded, nonempty, decoded⟩
  refine ⟨bytes, valid, encoded, nonempty, state, decoded, ?_⟩
  unfold AddressManagerState.fromAddressManagerState
  rw [valid, frozen.restore inv]

theorem inv_found {shelf : Shelf} (kept : forall book, shelf = .holds book -> Inv sha256 book)
    (key : Key) : Inv sha256 (shelf.found key) := by
  cases shelf with
  | missing => exact inv_new sha256 key
  | blank => exact inv_new sha256 key
  | holds book => exact kept book rfl

/-- A stopped save leaves a sound book wherever it leaves a book. -/
theorem inv_after {shelf : Shelf} {saved : Inner} {steps : Nat}
    (kept : forall book, shelf = .holds book -> Inv sha256 book) (sound : Inv sha256 saved)
    (book : Inner) (held : shelf.after saved steps = .holds book) : Inv sha256 book := by
  unfold Shelf.after at held
  split at held
  · exact kept book held
  · cases shelf with
    | missing =>
        cases held
        exact sound
    | blank =>
        simp only at held
        split at held
        · cases held
        · cases held
          exact sound
    | holds other =>
        simp only at held
        split at held
        · cases held
        · cases held
          exact sound

theorem left_shelved {m : Machine} {l : Life} (leads : Leads sha256 bincode path m l)
    (fileNamed : exists name, path.fileName = some name) (steps : Nat) :
    Savable path (m.left bincode path steps) ∧
      Shelved bincode path (m.left bincode path steps) (l.left steps) ∧
      forall book, l.left steps = .holds book -> Inv sha256 book := by
  unfold Machine.left Life.left
  rcases leads.carries with ⟨idle, still⟩ | ⟨state, book, bytes, taken, saving, sound, written⟩
  · rw [idle, still]
    exact ⟨leads.savable, leads.shelved, leads.kept⟩
  · rw [taken, saving]
    rcases savedUpTo_shelved leads.savable fileNamed leads.shelved written steps with
      ⟨savable, shelved⟩
    exact ⟨savable, shelved, inv_after leads.kept sound⟩

/-- Every event that meets its needs is lived through. -/
theorem leads_step (fileNamed : exists name, path.fileName = some name) :
    Simulation.Simulates (Machine.step sha256 bincode directoryLength path) (Life.step sha256)
      (Event.Meets sha256 bincode) (Leads sha256 bincode path) := by
  intro m l event leads meets
  cases event with
  | operate op =>
      rcases step_total leads.sound op meets with ⟨book, stepped, sound⟩
      refine ⟨{ m with book := book }, { l with book := book }, ?_, ?_, ?_⟩
      · simp only [Machine.step, stepped, Option.map_some]
      · simp only [Life.step, <- leads.book, stepped, Option.map_some]
      · exact { leads with book := rfl, sound := sound }
  | beginSave =>
      rcases leads.carries with ⟨idle, still⟩ | ⟨state, book, bytes, taken, saving, _⟩
      · rcases meets idle with ⟨known, serialized⟩
        rcases snapshot_exists leads.sound known with ⟨state, taken, _⟩
        rcases written_of_inv leads.sound known taken (serialized state taken) with ⟨bytes, written⟩
        rcases fileNamed with ⟨name, named⟩
        refine ⟨{ m with saving := some state }, { l with saving := some l.book }, ?_, ?_, ?_⟩
        · simp only [Machine.step, idle, Path.isEmpty_of_fileName named, taken]
          rfl
        · simp only [Life.step, still]
          rfl
        · exact { leads with
            carries := Or.inr ⟨state, l.book, bytes, rfl, rfl, leads.book ▸ leads.sound,
              leads.book ▸ written⟩ }
      · refine ⟨m, l, ?_, ?_, leads⟩
        · simp only [Machine.step, taken, Option.isSome_some, Bool.true_or, if_true]
        · rw [Life.step, saving, Option.getD_some, <- saving]
  | finishSave =>
      rcases leads.carries with ⟨idle, still⟩ | ⟨state, book, bytes, taken, saving, sound, written⟩
      · refine ⟨m, l, ?_, ?_, leads⟩
        · simp only [Machine.step, idle]
        · simp only [Life.step, still]
      · rcases saved_shelved leads.savable fileNamed leads.shelved written with ⟨savable, shelved⟩
        refine ⟨{ m with files := Machine.saved bincode path state m.files, saving := none },
          { l with shelf := .holds book, saving := none }, ?_, ?_, ?_⟩
        · simp only [Machine.step, taken]
        · simp only [Life.step, saving]
        · exact {
            book := leads.book
            sound := leads.sound
            savable := savable
            shelved := shelved
            kept := fun other held => by
              cases held
              exact sound
            carries := Or.inl ⟨rfl, rfl⟩ }
  | restart steps key =>
      rcases left_shelved leads fileNamed steps with ⟨savable, shelved, kept⟩
      have built := create_of_shelved shelved fileNamed directoryLength key
      refine ⟨Machine.mk (m.left bincode path steps) ((l.left steps).found key) none, _, ?_, rfl, ?_⟩
      · simp only [Machine.step, built]
      · exact {
          book := rfl
          sound := inv_found kept key
          savable := savable
          shelved := shelved
          kept := kept
          carries := Or.inl ⟨rfl, rfl⟩ }

/-- The first life, on files that hold a sound book or none. -/
theorem leads_first {fs : FileSystem} {shelf : Shelf} (savable : Savable path fs)
    (shelved : Shelved bincode path fs shelf)
    (kept : forall book, shelf = .holds book -> Inv sha256 book) (key : Key) :
    Leads sha256 bincode path { files := fs, book := shelf.found key, saving := none }
      { book := shelf.found key, shelf := shelf, saving := none } where
  book := rfl
  sound := inv_found kept key
  savable := savable
  shelved := shelved
  kept := kept
  carries := Or.inl ⟨rfl, rfl⟩

end Lives

/-- The book over any lives, with any operations, saves and stops at any file
step, is the one that the shelf accounts for.  It is sound throughout, and
building it from the files never fails. -/
theorem restarts_follow_shelf (sha256 : Digest) (bincode : Bincode) (directoryLength : Nat)
    (path : Path) (fs : FileSystem) (shelf : Shelf) (key : Key) (events : List Event)
    (fileNamed : exists name, path.fileName = some name) (savable : Savable path fs)
    (shelved : Shelved bincode path fs shelf)
    (kept : forall book, shelf = .holds book -> Inv sha256 book)
    (met : Simulation.Along (Machine.step sha256 bincode directoryLength path)
      (Event.Meets sha256 bincode) events
      { files := fs, book := shelf.found key, saving := none }) :
    exists m l,
      Simulation.run (Machine.step sha256 bincode directoryLength path) events
        { files := fs, book := shelf.found key, saving := none } = some m ∧
      Simulation.run (Life.step sha256) events
        { book := shelf.found key, shelf := shelf, saving := none } = some l ∧
      m.book = l.book ∧ Inv sha256 m.book ∧
      forall steps next, create bincode directoryLength path next (m.left bincode path steps) =
        .ok ((l.left steps).found next) := by
  have first := leads_first savable shelved kept key
  rcases (leads_step fileNamed).run first met with ⟨m, l, ran, lived, leads⟩
  refine ⟨m, l, ran, lived, leads.book, leads.sound, fun steps next => ?_⟩
  exact create_of_shelved (left_shelved leads fileNamed steps).2.1 fileNamed directoryLength next

/-! ## What a stop can lose -/

/-- The process is not stopped between the removal of the old file and the
rename of the new one. -/
def Event.Gentle : Event -> Prop
  | .restart steps _ => steps ≠ 4
  | _ => True

theorem Shelf.after_holds {shelf : Shelf} {book : Inner} {steps : Nat} (gentle : steps ≠ 4)
    (full : exists held, shelf = .holds held) : exists held, shelf.after book steps = .holds held := by
  rcases full with ⟨held, rfl⟩
  unfold Shelf.after
  by_cases early : steps < 4
  · rw [if_pos early]
    exact ⟨held, rfl⟩
  · rw [if_neg early]
    simp only [if_neg gentle]
    exact ⟨book, rfl⟩

theorem Life.step_holds {sha256 : Digest} {l later : Life} {event : Event} (gentle : event.Gentle)
    (full : exists held, l.shelf = .holds held) (lived : Life.step sha256 l event = some later) :
    exists held, later.shelf = .holds held := by
  cases event with
  | operate op =>
      rcases Option.map_eq_some_iff.mp lived with ⟨book, _, rfl⟩
      exact full
  | beginSave =>
      cases lived
      exact full
  | finishSave =>
      cases saving : l.saving with
      | none =>
          simp only [Life.step, saving] at lived
          cases lived
          exact full
      | some book =>
          simp only [Life.step, saving] at lived
          cases lived
          exact ⟨book, rfl⟩
  | restart steps key =>
      cases lived
      show exists held, l.left steps = .holds held
      unfold Life.left
      cases l.saving with
      | none => exact full
      | some book => exact Shelf.after_holds gentle full

theorem Life.run_holds {sha256 : Digest} (events : List Event) :
    forall {l later : Life}, (∀ event ∈ events, event.Gentle) ->
      (exists held, l.shelf = .holds held) ->
      Simulation.run (Life.step sha256) events l = some later ->
        exists held, later.shelf = .holds held := by
  induction events with
  | nil =>
      intro l later _ full lived
      cases lived
      exact full
  | cons event events inner =>
      intro l later gentle full lived
      rw [List.forall_mem_cons] at gentle
      unfold Simulation.run at lived
      rw [List.foldlM_cons] at lived
      rcases Option.bind_eq_some_iff.mp lived with ⟨next, stepped, rest⟩
      exact inner gentle.2 (Life.step_holds gentle.1 full stepped) rest

/-- A peers file that holds a sound book holds one after any lives in which the
process is never stopped in that window.  No life then starts from a fresh book. -/
theorem saved_book_survives (sha256 : Digest) (bincode : Bincode) (directoryLength : Nat)
    (path : Path) (fs : FileSystem) (book : Inner) (bytes : List UInt8) (events : List Event)
    (savable : Savable path fs) (file : FileSystem.stat fs path = some (.file bytes))
    (stored : StoredAs bincode bytes book) (sound : Inv sha256 book)
    (met : Simulation.Along (Machine.step sha256 bincode directoryLength path)
      (Event.Meets sha256 bincode) events { files := fs, book := book, saving := none })
    (gentle : ∀ event ∈ events, event.Gentle) :
    exists m held,
      Simulation.run (Machine.step sha256 bincode directoryLength path) events
        { files := fs, book := book, saving := none } = some m ∧ Inv sha256 held ∧
      forall key, create bincode directoryLength path key m.files = .ok held := by
  have fileNamed := FileSystem.fileName_of_stat file
  have first : Leads sha256 bincode path { files := fs, book := book, saving := none }
      { book := book, shelf := .holds book, saving := none } :=
    leads_first savable (.holds file stored) (fun other held => by cases held; exact sound) book.key
  rcases (leads_step fileNamed).run first met with ⟨m, l, ran, lived, leads⟩
  rcases Life.run_holds events gentle ⟨book, rfl⟩ lived with ⟨held, full⟩
  refine ⟨m, held, ran, leads.kept held full, fun key => ?_⟩
  have built := create_of_shelved leads.shelved fileNamed directoryLength key
  rw [full] at built
  exact built

/-! ## The lives of a fresh book -/

namespace Example

theorem mapM_vacant {T : Type} (cells : List T) :
    (cells.mapM fun _ => some (none : Option Nat)) = some (List.replicate cells.length none) := by
  rw [<- List.map_const']
  exact List.mapM_pure

theorem snapshotTable_new (key : Key) (buckets : Nat) :
    (Inner.new key).snapshotTable (fun _ : Fin buckets × Fin bucketSize => emptyCell) =
      some (List.replicate buckets (List.replicate bucketSize none)) := by
  unfold Inner.snapshotTable
  simp only [if_true, mapM_vacant, List.length_finRange]
  have rows : (List.finRange buckets).map (fun _ => List.replicate bucketSize (none : Option Nat)) =
      List.replicate buckets (List.replicate bucketSize none) := by
    rw [List.map_const', List.length_finRange]
  rw [<- rows]
  exact List.mapM_pure

/-- The snapshot of a fresh book is the blank one. -/
theorem snapshot_new (key : Key) :
    (Inner.new key).toAddressManagerState = some (blankSnapshot key) := by
  have ids : (Inner.new key).sortedIds = [] := by
    unfold Inner.sortedIds
    rw [show (Inner.new key).mapInfo = ∅ from rfl, Finmap.keys_empty]
    exact Finset.sort_empty _
  unfold Inner.toAddressManagerState
  rw [show (Inner.new key).triedMatrix = fun _ => emptyCell from rfl,
    show (Inner.new key).newMatrix = fun _ => emptyCell from rfl, snapshotTable_new,
    snapshotTable_new, ids]
  rfl

theorem new_of_blank (key : Key) :
    (blankSnapshot key).fromAddressManagerState = .ok (Inner.new key) := by
  have inv := inv_new firstByteDigest key
  rcases snapshot_exists inv rfl with ⟨state, taken, frozen⟩
  cases (snapshot_new key).symm.trans taken
  unfold AddressManagerState.fromAddressManagerState
  rw [blankSnapshot_valid, frozen.restore inv]

theorem serialized_old : Serialized blankBincode oldSnapshot :=
  ⟨encodeBlank oldSnapshot, rfl, encodeBlank_nonempty oldSnapshot, blankBincode_old⟩

theorem stored_old : StoredAs blankBincode (encodeBlank oldSnapshot) (Inner.new zeroKey) :=
  ⟨encodeBlank_nonempty oldSnapshot, oldSnapshot, blankBincode_old, new_of_blank zeroKey⟩

theorem peersFile_parent : namedParent peersFile = .ok directory := by decide +kernel

theorem temporaryPath_peersFile :
    temporaryPath peersFile = { absolute := true, components := ["data", "peers.tmp"] } := by
  decide +kernel

/-- On an empty disk the directory of the peers file can be made. -/
theorem savable_empty : Savable peersFile ∅ where
  directory := ⟨directory, (∅ : FileSystem).insert directory .directory, peersFile_parent, rfl⟩
  free := by
    unfold FileSystem.isDirectory
    rw [temporaryPath_peersFile, Finmap.lookup_empty]
    rfl
  distinct := by
    rw [temporaryPath_peersFile]
    decide

theorem savable_disk : Savable peersFile disk := by
  have ready : Ready peersFile disk := by
    refine ⟨⟨directory, peersFile_parent⟩, FileSystem.reaches_of_stat disk_holds, ?_⟩
    unfold FileSystem.isDirectory disk
    rw [temporaryPath_peersFile, FiniteMap.lookup_insert_eq, if_neg (by decide),
      FiniteMap.lookup_insert_eq, if_neg (by decide), Finmap.lookup_empty]
    rfl
  exact ready.savable savable_empty.distinct

theorem stoppedSave_meets (fs : FileSystem) (steps : Nat) (key : Key) :
    Simulation.Along (Machine.step firstByteDigest blankBincode 4096 peersFile)
      (Event.Meets firstByteDigest blankBincode) [.beginSave, .restart steps key]
      { files := fs, book := Inner.new zeroKey, saving := none } := by
  refine ⟨fun _ => ⟨rfl, fun state taken => ?_⟩, fun _ _ => ⟨trivial, fun _ _ => trivial⟩⟩
  cases (snapshot_new zeroKey).symm.trans taken
  exact serialized_old

end Example

open Example in
/-- On an empty disk, a first save stopped after its rename is taken up again. -/
theorem restarts_follow_shelf_stopped :
    exists m l,
      Simulation.run (Machine.step firstByteDigest blankBincode 4096 peersFile)
        [.beginSave, .restart 4 zeroKey]
        { files := ∅, book := Inner.new zeroKey, saving := none } = some m ∧
      Simulation.run (Life.step firstByteDigest) [.beginSave, .restart 4 zeroKey]
        { book := Inner.new zeroKey, shelf := .missing, saving := none } = some l ∧
      m.book = l.book ∧ Inv firstByteDigest m.book ∧
      forall steps next,
        create blankBincode 4096 peersFile next (m.left blankBincode peersFile steps) =
          .ok ((l.left steps).found next) :=
  restarts_follow_shelf firstByteDigest blankBincode 4096 peersFile ∅ .missing zeroKey
    [.beginSave, .restart 4 zeroKey] ⟨"peers.dat", by decide⟩ savable_empty
    (.missing (Finmap.lookup_empty _)) (by nofun) (stoppedSave_meets ∅ 4 zeroKey)

open Example in
/-- A save over the saved book, stopped at the removal, leaves it in place. -/
theorem saved_book_survives_stopped :
    exists m held,
      Simulation.run (Machine.step firstByteDigest blankBincode 4096 peersFile)
        [.beginSave, .restart 3 zeroKey]
        { files := disk, book := Inner.new zeroKey, saving := none } = some m ∧
      Inv firstByteDigest held ∧
      forall key, create blankBincode 4096 peersFile key m.files = .ok held :=
  saved_book_survives firstByteDigest blankBincode 4096 peersFile disk (Inner.new zeroKey)
    (encodeBlank oldSnapshot) [.beginSave, .restart 3 zeroKey] savable_disk disk_holds stored_old
    (inv_new firstByteDigest zeroKey) (stoppedSave_meets disk 3 zeroKey) (by
      simp [Event.Gentle])

end Discovery
end DigGossip
