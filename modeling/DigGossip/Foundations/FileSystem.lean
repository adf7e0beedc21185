import DigGossip.Foundations.FiniteMap
import DigGossip.Foundations.Program

namespace DigGossip
namespace Foundations

/-!
# A file system without links

Paths are held in the form their components give, and a path names an entry
only where every directory on the way to it is there.  Each operation is one
step: it happens as a whole or it reports an error and changes nothing.  What
is written stays written, and a rename replaces its target in that one step.
-/

structure Path where
  absolute : Bool
  components : List String
deriving DecidableEq

namespace Path

/-- The path with no text at all. -/
def isEmpty (path : Path) : Bool :=
  !path.absolute && path.components.isEmpty

def isNormal (component : String) : Bool :=
  decide (component ≠ "." ∧ component ≠ "..")

def fileName (path : Path) : Option String :=
  path.components.getLast?.filter isNormal

def parent (path : Path) : Option Path :=
  if path.components = [] then none
  else some { path with components := path.components.dropLast }

def display (path : Path) : String :=
  (if path.absolute then "/" else "") ++ "/".intercalate path.components

/-- The text before the last dot and the text after it. -/
def splitAtLastDot : List Char -> Option (List Char × List Char)
  | [] => none
  | char :: rest =>
      match splitAtLastDot rest with
      | some (before, after) => some (char :: before, after)
      | none => if char = '.' then some ([], rest) else none

/-- The stem and the extension of a file name; a dot in front of the name
starts no extension. -/
def splitName (name : String) : String × Option String :=
  match splitAtLastDot name.toList with
  | none => (name, none)
  | some (before, after) =>
      if before = [] then (name, none) else (String.ofList before, some (String.ofList after))

def extension (path : Path) : Option String :=
  path.fileName.bind fun name => (splitName name).2

/-- The path with another extension; a path that names no file is left as it is. -/
def withExtension (path : Path) (extension : String) : Path :=
  match path.fileName with
  | none => path
  | some name =>
      let stem := (splitName name).1
      let renamed := if extension = "" then stem else stem ++ "." ++ extension
      { path with components := path.components.dropLast ++ [renamed] }

/-- The directories on the way to a path, from the top. -/
def ancestors (path : Path) : List Path :=
  (List.range' 1 (path.components.length - 1)).map fun count =>
    { path with components := path.components.take count }

theorem of_splitAtLastDot {name before after : List Char}
    (split : splitAtLastDot name = some (before, after)) : name = before ++ '.' :: after := by
  induction name generalizing before with
  | nil => cases split
  | cons char rest inner =>
      rw [splitAtLastDot] at split
      cases later : splitAtLastDot rest with
      | some parts =>
          rw [later] at split
          cases split
          rw [inner later, List.cons_append]
      | none =>
          rw [later] at split
          by_cases dot : char = '.'
          · rw [if_pos dot] at split
            cases split
            rw [dot, List.nil_append]
          · rw [if_neg dot] at split
            cases split

/-- Giving a name an extension gives it back only where it has that extension. -/
theorem splitName_append_iff {name extension : String} :
    (splitName name).1 ++ "." ++ extension = name ↔ (splitName name).2 = some extension := by
  have joined (stem : String) : stem ++ "." ++ extension = name ↔
      stem.toList ++ '.' :: extension.toList = name.toList := by
    rw [<- String.toList_inj, String.toList_append, String.toList_append, List.append_assoc]
    rfl
  unfold splitName
  cases split : splitAtLastDot name.toList with
  | none =>
      simp only [joined, reduceCtorEq, iff_false]
      intro same
      have longer := congrArg List.length same
      simp at longer
  | some parts =>
      have whole := of_splitAtLastDot split
      by_cases leading : parts.1 = []
      · simp only [if_pos leading, joined, reduceCtorEq, iff_false]
        intro same
        have longer := congrArg List.length same
        simp at longer
      · simp only [if_neg leading, joined, whole, String.toList_ofList, List.append_cancel_left_eq,
          List.cons.injEq, true_and, Option.some.injEq]
        rw [<- String.toList_inj, String.toList_ofList]
        exact eq_comm

section Siblings

variable {path : Path} {name : String}

theorem components_of_fileName (named : path.fileName = some name) :
    path.components = path.components.dropLast ++ [name] ∧ isNormal name = true := by
  have last := Option.filter_eq_some_iff.mp named
  exact ⟨(List.dropLast_append_getLast? name last.1).symm, last.2⟩

theorem isEmpty_of_fileName (named : path.fileName = some name) : path.isEmpty = false := by
  unfold isEmpty
  rw [(components_of_fileName named).1]
  simp

theorem withExtension_of_fileName (named : path.fileName = some name) {extension : String}
    (nonempty : extension ≠ "") :
    path.withExtension extension =
      { path with
        components := path.components.dropLast ++ [(splitName name).1 ++ "." ++ extension] } := by
  unfold withExtension
  rw [named]
  simp only [if_neg nonempty]

/-- A path keeps its name under an extension that it already has, and no other. -/
theorem withExtension_eq_iff (named : path.fileName = some name) {extension : String}
    (nonempty : extension ≠ "") :
    path.withExtension extension = path ↔ path.extension = some extension := by
  rw [withExtension_of_fileName named nonempty]
  unfold Path.extension
  rw [named, Option.bind_some, <- splitName_append_iff]
  have whole := (components_of_fileName named).1
  constructor
  · intro same
    have components := congrArg Path.components same
    rw [whole] at components
    simpa using components
  · intro same
    rw [same, <- whole]

end Siblings

/-- Two paths with the same directories on the way. -/
def Beside (first second : Path) : Prop :=
  first.absolute = second.absolute ∧ first.components.dropLast = second.components.dropLast ∧
    first.components.length = second.components.length

theorem withExtension_beside (path : Path) (extension : String) :
    Beside (path.withExtension extension) path := by
  unfold withExtension
  cases named : path.fileName with
  | none => exact ⟨rfl, rfl, rfl⟩
  | some name =>
      refine ⟨rfl, List.dropLast_concat, ?_⟩
      conv_rhs => rw [(components_of_fileName named).1]
      simp

theorem Beside.ancestors_eq {first second : Path} (beside : Beside first second) :
    first.ancestors = second.ancestors := by
  unfold ancestors
  rw [beside.2.2]
  apply List.map_congr_left
  intro count listed
  have bounds := List.mem_range'_1.mp listed
  have same (path : Path) (short : count < path.components.length) :
      path.components.take count = path.components.dropLast.take count := by
    rw [List.dropLast_eq_take, List.take_take]
    congr 1
    omega
  have length := beside.2.2
  rw [beside.1, same first (by omega), same second (by omega), beside.2.1]

theorem length_of_mem_ancestors {path directory : Path} (member : directory ∈ path.ancestors) :
    directory.components.length < path.components.length := by
  rcases List.mem_map.mp member with ⟨count, listed, rfl⟩
  have bounds := List.mem_range'_1.mp listed
  simp only [List.length_take]
  omega

end Path

inductive Entry where
  | directory
  | file (bytes : List UInt8)
deriving DecidableEq

abbrev FileSystem := FiniteMap Path Entry

inductive OsError where
  | notFound
  | notADirectory
  | isADirectory
  | alreadyExists
deriving DecidableEq

def OsError.text : OsError -> String
  | notFound => "No such file or directory (os error 2)"
  | alreadyExists => "File exists (os error 17)"
  | notADirectory => "Not a directory (os error 20)"
  | isADirectory => "Is a directory (os error 21)"

namespace FileSystem

/-- The root, the working directory and the dot names are always directories. -/
def isDirectory (fs : FileSystem) (path : Path) : Bool :=
  path.fileName.isNone || fs.lookup path == some .directory

def reaches (fs : FileSystem) (path : Path) : Bool :=
  path.ancestors.all (isDirectory fs)

def stat (fs : FileSystem) (path : Path) : Option Entry :=
  if path.isEmpty || !reaches fs path then none
  else if path.fileName.isNone then some .directory
  else fs.lookup path

/-- Make the missing directories of a list that runs from the top down. -/
def makeDirectories : List Path -> FileSystem -> Except OsError FileSystem
  | [], fs => .ok fs
  | path :: rest, fs =>
      if isDirectory fs path then makeDirectories rest fs
      else
        match fs.lookup path with
        | some _ => .error (if rest = [] then .alreadyExists else .notADirectory)
        | none => makeDirectories rest (fs.insert path .directory)

def createDirAll (fs : FileSystem) (path : Path) : Except OsError FileSystem :=
  if path.isEmpty then .ok fs else makeDirectories (path.ancestors ++ [path]) fs

/-- Create a file or replace its contents. -/
def write (fs : FileSystem) (path : Path) (bytes : List UInt8) : Except OsError FileSystem :=
  if path.isEmpty || !reaches fs path then .error .notFound
  else if isDirectory fs path then .error .isADirectory
  else .ok (fs.insert path (.file bytes))

def removeFile (fs : FileSystem) (path : Path) : Except OsError FileSystem :=
  match stat fs path with
  | none => .error .notFound
  | some .directory => .error .isADirectory
  | some (.file _) => .ok (fs.erase path)

/-- Move a file over its target.  Directories are not moved here. -/
def rename (fs : FileSystem) (source target : Path) : Except OsError FileSystem :=
  match stat fs source with
  | none => .error .notFound
  | some .directory => .error .isADirectory
  | some (.file bytes) => write (fs.erase source) target bytes

def read (fs : FileSystem) (path : Path) : Except OsError (List UInt8) :=
  match stat fs path with
  | none => .error .notFound
  | some .directory => .error .isADirectory
  | some (.file bytes) => .ok bytes

section Facts

variable {fs : FileSystem} {path : Path}

theorem stat_of_reaches {name : String} (named : path.fileName = some name)
    (reached : reaches fs path = true) : stat fs path = fs.lookup path := by
  unfold stat
  rw [Path.isEmpty_of_fileName named, reached, named]
  rfl

theorem reaches_of_stat {entry : Entry} (found : stat fs path = some entry) :
    reaches fs path = true := by
  unfold stat at found
  cases reached : reaches fs path with
  | true => rfl
  | false =>
      rw [reached] at found
      simp at found

/-- Only a path that names a file has one. -/
theorem fileName_of_stat {bytes : List UInt8} (found : stat fs path = some (.file bytes)) :
    exists name, path.fileName = some name := by
  cases named : path.fileName with
  | some name => exact ⟨name, rfl⟩
  | none =>
      unfold stat at found
      rw [named] at found
      split at found
      · cases found
      · cases found

/-- What is stored at least as deep as a path is not on the way to it. -/
theorem reaches_congr {after : FileSystem} {depth : Nat} (deep : path.components.length ≤ depth)
    (same : forall other, other.components.length < depth -> after.lookup other = fs.lookup other) :
    reaches after path = reaches fs path := by
  unfold reaches
  rw [Bool.eq_iff_iff, List.all_eq_true, List.all_eq_true]
  apply forall₂_congr
  intro directory member
  unfold isDirectory
  rw [same directory (Nat.lt_of_lt_of_le (Path.length_of_mem_ancestors member) deep)]

theorem reaches_insert {changed : Path} (deep : path.components.length ≤ changed.components.length)
    (entry : Entry) : reaches (fs.insert changed entry) path = reaches fs path := by
  apply reaches_congr deep
  intro other short
  rw [FiniteMap.lookup_insert_eq, if_neg]
  intro same
  rw [same] at short
  exact Nat.lt_irrefl _ short

theorem reaches_erase {changed : Path}
    (deep : path.components.length ≤ changed.components.length) :
    reaches (fs.erase changed) path = reaches fs path := by
  apply reaches_congr deep
  intro other short
  rw [FiniteMap.lookup_erase_eq, if_neg]
  intro same
  rw [same] at short
  exact Nat.lt_irrefl _ short

/-- An entry that is not a directory is at a path that names it. -/
theorem fileName_of_free (free : isDirectory fs path = false) :
    exists name, path.fileName = some name := by
  cases named : path.fileName with
  | some name => exact ⟨name, rfl⟩
  | none =>
      unfold isDirectory at free
      rw [named] at free
      cases free

theorem stat_insert_self {name : String} (named : path.fileName = some name)
    (reached : reaches fs path = true) (entry : Entry) :
    stat (fs.insert path entry) path = some entry := by
  rw [stat_of_reaches named ((reaches_insert (Nat.le_refl _) entry).trans reached),
    FiniteMap.lookup_insert_eq, if_pos rfl]

theorem stat_erase_self {name : String} (named : path.fileName = some name) :
    stat (fs.erase path) path = none := by
  cases reached : reaches (fs.erase path) path with
  | true => rw [stat_of_reaches named reached, FiniteMap.lookup_erase_eq, if_pos rfl]
  | false =>
      unfold stat
      rw [reached]
      simp

theorem stat_congr {after : FileSystem} (reached : reaches after path = reaches fs path)
    (same : after.lookup path = fs.lookup path) : stat after path = stat fs path := by
  unfold stat
  rw [reached, same]

theorem stat_insert_of_ne {changed : Path} (different : path ≠ changed)
    (deep : path.components.length ≤ changed.components.length) (entry : Entry) :
    stat (fs.insert changed entry) path = stat fs path := by
  apply stat_congr (reaches_insert deep entry)
  rw [FiniteMap.lookup_insert_eq, if_neg different]

theorem stat_erase_of_ne {changed : Path} (different : path ≠ changed)
    (deep : path.components.length ≤ changed.components.length) :
    stat (fs.erase changed) path = stat fs path := by
  apply stat_congr (reaches_erase deep)
  rw [FiniteMap.lookup_erase_eq, if_neg different]

theorem write_of_free (free : isDirectory fs path = false) (reached : reaches fs path = true)
    (bytes : List UInt8) : write fs path bytes = .ok (fs.insert path (.file bytes)) := by
  rcases fileName_of_free free with ⟨name, named⟩
  unfold write
  rw [Path.isEmpty_of_fileName named, reached, free]
  rfl

theorem removeFile_of_stat {bytes : List UInt8} (found : stat fs path = some (.file bytes)) :
    removeFile fs path = .ok (fs.erase path) := by
  unfold removeFile
  rw [found]

theorem makeDirectories_of_all {paths : List Path}
    (there : ∀ directory ∈ paths, isDirectory fs directory = true) :
    makeDirectories paths fs = .ok fs := by
  induction paths with
  | nil => rfl
  | cons directory rest inner =>
      unfold makeDirectories
      rw [if_pos (there directory List.mem_cons_self)]
      exact inner fun other member => there other (List.mem_cons_of_mem _ member)

/-- The directory of a path that can be reached is there already. -/
theorem createDirAll_of_reaches {directory : Path} (above : path.parent = some directory)
    (reached : reaches fs path = true) : createDirAll fs directory = .ok fs := by
  unfold createDirAll
  split
  · rfl
  · rename_i nonempty
    apply makeDirectories_of_all
    intro other member
    unfold Path.parent at above
    split at above
    · cases above
    · cases above
      have whole : other ∈ path.ancestors ∨ other.fileName = none := by
        rcases List.mem_append.mp member with deeper | last
        · rcases List.mem_map.mp deeper with ⟨count, listed, rfl⟩
          have bounds := List.mem_range'_1.mp listed
          simp only [List.length_dropLast] at bounds
          refine Or.inl (List.mem_map.mpr ⟨count, List.mem_range'_1.mpr ⟨bounds.1, by omega⟩, ?_⟩)
          rw [List.dropLast_eq_take, List.take_take]
          congr 2
          omega
        · rw [List.mem_singleton.mp last]
          by_cases shallow : path.components.length ≤ 1
          · right
            have none : path.components.dropLast = [] := by
              apply List.eq_nil_of_length_eq_zero
              rw [List.length_dropLast]
              omega
            unfold Path.fileName
            rw [none]
            rfl
          · refine Or.inl (List.mem_map.mpr ⟨path.components.length - 1,
              List.mem_range'_1.mpr ⟨by omega, by omega⟩, ?_⟩)
            rw [List.dropLast_eq_take]
      rcases whole with onTheWay | unnamed
      · exact List.all_eq_true.mp reached other onTheWay
      · unfold isDirectory
        rw [unnamed]
        rfl

/-- The directory a path is in lies above every directory above the path. -/
theorem ancestors_covered {directory other : Path} (above : path.parent = some directory)
    (onTheWay : other ∈ path.ancestors) : other ∈ directory.ancestors ++ [directory] := by
  unfold Path.parent at above
  split at above
  · cases above
  · cases above
    rcases List.mem_map.mp onTheWay with ⟨count, listed, rfl⟩
    have bounds := List.mem_range'_1.mp listed
    by_cases last : count = path.components.length - 1
    · refine List.mem_append_right _ (List.mem_singleton.mpr ?_)
      rw [last, List.dropLast_eq_take]
    · refine List.mem_append_left _ (List.mem_map.mpr ⟨count, List.mem_range'_1.mpr ?_, ?_⟩)
      · simp only [List.length_dropLast]
        omega
      · rw [List.dropLast_eq_take, List.take_take]
        congr 2
        omega

/-- Making directories touches nothing else, and they are there afterwards. -/
theorem makeDirectories_spec {paths : List Path} {made : FileSystem}
    (done : makeDirectories paths fs = .ok made) :
    (∀ directory ∈ paths, isDirectory made directory = true) ∧
      (forall other, isDirectory fs other = true -> isDirectory made other = true) ∧
      forall other, other ∉ paths -> made.lookup other = fs.lookup other := by
  induction paths generalizing fs with
  | nil =>
      cases done
      refine ⟨fun _ member => absurd member List.not_mem_nil, fun _ there => there, fun _ _ => rfl⟩
  | cons directory rest inner =>
      unfold makeDirectories at done
      by_cases there : isDirectory fs directory = true
      · rw [if_pos there] at done
        rcases inner done with ⟨all, kept, others⟩
        refine ⟨?_, kept, fun other absent => others other fun member =>
          absent (List.mem_cons_of_mem directory member)⟩
        rw [List.forall_mem_cons]
        exact ⟨kept directory there, all⟩
      · rw [if_neg there] at done
        cases found : fs.lookup directory with
        | some entry =>
            rw [found] at done
            cases done
        | none =>
            rw [found] at done
            rcases inner done with ⟨all, kept, others⟩
            have grown (other : Path) (before : isDirectory fs other = true) :
                isDirectory (fs.insert directory .directory) other = true := by
              unfold isDirectory at before ⊢
              rw [FiniteMap.lookup_insert_eq]
              split
              · simp
              · exact before
            have here : isDirectory (fs.insert directory .directory) directory = true := by
              unfold isDirectory
              rw [FiniteMap.lookup_insert_eq, if_pos rfl]
              simp
            refine ⟨?_, fun other before => kept other (grown other before), fun other absent => ?_⟩
            · rw [List.forall_mem_cons]
              exact ⟨kept directory here, all⟩
            · rw [others other fun member => absent (List.mem_cons_of_mem directory member),
                FiniteMap.lookup_insert_eq, if_neg]
              rintro rfl
              exact absent List.mem_cons_self

/-- Making the directory of a path makes the path reachable and leaves every
entry at its depth. -/
theorem createDirAll_spec {directory : Path} {made : FileSystem} (above : path.parent = some directory)
    (nonempty : directory.isEmpty = false) (done : createDirAll fs directory = .ok made) :
    reaches made path = true ∧ forall other : Path,
      other.components.length = path.components.length -> made.lookup other = fs.lookup other := by
  unfold createDirAll at done
  rw [nonempty] at done
  rcases makeDirectories_spec done with ⟨all, _, others⟩
  refine ⟨List.all_eq_true.mpr fun other onTheWay => all other (ancestors_covered above onTheWay),
    fun other level => others other fun member => ?_⟩
  have shorter : directory.components.length < path.components.length := by
    unfold Path.parent at above
    split at above
    · cases above
    · rename_i listed
      cases above
      have positive := List.length_pos_iff.mpr listed
      simp only [List.length_dropLast]
      omega
  rcases List.mem_append.mp member with deeper | last
  · have below := Path.length_of_mem_ancestors deeper
    omega
  · rw [List.mem_singleton.mp last] at level
    omega

end Facts

end FileSystem

/-! ## Steps -/

inductive FileStep where
  | createDirAll (path : Path)
  | write (path : Path) (bytes : List UInt8)
  | pathExists (path : Path)
  | removeFile (path : Path)
  | rename (source target : Path)
  | read (path : Path)

@[reducible] def FileStep.Reply : FileStep -> Type
  | pathExists _ => Bool
  | read _ => Except OsError (List UInt8)
  | createDirAll _ | write _ _ | removeFile _ | rename _ _ => Except OsError Unit

/-- A step that fails leaves the files as they are. -/
def FileSystem.attempt (fs : FileSystem) :
    Except OsError FileSystem -> FileSystem × Except OsError Unit
  | .ok after => (after, .ok ())
  | .error error => (fs, .error error)

def FileStep.exec : (step : FileStep) -> FileSystem -> FileSystem × step.Reply
  | createDirAll path, fs => FileSystem.attempt fs (FileSystem.createDirAll fs path)
  | write path bytes, fs => FileSystem.attempt fs (FileSystem.write fs path bytes)
  | pathExists path, fs => (fs, (FileSystem.stat fs path).isSome)
  | removeFile path, fs => FileSystem.attempt fs (FileSystem.removeFile fs path)
  | rename source target, fs => FileSystem.attempt fs (FileSystem.rename fs source target)
  | read path, fs => (fs, FileSystem.read fs path)

abbrev FileProgram (R : Type) := Program FileStep FileStep.Reply R

end Foundations
end DigGossip
