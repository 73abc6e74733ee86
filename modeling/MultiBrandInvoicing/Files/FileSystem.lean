import Mathlib.Data.List.Infix

/-!
# A tree of files

What a path names is a directory, a file or nothing.  Directories are made down to a path, files
are written into a directory that is there, read and removed, each with the errors of the system.

Objects are kept as a file and a second one beside it.  Where no two objects share a file, and none
of the files is a directory of another, the tree is a table of the objects.
-/

set_option autoImplicit false

namespace Files

variable {ν β τ : Type}

structure Written (β τ : Type) where
  content : β
  modifiedAt : τ
deriving DecidableEq, Repr

inductive Node (β τ : Type) where
  | directory
  | file (written : Written β τ)
deriving DecidableEq, Repr

inductive Errno where
  | noEntry
  | exists_
  | notDirectory
  | isDirectory
deriving DecidableEq, Repr

structure FileSystem (ν β τ : Type) where
  node : List ν → Option (Node β τ)

namespace FileSystem

variable (system : FileSystem ν β τ) (path : List ν)

def isFile : Bool :=
  match system.node path with
  | some (.file _) => true
  | _ => false

/-- A file stands where the path needs a directory. -/
def blocked : Bool := path.dropLast.inits.any system.isFile

def lookup : Except Errno (Node β τ) :=
  match system.node path with
  | some node => .ok node
  | none => .error (if system.blocked path then .notDirectory else .noEntry)

/-- `stat`, as far as it is about files. -/
def stat : Except Errno (Node β τ) := system.lookup path

def readFile : Except Errno β :=
  match system.lookup path with
  | .error refused => .error refused
  | .ok .directory => .error .isDirectory
  | .ok (.file written) => .ok written.content

variable {system path}

theorem lookup_of_not_blocked (clear : system.blocked path = false) :
    system.lookup path = (system.node path).elim (.error .noEntry) .ok := by
  rw [lookup, clear]
  cases system.node path <;> rfl

theorem blocked_eq_false :
    system.blocked path = false ↔ ∀ above, above <+: path.dropLast → system.isFile above = false := by
  rw [blocked, List.any_eq_false]
  simp only [List.mem_inits, Bool.not_eq_true]

/-- One call after another; the first that fails is the last, and what those before it did stays. -/
def attempt : List (FileSystem ν β τ → Except Errno (FileSystem ν β τ)) → FileSystem ν β τ →
    Except Errno Unit × FileSystem ν β τ
  | [], system => (.ok (), system)
  | call :: rest, system =>
    match call system with
    | .error refused => (.error refused, system)
    | .ok done => attempt rest done

theorem attempt_keeps (keeps : FileSystem ν β τ → Prop)
    {calls : List (FileSystem ν β τ → Except Errno (FileSystem ν β τ))}
    (each : ∀ call ∈ calls, ∀ tree after, keeps tree → call tree = .ok after → keeps after)
    {system : FileSystem ν β τ} (start : keeps system) : keeps (attempt calls system).2 := by
  induction calls generalizing system with
  | nil => exact start
  | cons call rest ih =>
    rw [attempt]
    cases done : call system with
    | error refused => exact start
    | ok after =>
      exact ih (fun other member => each other (List.mem_cons_of_mem _ member))
        (each call List.mem_cons_self system after start done)

/-- What is above a path is the path or above its directory. -/
theorem above_cases {other : List ν} (above : other <+: path) : other = path ∨ other <+: path.dropLast := by
  rcases List.eq_nil_or_concat' path with rfl | ⟨directory, name, rfl⟩
  · exact .inl (List.prefix_nil.mp above)
  · rw [List.dropLast_concat]
    exact List.prefix_concat_iff.mp above

variable (system path) [DecidableEq ν]

/-- `mkdir` with `recursive`. -/
def makeDirectories : Except Errno (FileSystem ν β τ) :=
  if system.isFile path then .error .exists_
  else if system.blocked path then .error .notDirectory
  else .ok ⟨fun other => if other <+: path then some .directory else system.node other⟩

def setNode (node : Option (Node β τ)) : FileSystem ν β τ :=
  ⟨fun other => if other = path then node else system.node other⟩

def writeFile (written : Written β τ) : Except Errno (FileSystem ν β τ) :=
  match system.lookup path.dropLast with
  | .error refused => .error refused
  | .ok (.file _) => .error .notDirectory
  | .ok .directory =>
    match system.node path with
    | some .directory => .error .isDirectory
    | _ => .ok (system.setNode path (some (.file written)))

/-- `rm` with `force`: that nothing is there is no error. -/
def remove : Except Errno (FileSystem ν β τ) :=
  match system.lookup path with
  | .error .noEntry => .ok system
  | .error refused => .error refused
  | .ok .directory => .error .isDirectory
  | .ok (.file _) => .ok (system.setNode path none)

variable {system path}

theorem remove_eq (clear : system.blocked path = false) (found : Option (Written β τ))
    (here : system.node path = found.map .file) :
    system.remove path = .ok (system.setNode path none) := by
  rw [remove, lookup_of_not_blocked clear, here]
  cases found with
  | some file => rfl
  | none =>
    have same : system.setNode path none = system := by
      rw [setNode]
      congr
      funext other
      by_cases equal : other = path
      · rw [if_pos equal, equal, here]
        rfl
      · rw [if_neg equal]
    rw [same]
    rfl

theorem isFile_setNode_none {other : List ν} (notFile : system.isFile other = false) :
    (system.setNode path none).isFile other = false := by
  rw [isFile, setNode]
  by_cases equal : other = path
  · simp only [if_pos equal]
  · simp only [if_neg equal]
    exact notFile

def writeBoth (system : FileSystem ν β τ) (body sidecar : List ν)
    (object : Written β τ × Written β τ) : Except Errno Unit × FileSystem ν β τ :=
  attempt [fun tree => tree.makeDirectories body.dropLast,
    fun tree => tree.writeFile body object.1, fun tree => tree.writeFile sidecar object.2] system

def removeBoth (system : FileSystem ν β τ) (body sidecar : List ν) :
    Except Errno Unit × FileSystem ν β τ :=
  attempt [fun tree => tree.remove body, fun tree => tree.remove sidecar] system

/-! ## What the calls change -/

variable {after : FileSystem ν β τ} {other : List ν}

theorem node_makeDirectories (done : system.makeDirectories path = .ok after) (other : List ν) :
    after.node other = system.node other ∨
      other <+: path ∧ system.node other = none ∧ after.node other = some .directory := by
  rw [makeDirectories] at done
  split at done
  · cases done
  next notFile =>
    split at done
    · cases done
    next clear =>
      cases done
      by_cases above : other <+: path
      · simp only [if_pos above]
        have open_ : system.isFile other = false := by
          rcases above_cases above with rfl | before
          · exact Bool.eq_false_iff.mpr notFile
          · exact blocked_eq_false.mp (Bool.eq_false_iff.mpr clear) other before
        cases found : system.node other with
        | none => exact .inr ⟨above, rfl, trivial⟩
        | some node =>
          cases node with
          | directory => exact .inl rfl
          | file written =>
            rw [isFile, found] at open_
            cases open_
      · exact .inl (if_neg above)

theorem node_writeFile {written : Written β τ} (done : system.writeFile path written = .ok after)
    (apart : other ≠ path) : after.node other = system.node other := by
  rw [writeFile] at done
  split at done
  · cases done
  · cases done
  · split at done
    · cases done
    · cases done
      exact if_neg apart

theorem node_remove (done : system.remove path = .ok after) (apart : other ≠ path) :
    after.node other = system.node other := by
  rw [remove] at done
  split at done
  · cases done
    rfl
  · cases done
  · cases done
  · cases done
    exact if_neg apart

end FileSystem

/-! ## Objects in two files -/

structure Layout (κ ν : Type) where
  body : κ → List ν
  sidecar : κ → List ν

namespace Layout

variable {κ : Type} (layout : Layout κ ν)

structure Apart : Prop where
  beside : ∀ key, (layout.sidecar key).dropLast = (layout.body key).dropLast
  body_inj : ∀ key other, layout.body key = layout.body other → key = other
  sidecar_inj : ∀ key other, layout.sidecar key = layout.sidecar other → key = other
  body_ne_sidecar : ∀ key other, layout.body key ≠ layout.sidecar other
  body_notAbove : ∀ key other, ¬layout.body key <+: (layout.body other).dropLast
  sidecar_notAbove : ∀ key other, ¬layout.sidecar key <+: (layout.body other).dropLast

/-- The tree has the objects of the table, and no file where their directories are to be. -/
structure Holds (system : FileSystem ν β τ) (table : κ → Option (Written β τ × Written β τ)) :
    Prop where
  body : ∀ key, system.node (layout.body key) =
    (table key).map fun object => .file object.1
  sidecar : ∀ key, system.node (layout.sidecar key) =
    (table key).map fun object => .file object.2
  clear : ∀ key path, path <+: (layout.body key).dropLast → system.isFile path = false

variable {layout} {system : FileSystem ν β τ} {table : κ → Option (Written β τ × Written β τ)}

theorem Holds.not_blocked (holds : layout.Holds system table) (key : κ) :
    system.blocked (layout.body key) = false := by
  exact FileSystem.blocked_eq_false.mpr (holds.clear key)

theorem Holds.not_blocked_sidecar (apart : layout.Apart) (holds : layout.Holds system table)
    (key : κ) : system.blocked (layout.sidecar key) = false := by
  rw [FileSystem.blocked_eq_false, apart.beside]
  exact holds.clear key

theorem Holds.lookup_body (holds : layout.Holds system table) (key : κ) :
    system.lookup (layout.body key) =
      (table key).elim (.error .noEntry) fun object => .ok (.file object.1) := by
  rw [FileSystem.lookup_of_not_blocked (holds.not_blocked key), holds.body]
  cases table key <;> rfl

theorem Holds.lookup_sidecar (apart : layout.Apart) (holds : layout.Holds system table) (key : κ) :
    system.lookup (layout.sidecar key) =
      (table key).elim (.error .noEntry) fun object => .ok (.file object.2) := by
  rw [FileSystem.lookup_of_not_blocked (holds.not_blocked_sidecar apart key), holds.sidecar]
  cases table key <;> rfl

theorem Holds.readFile_body (holds : layout.Holds system table) (key : κ) :
    system.readFile (layout.body key) =
      (table key).elim (.error .noEntry) fun object => .ok object.1.content := by
  rw [FileSystem.readFile, holds.lookup_body]
  cases table key <;> rfl

theorem Holds.readFile_sidecar (apart : layout.Apart) (holds : layout.Holds system table)
    (key : κ) :
    system.readFile (layout.sidecar key) =
      (table key).elim (.error .noEntry) fun object => .ok object.2.content := by
  rw [FileSystem.readFile, holds.lookup_sidecar apart]
  cases table key <;> rfl

variable [DecidableEq ν]

def written (layout : Layout κ ν) (system : FileSystem ν β τ) (key : κ)
    (object : Written β τ × Written β τ) : FileSystem ν β τ where
  node path :=
    if path = layout.sidecar key then some (.file object.2)
    else if path = layout.body key then some (.file object.1)
    else if path <+: (layout.body key).dropLast then some .directory
    else system.node path

theorem writeFile_ok {made : FileSystem ν β τ} {path : List ν} (written : Written β τ)
    (above : made.node path.dropLast = some .directory)
    (here : made.node path ≠ some .directory) :
    made.writeFile path written = .ok (made.setNode path (some (.file written))) := by
  rw [FileSystem.writeFile, FileSystem.lookup, above]
  cases found : made.node path with
  | none => rfl
  | some node =>
    cases node with
    | directory => exact absurd found here
    | file => rfl

theorem Holds.makeDirectories_eq (holds : layout.Holds system table) (key : κ) :
    system.makeDirectories (layout.body key).dropLast =
      .ok ⟨fun path => if path <+: (layout.body key).dropLast then some .directory
        else system.node path⟩ := by
  have open_ : system.blocked (layout.body key).dropLast = false := by
    rw [FileSystem.blocked_eq_false]
    intro path above
    exact holds.clear key path (above.trans (List.dropLast_prefix _))
  rw [FileSystem.makeDirectories, holds.clear key _ (List.prefix_refl _), open_]
  rfl

theorem Holds.writeBoth_eq (apart : layout.Apart) (holds : layout.Holds system table) (key : κ)
    (object : Written β τ × Written β τ) :
    system.writeBoth (layout.body key) (layout.sidecar key) object =
      (.ok (), layout.written system key object) := by
  have bodyFile : system.node (layout.body key) ≠ some .directory := by
    rw [holds.body]
    cases table key <;> simp
  have sidecarFile : system.node (layout.sidecar key) ≠ some .directory := by
    rw [holds.sidecar]
    cases table key <;> simp
  have bodyHere := apart.body_notAbove key key
  have sidecarHere := apart.sidecar_notAbove key key
  have differ := apart.body_ne_sidecar key key
  have parent : (layout.body key).dropLast ≠ layout.body key := by
    intro same
    exact bodyHere (by rw [same])
  rw [FileSystem.writeBoth, FileSystem.attempt, holds.makeDirectories_eq]
  simp only [FileSystem.attempt]
  rw [writeFile_ok object.1 (if_pos (List.prefix_refl _)) (by
    simp only [if_neg bodyHere]
    exact bodyFile)]
  simp only
  rw [writeFile_ok object.2]
  · rfl
  · simp only [FileSystem.setNode, apart.beside, if_neg parent, if_pos (List.prefix_refl _)]
  · simp only [FileSystem.setNode, if_neg differ.symm, if_neg sidecarHere]
    exact sidecarFile

variable [DecidableEq κ]

theorem Holds.written (apart : layout.Apart) (holds : layout.Holds system table) (key : κ)
    (object : Written β τ × Written β τ) :
    layout.Holds (layout.written system key object)
      (Function.update table key (some object)) where
  body other := by
    rw [Layout.written]
    simp only [if_neg (apart.body_ne_sidecar other key)]
    by_cases same : other = key
    · rw [same, if_pos rfl, Function.update_self]
      rfl
    · rw [if_neg fun equal => same (apart.body_inj other key equal),
        if_neg (apart.body_notAbove other key), Function.update_of_ne same, holds.body]
  sidecar other := by
    rw [Layout.written]
    by_cases same : other = key
    · simp only [same, if_true, Function.update_self]
      rfl
    · simp only [if_neg fun equal => same (apart.sidecar_inj other key equal)]
      rw [if_neg (apart.body_ne_sidecar key other).symm, if_neg (apart.sidecar_notAbove other key),
        Function.update_of_ne same, holds.sidecar]
  clear other path above := by
    have notSidecar : path ≠ layout.sidecar key := by
      intro equal
      exact apart.sidecar_notAbove key other (equal ▸ above)
    have notBody : path ≠ layout.body key := by
      intro equal
      exact apart.body_notAbove key other (equal ▸ above)
    have before := holds.clear other path above
    rw [FileSystem.isFile, Layout.written]
    simp only [if_neg notSidecar, if_neg notBody]
    by_cases made : path <+: (layout.body key).dropLast
    · rw [if_pos made]
    · rw [if_neg made]
      exact before

theorem Holds.removeBoth (apart : layout.Apart) (holds : layout.Holds system table) (key : κ) :
    ∃ erased, system.removeBoth (layout.body key) (layout.sidecar key) = (.ok (), erased) ∧
      layout.Holds erased (Function.update table key none) := by
  let removed := system.setNode (layout.body key) none
  have first : system.remove (layout.body key) = .ok removed :=
    FileSystem.remove_eq (holds.not_blocked key) ((table key).map Prod.fst)
      (by rw [holds.body, Option.map_map]; rfl)
  have second : removed.remove (layout.sidecar key) =
      .ok (removed.setNode (layout.sidecar key) none) := by
    refine FileSystem.remove_eq ?_ ((table key).map Prod.snd) ?_
    · rw [FileSystem.blocked_eq_false, apart.beside]
      intro above prefix_
      exact FileSystem.isFile_setNode_none (holds.clear key above prefix_)
    · simp only [removed, FileSystem.setNode, if_neg (apart.body_ne_sidecar key key).symm]
      rw [holds.sidecar, Option.map_map]
      rfl
  refine ⟨removed.setNode (layout.sidecar key) none, ?_, ?_, ?_, ?_⟩
  · simp only [FileSystem.removeBoth, FileSystem.attempt, first, second]
  · intro other
    simp only [removed, FileSystem.setNode, if_neg (apart.body_ne_sidecar other key)]
    by_cases same : other = key
    · rw [same, if_pos rfl, Function.update_self]
      rfl
    · rw [if_neg fun equal => same (apart.body_inj other key equal), Function.update_of_ne same,
        holds.body]
  · intro other
    simp only [removed, FileSystem.setNode, if_neg (apart.body_ne_sidecar key other).symm]
    by_cases same : other = key
    · rw [same, if_pos rfl, Function.update_self]
      rfl
    · rw [if_neg fun equal => same (apart.sidecar_inj other key equal),
        Function.update_of_ne same, holds.sidecar]
  · intro other path above
    exact FileSystem.isFile_setNode_none
      (FileSystem.isFile_setNode_none (holds.clear other path above))

end Layout

end Files
