import MultiBrandInvoicing.Files.FileSystem
import MultiBrandInvoicing.Files.Paths
import MultiBrandInvoicing.Storage.SignedUrls

/-!
# The local disk

`apps/api/src/adapters/storage/local-disk.adapter.ts`: an object is a file below the storage root,
with a second file of JSON beside it.  A key may be any text; what it resolves to stays below the
root.  For the keys of `storageKeys` the disk is a table of objects, and the route of
`apps/api/src/adapters/storage/storage.controller.ts` serves what the table has.
-/

set_option autoImplicit false

namespace MultiBrandInvoicing.DiskStorage

open Encodings Json OAuthState SignedUrls Files

def slash : UInt16 := 0x2F

abbrev Directory := Path UInt16

/-- The files of a disk by the names that the system tells apart. -/
abbrev Tree := FileSystem CodeUnits (List UInt8) Clock

structure LocalDiskAdapter where
  root : Directory
  isPath : IsPath slash dot root

/-- `path.resolve(process.cwd(), env.STORAGE_LOCAL_PATH)`. -/
def LocalDiskAdapter.create (cwd : Directory) (isPath : IsPath slash dot cwd)
    (storageLocalPath : CodeUnits) : LocalDiskAdapter where
  root := Files.resolve slash dot cwd storageLocalPath
  isPath := isPath_resolve isPath storageLocalPath

structure PutObjectInput (κ : Type) where
  key : κ
  body : List UInt8
  contentType : CodeUnits
  metadata : List (CodeUnits × CodeUnits) := []

structure StoredObject where
  key : CodeUnits
  size : Nat
  contentType : CodeUnits
  checksum : CodeUnits
  storedAt : Clock
deriving DecidableEq

inductive Thrown where
  | outside (key : CodeUnits)
  | errno (error : Errno)
  | header
deriving DecidableEq

def outsideMessage (key : CodeUnits) : CodeUnits :=
  ofString "storage key \"" ++ key ++ ofString "\" resolves outside the storage root"

/-! ## Paths -/

/-- A path ends with a separator where it is the root of the tree. -/
def rootWithSep (root : Directory) : CodeUnits :=
  let text := pathText slash root
  if [slash] <:+ text then text else text ++ [slash]

def LocalDiskAdapter.resolve (disk : LocalDiskAdapter) (key : CodeUnits) : Except Thrown Directory :=
  let target := Files.resolve slash dot disk.root key
  if pathText slash target ≠ pathText slash disk.root ∧
      ¬rootWithSep disk.root <+: pathText slash target then
    .error (.outside key)
  else .ok target

def metaSuffix : CodeUnits := ofString ".meta.json"

def sidecar (target : Directory) : Directory :=
  target.dropLast ++ [target.getLast?.getD [] ++ metaSuffix]

/-! ## The adapter -/

def metaText (contentType : CodeUnits) (metadata : List (CodeUnits × CodeUnits)) : CodeUnits :=
  stringify (.object [(ofString "contentType", .string contentType),
    (ofString "metadata", .object (metadata.map fun entry => (entry.1, .string entry.2)))])

def defaultContentType : CodeUnits := ofString "application/octet-stream"

/-- What is not there or cannot be read is as if it were empty. -/
def contentTypeOf (meta_ : Except Errno (List UInt8)) : CodeUnits :=
  match meta_.toOption.bind fun bytes => parseJson (fromUtf8 bytes) with
  | some value =>
    match value.get (ofString "contentType") with
    | some (.string contentType) => contentType
    | _ => defaultContentType
  | none => defaultContentType

structure PutTimes where
  bodyAt : Clock
  sidecarAt : Clock
  storedAt : Clock

section Adapter

variable (sha256 : List UInt8 → Vector UInt8 32) (disk : LocalDiskAdapter) (tree : Tree)

def checksum (body : List UInt8) : CodeUnits := hex (sha256 body).toList

def put (input : PutObjectInput CodeUnits) (times : PutTimes) : Except Thrown StoredObject × Tree :=
  match disk.resolve input.key with
  | .error refused => (.error refused, tree)
  | .ok target =>
    match tree.writeBoth target (sidecar target) (⟨input.body, times.bodyAt⟩,
        ⟨utf8 (metaText input.contentType input.metadata), times.sidecarAt⟩) with
    | (.error refused, after) => (.error (.errno refused), after)
    | (.ok (), after) =>
      (.ok {
        key := input.key
        size := input.body.length
        contentType := input.contentType
        checksum := checksum sha256 input.body
        storedAt := times.storedAt }, after)

def get (key : CodeUnits) : Except Thrown (List UInt8) :=
  match disk.resolve key with
  | .error refused => .error refused
  | .ok target => (tree.readFile target).mapError .errno

/-- Only that nothing is there is answered; a directory cannot be read. -/
def head (key : CodeUnits) : Except Thrown (Option StoredObject) :=
  match disk.resolve key with
  | .error refused => .error refused
  | .ok target =>
    match tree.stat target with
    | .error .noEntry => .ok none
    | .error refused => .error (.errno refused)
    | .ok .directory => .error (.errno .isDirectory)
    | .ok (.file stat) =>
      .ok (some {
        key := key
        size := stat.content.length
        contentType := contentTypeOf (tree.readFile (sidecar target))
        checksum := checksum sha256 stat.content
        storedAt := stat.modifiedAt })

def delete (key : CodeUnits) : Except Thrown Unit × Tree :=
  match disk.resolve key with
  | .error refused => (.error refused, tree)
  | .ok target =>
    let done := tree.removeBoth target (sidecar target)
    (done.1.mapError .errno, done.2)

end Adapter

/-! ## Runs -/

inductive Request (κ : Type) where
  | put (input : PutObjectInput κ) (times : PutTimes)
  | get (key : κ)
  | head (key : κ)
  | delete (key : κ)

inductive Answer where
  | stored (object : StoredObject)
  | body (bytes : List UInt8)
  | found (object : Option StoredObject)
  | deleted
deriving DecidableEq

def Request.map {κ μ : Type} (text : κ → μ) : Request κ → Request μ
  | .put input times =>
    .put { input with key := text input.key } times
  | .get key => .get (text key)
  | .head key => .head (text key)
  | .delete key => .delete (text key)

section Runs

variable (sha256 : List UInt8 → Vector UInt8 32) (disk : LocalDiskAdapter)

def perform (tree : Tree) : Request CodeUnits → Except Thrown Answer × Tree
  | .put input times =>
    let done := put sha256 disk tree input times
    (done.1.map .stored, done.2)
  | .get key => ((get disk tree key).map .body, tree)
  | .head key => ((head sha256 disk tree key).map .found, tree)
  | .delete key =>
    let done := delete disk tree key
    (done.1.map fun _ => .deleted, done.2)

def run (tree : Tree) : List (Request CodeUnits) → List (Except Thrown Answer) × Tree
  | [] => ([], tree)
  | request :: rest =>
    let done := perform sha256 disk tree request
    let others := run done.2 rest
    (done.1 :: others.1, others.2)

end Runs

/-! ## What a key resolves to -/

theorem rootWithSep_eq {root : Directory} (isPath : IsPath slash dot root) :
    rootWithSep root = directoryText slash root := by
  by_cases top : root = []
  · rw [top]
    decide
  · rw [rootWithSep, pathText_eq top, if_neg (not_endsWith isPath)]
    rfl

theorem resolve_eq_ok {disk : LocalDiskAdapter} {key : CodeUnits} {target : Directory} :
    disk.resolve key = .ok target ↔
      target = Files.resolve slash dot disk.root key ∧ disk.root <+: target := by
  have isPath := isPath_resolve disk.isPath key
  rw [LocalDiskAdapter.resolve]
  generalize Files.resolve slash dot disk.root key = found at isPath ⊢
  have inside : pathText slash found = pathText slash disk.root ∨
      rootWithSep disk.root <+: pathText slash found ↔ disk.root <+: found := by
    rw [rootWithSep_eq disk.isPath]
    constructor
    · intro either
      rcases either with same | begins
      · rw [pathText_inj isPath disk.isPath same]
      · by_cases top : found = []
        · rw [top] at begins
          have length := begins.length_le
          cases root : disk.root with
          | nil => exact List.nil_prefix
          | cons name rest =>
            rw [root, directoryText_cons] at length
            simp [pathText, directoryText] at length
        · rw [pathText_eq top, directoryText_prefix_iff disk.isPath isPath] at begins
          obtain ⟨rest, -, rfl⟩ := begins
          exact List.prefix_append _ _
    · intro below
      obtain ⟨rest, rfl⟩ := below
      by_cases here : rest = []
      · left
        rw [here, List.append_nil]
      · right
        rw [pathText_eq (by simp [here]), directoryText_prefix_iff disk.isPath isPath]
        exact ⟨rest, here, rfl⟩
  split
  next refused =>
    rw [← not_or, inside] at refused
    constructor
    · intro accepted
      cases accepted
    · intro accepted
      rw [accepted.1] at accepted
      exact absurd accepted.2 refused
  next accepted =>
    rw [← not_or, not_not, inside] at accepted
    constructor
    · intro same
      rw [← Except.ok.inj same]
      exact ⟨rfl, accepted⟩
    · intro same
      rw [same.1]

/-! ## Outside the root -/

def Outside (root path : Directory) : Prop := ¬root <+: path ∧ path ≠ sidecar root

def Kept (root : Directory) (before tree : Tree) : Prop :=
  ∀ path, Outside root path → tree.node path = before.node path ∨
    path <+: root ∧ before.node path = none ∧ tree.node path = some .directory

theorem Kept.trans {root : Directory} {before tree after : Tree} (first : Kept root before tree)
    (second : Kept root tree after) : Kept root before after := by
  intro path outside
  rcases second path outside with same | ⟨above, nothing, made⟩
  · rw [same]
    exact first path outside
  · rcases first path outside with same | ⟨-, -, earlier⟩
    · exact .inr ⟨above, same ▸ nothing, made⟩
    · rw [earlier] at nothing
      cases nothing

theorem Kept.refl (root : Directory) (tree : Tree) : Kept root tree tree := fun _ _ => .inl rfl

theorem Outside.apart {root path target : Directory} (outside : Outside root path)
    (inside : root <+: target) : path ≠ target ∧ path ≠ sidecar target := by
  constructor
  · intro same
    exact outside.1 (same ▸ inside)
  · intro same
    rcases FileSystem.above_cases inside with rfl | below
    · exact outside.2 same
    · refine outside.1 (same ▸ ?_)
      exact below.trans (List.prefix_append _ _)

theorem kept_writeBoth {root target : Directory} (inside : root <+: target) (tree : Tree)
    (object : Written (List UInt8) Clock × Written (List UInt8) Clock) :
    Kept root tree (tree.writeBoth target (sidecar target) object).2 := by
  refine FileSystem.attempt_keeps (Kept root tree) ?_ (Kept.refl root tree)
  intro call member between after kept done
  refine kept.trans ?_
  intro path outside
  have apart := outside.apart inside
  simp only [List.mem_cons, List.not_mem_nil, or_false] at member
  rcases member with rfl | rfl | rfl
  · rcases FileSystem.node_makeDirectories done path with same | ⟨above, rest⟩
    · exact .inl same
    · have ancestor := above.trans (List.dropLast_prefix target)
      have higher := (List.prefix_or_prefix_of_prefix ancestor inside).resolve_right outside.1
      exact .inr ⟨higher, rest⟩
  · exact .inl (FileSystem.node_writeFile done apart.1)
  · exact .inl (FileSystem.node_writeFile done apart.2)

theorem kept_removeBoth {root target : Directory} (inside : root <+: target) (tree : Tree) :
    Kept root tree (tree.removeBoth target (sidecar target)).2 := by
  refine FileSystem.attempt_keeps (Kept root tree) ?_ (Kept.refl root tree)
  intro call member between after kept done
  refine kept.trans ?_
  intro path outside
  have apart := outside.apart inside
  simp only [List.mem_cons, List.not_mem_nil, or_false] at member
  rcases member with rfl | rfl
  · exact .inl (FileSystem.node_remove done apart.1)
  · exact .inl (FileSystem.node_remove done apart.2)

section Confined

variable (sha256 : List UInt8 → Vector UInt8 32) (disk : LocalDiskAdapter)

theorem kept_perform (tree : Tree) (request : Request CodeUnits) :
    Kept disk.root tree (perform sha256 disk tree request).2 := by
  cases request with
  | put input times =>
    rw [perform, put]
    cases accepted : disk.resolve input.key with
    | error refused => exact Kept.refl _ tree
    | ok target =>
      have kept := kept_writeBoth (resolve_eq_ok.mp accepted).2 tree (⟨input.body, times.bodyAt⟩,
        ⟨utf8 (metaText input.contentType input.metadata), times.sidecarAt⟩)
      simp only
      split
      next done => rwa [done] at kept
      next done => rwa [done] at kept
  | get key => exact Kept.refl _ tree
  | head key => exact Kept.refl _ tree
  | delete key =>
    rw [perform, delete]
    cases accepted : disk.resolve key with
    | error refused => exact Kept.refl _ tree
    | ok target => exact kept_removeBoth (resolve_eq_ok.mp accepted).2 tree

/-- Whatever the keys are, a run changes no file that is not below the root or its sidecar. -/
theorem run_confined (tree : Tree) (requests : List (Request CodeUnits)) (path : Directory)
    (outside : Outside disk.root path) :
    let after := (run sha256 disk tree requests).2
    after.node path = tree.node path ∨
      path <+: disk.root ∧ tree.node path = none ∧ after.node path = some .directory := by
  have kept : Kept disk.root tree (run sha256 disk tree requests).2 := by
    induction requests generalizing tree with
    | nil => exact Kept.refl _ tree
    | cons request rest ih =>
      rw [run]
      exact (kept_perform sha256 disk tree request).trans (ih _)
  exact kept path outside

end Confined

def sampleDisk : LocalDiskAdapter :=
  .create [ofString "srv"] (by
    intro name member
    rw [List.mem_singleton.mp member]
    decide) (ofString "./.storage")

def emptyTree : Tree := ⟨fun _ => none⟩

def sampleTimes : PutTimes := ⟨⟨1000, by decide⟩, ⟨1001, by decide⟩, ⟨1002, by decide⟩⟩

def sampleSha256 : List UInt8 → Vector UInt8 32 := fun _ => Vector.replicate 32 0

theorem run_confined_sample :
    let requests := [.put ⟨ofString "../../etc/passwd", [0x78], ofString "text/plain", []⟩ sampleTimes,
      .put ⟨ofString "logo.png", [0x89, 0x50], ofString "image/png", []⟩ sampleTimes,
      .delete (ofString "../passwd")]
    (run sampleSha256 sampleDisk emptyTree requests).2.node [ofString "etc", ofString "passwd"] =
      none := by
  intro requests
  have outside : Outside sampleDisk.root [ofString "etc", ofString "passwd"] :=
    ⟨by decide, by decide⟩
  rcases run_confined sampleSha256 sampleDisk emptyTree requests _ outside with same | ⟨above, -⟩
  · exact same
  · exact absurd above (by decide)

end MultiBrandInvoicing.DiskStorage
