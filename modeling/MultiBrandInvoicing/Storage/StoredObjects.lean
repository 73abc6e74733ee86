import MultiBrandInvoicing.Storage.LocalDisk

/-!
# Objects on the disk

The keys of `storageKeys` lead to files of their own, none of them a directory or a sidecar of
another.  So for them the local disk is a table of objects, whatever is put, read and deleted in
whichever order, and a signed URL serves what the table has until it expires.
-/

set_option autoImplicit false

namespace MultiBrandInvoicing.DiskStorage

open Encodings Json OAuthState SignedUrls Files

/-! ## The keys of the program -/

def names : StorageKey → Directory
  | .invoicePdf brandId invoiceId contentVersion =>
    [ofString "brands", brandId, ofString "invoices", invoiceId,
      ofString "invoice-" ++ contentVersion ++ ofString ".pdf"]
  | .receiptPdf brandId paymentId =>
    [ofString "brands", brandId, ofString "receipts", paymentId ++ ofString ".pdf"]
  | .brandLogo brandId filename => [ofString "brands", brandId, ofString "logo", filename]
  | .merchantLogo merchantId filename => [ofString "merchants", merchantId, ofString "logo", filename]
  | .checkImage brandId submissionId side =>
    [ofString "brands", brandId, ofString "checks",
      submissionId ++ ofString "-" ++ ofString side.text]
  | .invoiceAttachment brandId invoiceId filename =>
    [ofString "brands", brandId, ofString "invoices", invoiceId, ofString "attachments", filename]

def IsPart (part : CodeUnits) : Prop := slash ∉ part ∧ WellFormed part

def IsWhole (name : CodeUnits) : Prop := IsName slash dot name ∧ WellFormed name

/-- A file name that is not that of a sidecar. -/
def IsFileName (filename : CodeUnits) : Prop := IsWhole filename ∧ ¬metaSuffix <:+ filename

/-- The parts of a key are names, as ids and the file names of uploads are. -/
def IsPlain : StorageKey → Prop
  | .invoicePdf brandId invoiceId contentVersion =>
    IsWhole brandId ∧ IsWhole invoiceId ∧ IsPart contentVersion
  | .receiptPdf brandId paymentId => IsWhole brandId ∧ IsPart paymentId
  | .brandLogo brandId filename => IsWhole brandId ∧ IsFileName filename
  | .merchantLogo merchantId filename => IsWhole merchantId ∧ IsFileName filename
  | .checkImage brandId submissionId _ => IsWhole brandId ∧ IsPart submissionId
  | .invoiceAttachment brandId invoiceId filename =>
    IsWhole brandId ∧ IsWhole invoiceId ∧ IsFileName filename

abbrev PlainKey := { key : StorageKey // IsPlain key }

theorem text_eq (key : StorageKey) : key.text = [slash].intercalate (names key) := by
  have brands : ofString "brands/" = ofString "brands" ++ [slash] := by decide
  have merchants : ofString "merchants/" = ofString "merchants" ++ [slash] := by decide
  have invoices : ofString "/invoices/" = slash :: ofString "invoices" ++ [slash] := by decide
  have invoice : ofString "/invoice-" = slash :: ofString "invoice-" := by decide
  have receipts : ofString "/receipts/" = slash :: ofString "receipts" ++ [slash] := by decide
  have logo : ofString "/logo/" = slash :: ofString "logo" ++ [slash] := by decide
  have checks : ofString "/checks/" = slash :: ofString "checks" ++ [slash] := by decide
  have attachments :
      ofString "/attachments/" = slash :: ofString "attachments" ++ [slash] := by decide
  cases key <;> simp [StorageKey.text, names, List.intercalate, brands, merchants, invoices,
    invoice, receipts, logo, checks, attachments]

theorem isName_of_last {name : CodeUnits} {unit : UInt16} (single : slash ∉ name ++ [unit])
    (other : unit ≠ dot) : IsName slash dot (name ++ [unit]) where
  some_ := by simp
  single := single
  notHere same := by
    have last : name ++ [unit] = [] ++ [dot] := same
    exact other (List.cons.inj (List.append_inj' last rfl).2).1
  notAbove same := by
    have last : name ++ [unit] = [dot] ++ [dot] := same
    exact other (List.cons.inj (List.append_inj' last rfl).2).1

def sideLetters : CheckSide → CodeUnits × UInt16
  | .front => (ofString "-fron", 0x74)
  | .back => (ofString "-bac", 0x6B)

theorem side_eq (side : CheckSide) :
    ofString "-" ++ ofString side.text = (sideLetters side).1 ++ [(sideLetters side).2] := by
  cases side <;> decide

theorem pdf_eq : ofString ".pdf" = ofString ".pd" ++ [0x66] := by decide

theorem isPath_names {key : StorageKey} (plain : IsPlain key) : IsPath slash dot (names key) := by
  have brands : IsName slash dot (ofString "brands") := by decide
  have merchants : IsName slash dot (ofString "merchants") := by decide
  have invoices : IsName slash dot (ofString "invoices") := by decide
  have receipts : IsName slash dot (ofString "receipts") := by decide
  have logo : IsName slash dot (ofString "logo") := by decide
  have checks : IsName slash dot (ofString "checks") := by decide
  have attachments : IsName slash dot (ofString "attachments") := by decide
  have invoice : slash ∉ ofString "invoice-" := by decide
  have pdf : slash ∉ ofString ".pdf" := by decide
  have sides (side : CheckSide) : slash ∉ ofString "-" ++ ofString side.text := by
    cases side <;> decide
  cases key with
  | invoicePdf brandId invoiceId contentVersion =>
    have file : IsName slash dot (ofString "invoice-" ++ contentVersion ++ ofString ".pdf") := by
      rw [pdf_eq, ← List.append_assoc]
      refine isName_of_last ?_ (by decide)
      rw [List.append_assoc, ← pdf_eq]
      simp [invoice, plain.2.2.1, pdf]
    rw [List.append_assoc] at file
    simp [IsPath, names, brands, invoices, plain.1.1, plain.2.1.1, file]
  | receiptPdf brandId paymentId =>
    have file : IsName slash dot (paymentId ++ ofString ".pdf") := by
      rw [pdf_eq, ← List.append_assoc]
      refine isName_of_last ?_ (by decide)
      rw [List.append_assoc, ← pdf_eq]
      simp [plain.2.1, pdf]
    simp [IsPath, names, brands, receipts, plain.1.1, file]
  | brandLogo brandId filename =>
    simp [IsPath, names, brands, logo, plain.1.1, plain.2.1.1]
  | merchantLogo merchantId filename =>
    simp [IsPath, names, merchants, logo, plain.1.1, plain.2.1.1]
  | checkImage brandId submissionId side =>
    have file : IsName slash dot (submissionId ++ ofString "-" ++ ofString side.text) := by
      rw [List.append_assoc, side_eq, ← List.append_assoc]
      refine isName_of_last ?_ (by cases side <;> decide)
      rw [List.append_assoc, ← side_eq, List.mem_append, not_or]
      exact ⟨plain.2.1, sides side⟩
    rw [List.append_assoc] at file
    simp [IsPath, names, brands, checks, plain.1.1, file]
  | invoiceAttachment brandId invoiceId filename =>
    simp [IsPath, names, brands, invoices, attachments, plain.1.1, plain.2.1.1, plain.2.2.1.1]

theorem names_inj {key other : StorageKey} (same : names key = names other) : key = other := by
  cases key <;> cases other <;> simp_all [names, ofString_inj]
  case checkImage.checkImage first side _ second otherSide =>
    have images := same.2
    rw [side_eq, side_eq, ← List.append_assoc, ← List.append_assoc] at images
    obtain ⟨fronts, lasts⟩ := List.append_inj' images rfl
    have sides : side = otherSide := by
      revert lasts
      cases side <;> cases otherSide <;> decide
    rw [sides] at fronts
    exact ⟨List.append_cancel_right fronts, sides⟩

theorem last_notSuffix {key : StorageKey} (plain : IsPlain key) :
    ¬metaSuffix <:+ (names key).getLast?.getD [] := by
  have apart {name : CodeUnits} {unit : UInt16} (other : unit ≠ 0x6E) :
      ¬metaSuffix <:+ name ++ [unit] := by
    intro ends
    obtain ⟨before, same⟩ := ends
    have parts : metaSuffix = ofString ".meta.jso" ++ [0x6E] := by decide
    rw [parts, ← List.append_assoc] at same
    exact other (List.cons.inj (List.append_inj' same rfl).2).1.symm
  cases key with
  | invoicePdf brandId invoiceId contentVersion =>
    rw [names, pdf_eq, ← List.append_assoc]
    exact apart (by decide)
  | receiptPdf brandId paymentId =>
    rw [names, pdf_eq, ← List.append_assoc]
    exact apart (by decide)
  | brandLogo brandId filename => exact plain.2.2
  | merchantLogo merchantId filename => exact plain.2.2
  | checkImage brandId submissionId side =>
    rw [names, List.append_assoc, side_eq, ← List.append_assoc]
    exact apart (by cases side <;> decide)
  | invoiceAttachment brandId invoiceId filename => exact plain.2.2.2

def renamed (path : Directory) (more : CodeUnits) : Directory :=
  path.dropLast ++ [path.getLast?.getD [] ++ more]

theorem renamed_notAbove (key other : StorageKey) (more : CodeUnits) :
    ¬renamed (names key) more <+: (names other).dropLast := by
  have invoice : ∀ rest, ofString "invoice-" ++ rest ≠ ofString "attachments" := by
    intro rest same
    have begins : ofString "invoice-" = 0x69 :: ofString "nvoice-" := by decide
    have other_ : ofString "attachments" = 0x61 :: ofString "ttachments" := by decide
    rw [begins, other_] at same
    exact absurd (List.cons.inj same).1 (by decide)
  cases key <;> cases other <;>
    simp [renamed, names, List.cons_prefix_cons, ofString_inj, invoice]

theorem names_ne_nil (key : StorageKey) : names key ≠ [] := by
  cases key <;> exact List.cons_ne_nil _ _

theorem renamed_nil (key : StorageKey) : renamed (names key) [] = names key := by
  rw [renamed, List.append_nil, List.getLast?_eq_some_getLast (names_ne_nil key),
    Option.getD_some, List.dropLast_append_getLast]

/-! ## The layout -/

def layout (disk : LocalDiskAdapter) : Layout PlainKey CodeUnits where
  body key := disk.root ++ names key.val
  sidecar key := sidecar (disk.root ++ names key.val)

variable {disk : LocalDiskAdapter}

theorem layout_sidecar (key : PlainKey) :
    (layout disk).sidecar key = disk.root ++ renamed (names key.val) metaSuffix := by
  have some_ := names_ne_nil key.val
  show sidecar (disk.root ++ names key.val) = _
  rw [sidecar, List.dropLast_append_of_ne_nil some_, List.getLast?_append_of_ne_nil _ some_,
    renamed, List.append_assoc]

theorem dropLast_body (key : PlainKey) :
    ((layout disk).body key).dropLast = disk.root ++ (names key.val).dropLast :=
  List.dropLast_append_of_ne_nil (names_ne_nil key.val)

theorem layout_apart (disk : LocalDiskAdapter) : (layout disk).Apart where
  beside key := by
    rw [layout_sidecar, dropLast_body, renamed, ← List.append_assoc, List.dropLast_concat]
  body_inj key other same :=
    Subtype.ext (names_inj (List.append_cancel_left same))
  sidecar_inj key other same := by
    rw [layout_sidecar, layout_sidecar] at same
    obtain ⟨fronts, lasts⟩ := List.append_inj' (List.append_cancel_left same) rfl
    refine Subtype.ext (names_inj ?_)
    rw [← renamed_nil key.val, ← renamed_nil other.val, renamed, renamed, fronts,
      List.append_cancel_right (List.cons.inj lasts).1]
  body_ne_sidecar key other same := by
    rw [layout_sidecar] at same
    have equal := List.append_cancel_left same
    have last := congrArg List.getLast? equal
    rw [renamed, List.getLast?_concat] at last
    refine last_notSuffix key.property ?_
    rw [last, Option.getD_some]
    exact List.suffix_append _ _
  body_notAbove key other above := by
    rw [dropLast_body, layout] at above
    have below := (List.prefix_append_right_inj _).mp above
    rw [← renamed_nil] at below
    exact renamed_notAbove key.val other.val [] below
  sidecar_notAbove key other above := by
    rw [dropLast_body, layout_sidecar] at above
    exact renamed_notAbove key.val other.val _ ((List.prefix_append_right_inj _).mp above)

theorem resolve_text (key : PlainKey) :
    disk.resolve key.val.text = .ok ((layout disk).body key) := by
  have isPath := isPath_names key.property
  have relative : key.val.text.head? ≠ some slash := by
    obtain ⟨rest, root | root⟩ := key.val.text_root
    · have begins : ofString "brands/" = 0x62 :: ofString "rands/" := by decide
      rw [root, begins]
      exact fun same => absurd (Option.some.inj same) (by decide)
    · have begins : ofString "merchants/" = 0x6D :: ofString "erchants/" := by decide
      rw [root, begins]
      exact fun same => absurd (Option.some.inj same) (by decide)
  rw [resolve_eq_ok, Files.resolve, if_neg relative, text_eq,
    walk_intercalate isPath (names_ne_nil key.val)]
  exact ⟨rfl, List.prefix_append _ _⟩

/-! ## The table -/

structure Object where
  body : List UInt8
  contentType : CodeUnits
  metadata : List (CodeUnits × CodeUnits)
  bodyAt : Clock
  sidecarAt : Clock

def Object.files (object : Object) : Written (List UInt8) Clock × Written (List UInt8) Clock :=
  (⟨object.body, object.bodyAt⟩,
    ⟨utf8 (metaText object.contentType object.metadata), object.sidecarAt⟩)

abbrev Table := PlainKey → Option Object

def putObject (input : PutObjectInput PlainKey) (times : PutTimes) : Object where
  body := input.body
  contentType := input.contentType
  metadata := input.metadata
  bodyAt := times.bodyAt
  sidecarAt := times.sidecarAt

section Table

variable (sha256 : List UInt8 → Vector UInt8 32)

def stored (key : PlainKey) (object : Object) (storedAt : Clock) : StoredObject where
  key := key.val.text
  size := object.body.length
  contentType := object.contentType
  checksum := checksum sha256 object.body
  storedAt := storedAt

def Table.perform (table : Table) : Request PlainKey → Except Thrown Answer × Table
  | .put input times =>
    (.ok (.stored (stored sha256 input.key (putObject input times) times.storedAt)),
      Function.update table input.key (some (putObject input times)))
  | .get key =>
    ((table key).elim (.error (.errno .noEntry)) fun object => .ok (.body object.body), table)
  | .head key =>
    (.ok (.found ((table key).map fun object => stored sha256 key object object.bodyAt)), table)
  | .delete key => (.ok .deleted, Function.update table key none)

def Table.run (table : Table) : List (Request PlainKey) → List (Except Thrown Answer) × Table
  | [] => ([], table)
  | request :: rest =>
    let done := table.perform sha256 request
    let others := Table.run done.2 rest
    (done.1 :: others.1, others.2)

end Table

def texts (requests : List (Request PlainKey)) : List (Request CodeUnits) :=
  requests.map (Request.map fun key => key.val.text)

/-! ## The disk is a table -/

def Represents (disk : LocalDiskAdapter) (tree : Tree) (table : Table) : Prop :=
  (layout disk).Holds tree fun key => (table key).map Object.files

/-- Nothing is below the root, and no file stands where it is to be. -/
structure Fresh (disk : LocalDiskAdapter) (tree : Tree) : Prop where
  below : ∀ path, disk.root <+: path → path ≠ disk.root → tree.node path = none
  above : ∀ path, path <+: disk.root → tree.isFile path = false

theorem represents_fresh {tree : Tree} (fresh : Fresh disk tree) :
    Represents disk tree fun _ => none where
  body key := by
    refine fresh.below _ (List.prefix_append _ _) ?_
    intro same
    exact names_ne_nil key.val (List.append_right_eq_self.mp same)
  sidecar key := by
    rw [layout_sidecar]
    refine fresh.below _ (List.prefix_append _ _) ?_
    intro same
    have nothing := List.append_right_eq_self.mp same
    rw [renamed] at nothing
    exact absurd (List.append_eq_nil_iff.mp nothing).2 (List.cons_ne_nil _ _)
  clear key path above := by
    rw [dropLast_body] at above
    rcases List.prefix_or_prefix_of_prefix above (List.prefix_append _ _) with higher | lower
    · exact fresh.above path higher
    · by_cases same : path = disk.root
      · rw [same]
        exact fresh.above _ (List.prefix_refl _)
      · rw [FileSystem.isFile, fresh.below path lower same]

theorem contentTypeOf_metaText (contentType : CodeUnits) (metadata : List (CodeUnits × CodeUnits)) :
    contentTypeOf (.ok (utf8 (metaText contentType metadata))) = contentType := by
  have wellFormed : WellFormed (metaText contentType metadata) :=
    wellFormed_write (fun time => wellFormed_ofString _) _
  have reads : Json.read (metaText contentType metadata) = _ := read_write plain_clock _
  rw [contentTypeOf, Except.toOption, Option.bind_some, fromUtf8_utf8 wellFormed, parseJson, reads]
  rfl

theorem map_update (table : Table) (key : PlainKey) (object : Option Object) :
    (fun other => (Function.update table key object other).map Object.files) =
      Function.update (fun other => (table other).map Object.files) key
        (object.map Object.files) := by
  funext other
  by_cases same : other = key
  · rw [same, Function.update_self, Function.update_self]
  · rw [Function.update_of_ne same, Function.update_of_ne same]

variable (sha256 : List UInt8 → Vector UInt8 32) {tree : Tree} {table : Table}

theorem get_eq (represents : Represents disk tree table) (key : PlainKey) :
    get disk tree key.val.text =
      (table key).elim (.error (.errno .noEntry)) fun object => .ok object.body := by
  rw [get, resolve_text]
  simp only [represents.readFile_body]
  cases table key <;> rfl

theorem head_eq (represents : Represents disk tree table) (key : PlainKey) :
    head sha256 disk tree key.val.text =
      .ok ((table key).map fun object => stored sha256 key object object.bodyAt) := by
  have beside := represents.readFile_sidecar (layout_apart disk) key
  rw [head, resolve_text]
  simp only [FileSystem.stat, represents.lookup_body]
  cases found : table key with
  | none => rfl
  | some object =>
    rw [found] at beside
    have meta_ : tree.readFile (sidecar ((layout disk).body key)) =
        .ok (utf8 (metaText object.contentType object.metadata)) := beside
    simp only [Option.map_some, Option.elim_some, meta_, contentTypeOf_metaText]
    rfl

theorem put_eq (represents : Represents disk tree table) (input : PutObjectInput PlainKey)
    (times : PutTimes) :
    ∃ after, put sha256 disk tree { input with key := input.key.val.text } times =
        (.ok (stored sha256 input.key (putObject input times) times.storedAt), after) ∧
      Represents disk after (Function.update table input.key (some (putObject input times))) := by
  have wrote := represents.writeBoth_eq (layout_apart disk) input.key (putObject input times).files
  refine ⟨(layout disk).written tree input.key (putObject input times).files, ?_, ?_⟩
  rotate_left
  · rw [Represents, map_update]
    exact represents.written (layout_apart disk) input.key (putObject input times).files
  · rw [put]
    simp only [resolve_text]
    have called : tree.writeBoth ((layout disk).body input.key)
        (sidecar ((layout disk).body input.key)) (⟨input.body, times.bodyAt⟩,
          ⟨utf8 (metaText input.contentType input.metadata), times.sidecarAt⟩) = _ := wrote
    rw [called]
    rfl

theorem delete_eq (represents : Represents disk tree table) (key : PlainKey) :
    ∃ after, delete disk tree key.val.text = (.ok (), after) ∧
      Represents disk after (Function.update table key none) := by
  obtain ⟨after, done, holds⟩ := represents.removeBoth (layout_apart disk) key
  refine ⟨after, ?_, ?_⟩
  · have called : tree.removeBoth ((layout disk).body key)
        (sidecar ((layout disk).body key)) = _ := done
    rw [delete, resolve_text]
    simp only [called]
    rfl
  · rw [Represents, map_update]
    exact holds

/-- One call on the disk is one on the table. -/
theorem perform_refines (represents : Represents disk tree table) (request : Request PlainKey) :
    let done := perform sha256 disk tree (request.map fun key => key.val.text)
    done.1 = (table.perform sha256 request).1 ∧
      Represents disk done.2 (table.perform sha256 request).2 := by
  cases request with
  | put input times =>
    obtain ⟨after, done, holds⟩ := put_eq sha256 represents input times
    simp only [Request.map, perform, done]
    exact ⟨rfl, holds⟩
  | get key =>
    simp only [Request.map, perform, get_eq represents]
    refine ⟨?_, represents⟩
    rw [Table.perform]
    cases table key <;> rfl
  | head key =>
    simp only [Request.map, perform, head_eq sha256 represents]
    exact ⟨rfl, represents⟩
  | delete key =>
    obtain ⟨after, done, holds⟩ := delete_eq represents key
    simp only [Request.map, perform, done]
    exact ⟨rfl, holds⟩

theorem run_refines (represents : Represents disk tree table) (requests : List (Request PlainKey)) :
    (run sha256 disk tree (texts requests)).1 = (table.run sha256 requests).1 ∧
      Represents disk (run sha256 disk tree (texts requests)).2 (table.run sha256 requests).2 := by
  induction requests generalizing tree table with
  | nil => exact ⟨rfl, represents⟩
  | cons request rest ih =>
    obtain ⟨same, holds⟩ := perform_refines sha256 represents request
    obtain ⟨others, last⟩ := ih holds
    exact ⟨congrArg₂ List.cons same others, last⟩

/-- From an empty root on, every answer of the disk is that of the table. -/
theorem localDisk_refines (fresh : Fresh disk tree) (requests : List (Request PlainKey)) :
    (run sha256 disk tree (texts requests)).1 =
      (Table.run sha256 (fun _ => none) requests).1 :=
  (run_refines sha256 (represents_fresh fresh) requests).1

/-! ## A key -/

theorem fresh_emptyTree : Fresh sampleDisk emptyTree := ⟨fun _ _ _ => rfl, fun _ _ => rfl⟩

def sampleLogo : PlainKey :=
  ⟨.brandLogo (ofString "b1") (ofString "logo.png"), ⟨by decide, wellFormed_ofString _⟩,
    ⟨by decide, wellFormed_ofString _⟩, by decide⟩

def samplePut : PutObjectInput PlainKey where
  key := sampleLogo
  body := [0x89, 0x50]
  contentType := ofString "image/png"

theorem localDisk_refines_sample :
    (run sampleSha256 sampleDisk emptyTree
        (texts [.put samplePut sampleTimes, .get sampleLogo, .delete sampleLogo, .head sampleLogo])).1 =
      [.ok (.stored (stored sampleSha256 sampleLogo (putObject samplePut sampleTimes)
          sampleTimes.storedAt)),
        .ok (.body [0x89, 0x50]), .ok .deleted, .ok (.found none)] :=
  (localDisk_refines sampleSha256 fresh_emptyTree _).trans rfl

/-! ## Signed URLs of objects -/

structure Response where
  contentType : CodeUnits
  cacheControl : CodeUnits
  contentDisposition : Option CodeUnits
  body : List UInt8
deriving DecidableEq

def isHeaderValue (value : CodeUnits) : Bool :=
  value.all fun unit => unit = 0x09 || 0x20 ≤ unit.toNat && unit.toNat ≤ 0x7E ||
    0x80 ≤ unit.toNat && unit.toNat ≤ 0xFF

/-- `setHeader` throws where a value has other letters. -/
def headerValue (value : CodeUnits) : Except Thrown CodeUnits :=
  if isHeaderValue value then .ok value else .error .header

def disposition (filename : CodeUnits) : CodeUnits :=
  ofString "attachment; filename=\"" ++ filename.filter (· ≠ quotationMark) ++ [quotationMark]

def respond (contentType : CodeUnits) (filename : Option CodeUnits) (body : List UInt8) :
    Except Thrown Response := do
  let type ← headerValue contentType
  let named ← (filename.filter fun name => name ≠ []).mapM fun name => headerValue (disposition name)
  pure {
    contentType := type
    cacheControl := ofString "private, no-store"
    contentDisposition := named
    body := body }

theorem respond_eq (contentType : CodeUnits) (filename : Option CodeUnits) (body : List UInt8) :
    respond contentType filename body =
      let named := (filename.filter fun name => name ≠ []).map disposition
      if isHeaderValue contentType && named.all isHeaderValue then
        .ok ⟨contentType, ofString "private, no-store", named, body⟩
      else .error .header := by
  unfold respond headerValue
  generalize (filename.filter fun name => name ≠ []) = name
  cases type : isHeaderValue contentType with
  | false => rfl
  | true =>
    cases name with
    | none => rfl
    | some name =>
      cases letters : isHeaderValue (disposition name) <;> simp [letters] <;> rfl

section Serve

variable (hmac : CodeUnits → List UInt8 → Vector UInt8 32) (driver : StorageDriver)
  (secret : CodeUnits)

/-- `serve`: what is refused and what is not there are not found alike. -/
def serve (disk : LocalDiskAdapter) (tree : Tree) (url : SignedUrl) (now : Clock) :
    Except Thrown (Option Response) :=
  if !admits hmac driver secret url now then .ok none
  else
    match head sha256 disk tree url.key with
    | .error refused => .error refused
    | .ok none => .ok none
    | .ok (some found) =>
      match get disk tree url.key with
      | .error refused => .error refused
      | .ok body => (respond found.contentType url.filename body).map some

end Serve

theorem wellFormed_text (key : PlainKey) : WellFormed key.val.text := by
  obtain ⟨key, plain⟩ := key
  cases key with
  | invoicePdf brandId invoiceId contentVersion =>
    exact (wellFormed_ofString _).append (((((plain.1.2.append (wellFormed_ofString _)).append
      plain.2.1.2).append (wellFormed_ofString _)).append plain.2.2.2).append
        (wellFormed_ofString _))
  | receiptPdf brandId paymentId =>
    exact (wellFormed_ofString _).append (((plain.1.2.append (wellFormed_ofString _)).append
      plain.2.2).append (wellFormed_ofString _))
  | brandLogo brandId filename =>
    exact (wellFormed_ofString _).append ((plain.1.2.append (wellFormed_ofString _)).append
      plain.2.1.2)
  | merchantLogo merchantId filename =>
    exact (wellFormed_ofString _).append ((plain.1.2.append (wellFormed_ofString _)).append
      plain.2.1.2)
  | checkImage brandId submissionId side =>
    exact (wellFormed_ofString _).append ((((plain.1.2.append (wellFormed_ofString _)).append
      plain.2.2).append (wellFormed_ofString _)).append (wellFormed_ofString _))
  | invoiceAttachment brandId invoiceId filename =>
    exact (wellFormed_ofString _).append ((((plain.1.2.append (wellFormed_ofString _)).append
      plain.2.1.2).append (wellFormed_ofString _)).append plain.2.2.1.2)

/-- After any calls a signed URL serves the object that the table then has, up to the second it
expires at; a type or a file name that no header takes makes it an error. -/
theorem signedUrl_serves (hmac : CodeUnits → List UInt8 → Vector UInt8 32) (secret : CodeUnits)
    (fresh : Fresh disk tree) (requests : List (Request PlainKey)) (key : PlainKey)
    (options : SignedUrlOptions) (iat now : Clock) :
    let url := getSignedUrl hmac secret key.val options iat
    let named := (url.filename.filter fun name => name ≠ []).map disposition
    serve sha256 hmac .local_ secret disk (run sha256 disk tree (texts requests)).2 url now =
      if floorSeconds now ≤ expiresAt options iat then
        match (Table.run sha256 (fun _ => none) requests).2 key with
        | none => .ok none
        | some object =>
          if isHeaderValue object.contentType && named.all isHeaderValue then
            .ok (some ⟨object.contentType, ofString "private, no-store", named, object.body⟩)
          else .error .header
      else .ok none := by
  intro url named
  have represents := (run_refines sha256 (represents_fresh fresh) requests).2
  have carriedKey : url.key = key.val.text := fromUtf8_utf8 (wellFormed_text key)
  rw [serve, admits_getSignedUrl, carriedKey, head_eq sha256 represents, get_eq represents]
  by_cases early : floorSeconds now ≤ expiresAt options iat
  · rw [decide_eq_true early, if_pos early, if_neg (by decide)]
    cases (Table.run sha256 (fun _ => none) requests).2 key with
    | none => rfl
    | some object =>
      have answer := respond_eq object.contentType url.filename object.body
      simp only [Option.map_some, Option.elim_some, stored, answer]
      split <;> rfl
  · rw [decide_eq_false early, if_neg early]
    rfl

theorem signedUrl_serves_sample :
    let options : SignedUrlOptions := ⟨3600, none, by decide⟩
    let url := getSignedUrl sampleHmac (ofString "secret") sampleLogo.val options
      sampleTimes.storedAt
    serve sampleSha256 sampleHmac .local_ (ofString "secret") sampleDisk
        (run sampleSha256 sampleDisk emptyTree (texts [.put samplePut sampleTimes])).2 url
        sampleTimes.storedAt =
      if floorSeconds sampleTimes.storedAt ≤ expiresAt options sampleTimes.storedAt then
        .ok (some ⟨ofString "image/png", ofString "private, no-store", none, [0x89, 0x50]⟩)
      else .ok none :=
  signedUrl_serves sampleSha256 sampleHmac (ofString "secret") fresh_emptyTree
    [.put samplePut sampleTimes] sampleLogo ⟨3600, none, by decide⟩ sampleTimes.storedAt
    sampleTimes.storedAt

end MultiBrandInvoicing.DiskStorage
