import CaseRunner.Case.Writing
import CaseRunner.Proofs.Request.Reading
import CaseRunner.Sending.Payload

/-!
# What becomes of the body and the files

The body of a request is made by the type of body that its section names, and the files
are listed by a field of their own; each refuses what it cannot use. `Body.Encodes` says
for each type what a body is made of, and `bodyOf_eq_ok_iff` that this is what is made;
`exists_of_filesFrom` says which files a request has.

What goes over the wire is put together from the two at a third place, where a request
with files has no room for a body that is no form. It needs none
(`Request.body_of_files`): everything that a section asks to be sent is sent
(`Request.sendsAll_of_accepted`).
-/

namespace CaseRunner

/-! ## Lists of paths -/

/-- Item by item what a map makes, and with a property, is the map of the list. -/
theorem forall₂_eq_and_iff {α β : Type} {g : α → β} {P : β → Prop} {as : List α}
    {bs : List β} :
    List.Forall₂ (fun a b => b = g a ∧ P b) as bs ↔ bs = as.map g ∧ ∀ b ∈ bs, P b := by
  induction as generalizing bs with
  | nil => cases bs <;> simp
  | cons a as ih =>
    cases bs with
    | nil => simp
    | cons b bs => simp [ih, and_assoc, and_left_comm]

/-- Which documents are lists of paths: those with nothing but texts in them. -/
theorem Schema.list_text_eq_ok_iff {d : Document} {paths : List String} :
    list text d = .ok paths ↔ d = .list (paths.map .text) := by
  constructor
  · intro h
    obtain ⟨items, rfl, read⟩ := of_list h
    have all := mapM_eq_ok_iff.mp read
    simp only [text_eq_ok_iff] at all
    rw [← List.forall₂_map_right_iff, List.forall₂_eq_eq_eq] at all
    exact congrArg Document.list all
  · rintro rfl
    show (paths.map Document.text).mapM text = _
    rw [mapM_eq_ok_iff, List.forall₂_map_left_iff, List.forall₂_same]
    exact fun path _ => rfl

theorem Schema.either_of_second {α : Type} {type : String} {fault : ReadFault} {a : α}
    {first second : Document → Except ReadFault α} {d : Document}
    (hfirst : first d = .error fault) (hsecond : second d = .ok a) :
    either type first second d = .ok a := by
  unfold either
  rw [hfirst]
  dsimp only
  rw [hsecond]

/-- **Which documents are one path or several.** A single path and a list of one path are
different documents, and the series that is read keeps the difference, so that a document
is known from what was read of it. -/
theorem Schema.series_text_eq_ok_iff {d : Document} {paths : Series String} :
    series text d = .ok paths ↔ d = paths.toDocument .text := by
  constructor
  · intro h
    rcases of_either h with h | h
    · obtain ⟨path, read, rfl⟩ := map_eq_ok_iff.mp h
      exact text_eq_ok_iff.mp read
    · obtain ⟨paths, read, rfl⟩ := map_eq_ok_iff.mp h
      exact list_text_eq_ok_iff.mp read
  · rintro rfl
    cases paths with
    | single path => rfl
    | several paths =>
      exact either_of_second rfl (map_eq_ok_iff.mpr ⟨_, list_text_eq_ok_iff.mpr rfl, rfl⟩)

/-! ## Bodies -/

/-- **What a body is made of**, by the type of body. The members of a mapping are in the
order of their names.

A text is sent as it is for a type of text, and any other document is written out. For JSON
a text is written out as well, between quotes. Bytes are listed as whole numbers below 256,
or are the content of a file by its path. -/
def Body.Encodes (fs : FileSystem) (filesDir : String) (d : Document) (body : Body) :
    BodyType → Prop
  | .json => body = .bytes (Text.encode d.render)
  | .graphql =>
    (∃ query, d.get? "query" = some (.text query)) ∧ body = .bytes (Text.encode d.render)
  | .binary =>
    (∃ path content, d = .text path
        ∧ fs.find (FileSystem.join filesDir path) = .ok (.file content)
        ∧ body = .bytes content.toBytes)
      ∨ ∃ bs : List UInt8, d = .list (bs.map fun b => .int b.toNat) ∧ body = .bytes bs
  | .form => ∃ members, d = .mapping members ∧ body = .form (displayed members)
  | .urlencoded => ∃ members, d = .mapping members ∧ body = .urlEncoded (displayed members)
  | .text | .script | .html | .xml =>
    (∃ s, d = .text s ∧ body = .text s) ∨ (∀ s, d ≠ .text s) ∧ body = .text d.render

/-- A document that is given makes a body. -/
theorem Body.not_encodes_none {fs : FileSystem} {filesDir : String} {d : Document}
    {t : BodyType} : ¬ Body.none.Encodes fs filesDir d t := by
  cases t <;> simp [Encodes]

namespace FileSystem

variable {fs : FileSystem} {path : String} {content : Content}

theorem isFile_iff : fs.isFile path = true ↔ ∃ content, fs.find path = .ok (.file content) := by
  unfold isFile
  split
  next content found => exact ⟨fun _ => ⟨content, found⟩, fun _ => rfl⟩
  next other => exact ⟨nofun, fun ⟨content, found⟩ => absurd found (other content)⟩

theorem read_eq_ok_iff : fs.read path = .ok content ↔ fs.find path = .ok (.file content) := by
  unfold read
  rw [bind_eq_ok_iff]
  constructor
  · rintro ⟨entry, found, h⟩
    cases entry with
    | directory => cases h
    | file content' =>
      cases h
      exact found
  · exact fun found => ⟨_, found, rfl⟩

end FileSystem

namespace Request

variable {fields : Fields} {d : Document} {config : Config} {store : Store} {fs : FileSystem}
  {defaults : RequestDefaults} {filesDir location : String} {r : Request} {t : BodyType}
  {t? : Option BodyType} {body : Body} {files : List (String × String)}

/-- **Where a file that is sent is found.** It must be there when the request is read,
which does not mean that it is still there when the request is sent. -/
theorem locateFile_eq_ok_iff {path full : String} :
    locateFile fs filesDir path = .ok full ↔
      full = FileSystem.join filesDir path ∧ fs.isFile full = true := by
  unfold locateFile
  dsimp only
  split
  next there =>
    exact ⟨fun h => Except.ok.inj h ▸ ⟨rfl, there⟩, fun ⟨h, _⟩ => congrArg Except.ok h.symm⟩
  next missing => exact ⟨nofun, fun ⟨h, there⟩ => absurd (h ▸ there) missing⟩

theorem byte?_int (n : Int) : byte? (.int n) = (n.toNat?.filter (· < 256)).map UInt8.ofNat := rfl

/-- A byte is a whole number of eight bits, written as such. -/
theorem byte?_eq_some_iff {b : UInt8} : byte? d = some b ↔ d = .int b.toNat := by
  constructor
  · intro h
    cases d with
    | null | bool | text | list | mapping => cases h
    | number n =>
      cases n with
      | float x => cases h
      | int n =>
        rw [byte?_int] at h
        obtain ⟨m, hm, rfl⟩ := Option.map_eq_some_iff.mp h
        obtain ⟨hm, small⟩ := Option.filter_eq_some_iff.mp hm
        obtain rfl := Int.mem_toNat?.mp hm
        rw [UInt8.toNat_ofNat_of_lt' (by simpa using small)]
  · rintro rfl
    have small : b.toNat < 256 := b.toNat_lt
    have natural : (b.toNat : Int).toNat? = some b.toNat := rfl
    rw [byte?_int, natural, Option.filter_some, if_pos (decide_eq_true small), Option.map_some,
      UInt8.ofNat_toNat]

theorem mapM_byte?_eq_some_iff {items : List Document} {bs : List UInt8} :
    items.mapM byte? = some bs ↔ items = bs.map fun b => .int b.toNat := by
  induction items generalizing bs with
  | nil => cases bs <;> simp
  | cons d items ih =>
    simp only [List.mapM_cons, Option.pure_def, Option.bind_eq_bind, Option.bind_eq_some_iff,
      byte?_eq_some_iff, ih, Option.some.injEq]
    constructor
    · rintro ⟨b, rfl, bs, rfl, rfl⟩
      rfl
    · intro h
      cases bs with
      | nil => cases h
      | cons b bs =>
        obtain ⟨rfl, rfl⟩ := List.cons.inj h
        exact ⟨b, rfl, bs, rfl, rfl⟩

/-- A binary body is the content of a file, or bytes that are listed. -/
theorem binaryBody_eq_ok_iff :
    binaryBody fs filesDir d = .ok body ↔ body.Encodes fs filesDir d .binary := by
  unfold Body.Encodes
  cases d with
  | null | bool | number | mapping => simp [binaryBody]
  | text path =>
    show (locateFile fs filesDir path >>= _) = _ ↔ _
    rw [bind_eq_ok_iff]
    constructor
    · rintro ⟨full, located, h⟩
      obtain ⟨rfl, -⟩ := locateFile_eq_ok_iff.mp located
      split at h
      next content found =>
        cases h
        exact .inl ⟨path, content, rfl, FileSystem.read_eq_ok_iff.mp found, rfl⟩
      next => cases h
    · rintro (⟨path, content, h, there, rfl⟩ | ⟨_, h, -⟩)
      · cases h
        refine ⟨_, locateFile_eq_ok_iff.mpr ⟨rfl, FileSystem.isFile_iff.mpr ⟨_, there⟩⟩, ?_⟩
        rw [FileSystem.read_eq_ok_iff.mpr there]
        rfl
      · cases h
  | list items =>
    simp only [binaryBody]
    constructor
    · intro h
      split at h
      next bs read =>
        cases h
        exact .inr ⟨bs, congrArg Document.list (mapM_byte?_eq_some_iff.mp read), rfl⟩
      next => cases h
    · rintro (⟨_, _, h, -⟩ | ⟨bs, h, rfl⟩)
      · cases h
      · rw [mapM_byte?_eq_some_iff.mpr (Document.list.inj h)]

/-- A body of named values has a pair for each member of a mapping. -/
theorem namedBody_eq_ok_iff {make : List (String × String) → Body} :
    namedBody make d = .ok body ↔
      ∃ members, d = .mapping members ∧ body = make (displayed members) := by
  cases d with
  | mapping members =>
    constructor
    · exact fun h => ⟨members, rfl, (Except.ok.inj h).symm⟩
    · rintro ⟨_, h, rfl⟩
      cases h
      rfl
  | null | bool | number | text | list => exact ⟨nofun, nofun⟩

/-- **The body that is made is the one that the type says.** Both directions count: what
the type asks for is made, and nothing is made where the document is not of that kind. -/
theorem bodyOf_eq_ok_iff :
    bodyOf fs filesDir d t = .ok body ↔ body.Encodes fs filesDir d t := by
  have textual : Except.ok (ε := String) (.text (d.text?.getD d.render)) = .ok body ↔
      (∃ s, d = .text s ∧ body = .text s) ∨ (∀ s, d ≠ .text s) ∧ body = .text d.render := by
    cases d <;> simp [Document.text?, eq_comm]
  cases t with
  | json => exact ⟨fun h => (Except.ok.inj h).symm, fun h => congrArg Except.ok h.symm⟩
  | graphql =>
    simp only [bodyOf, Body.Encodes]
    split
    next query found =>
      exact ⟨fun h => ⟨⟨query, found⟩, (Except.ok.inj h).symm⟩,
        fun h => congrArg Except.ok h.2.symm⟩
    next other =>
      constructor
      · intro h
        cases h
      · rintro ⟨⟨query, found⟩, -⟩
        exact absurd found (other query)
  | binary => exact binaryBody_eq_ok_iff
  | form | urlencoded => exact namedBody_eq_ok_iff
  | text | script | html | xml => exact textual

/-- **When there is a body, and which.** There is one exactly if the section gives one, and
then it must name a type, for there is no type by default. -/
theorem bodyFrom_eq_ok_iff :
    bodyFrom fs filesDir fields t? = .ok body ↔
      ((Document.mapping fields).Lacks "body" ∧ body = .none)
        ∨ ∃ d t, Document.field? "body" fields = some d ∧ d ≠ .null ∧ t? = some t
          ∧ body.Encodes fs filesDir d t := by
  unfold bodyFrom Document.Lacks Document.get?
  dsimp only
  split
  next absent => simp [absent, eq_comm]
  next null => simp [null, eq_comm]
  next d hnull found =>
    have given : d ≠ .null := hnull
    cases t? with
    | none => simp [found, given]
    | some t =>
      simp only [mapError_eq_ok_iff, bodyOf_eq_ok_iff]
      simp [found, given]

/-! ## Files -/

/-- The files that a mapping of names to paths lists, in its order, under each name in
the order of its list. -/
def listedFiles (filesDir : String) (listed : List (String × Series String)) :
    List (String × String) :=
  listed.flatMap fun (name, paths) =>
    paths.toList.map fun path => (name, FileSystem.join filesDir path)

/-- The members that list files. -/
def listing (listed : List (String × Series String)) : Fields :=
  listed.map fun (name, paths) => (name, paths.toDocument .text)

/-- **The files under one name** are there, each once and in the order of the list. A name
may have several files, and a file may stand under several names. -/
theorem filesUnder_eq_ok_iff {name : String} :
    filesUnder fs filesDir (name, d) = .ok files ↔
      ∃ paths : Series String, d = paths.toDocument .text
        ∧ files = paths.toList.map (fun path => (name, FileSystem.join filesDir path))
        ∧ ∀ file ∈ files, fs.isFile file.2 = true := by
  have each (fault : String → RequestFault) (path : String) (file : String × String) :
      (do let full ← (locateFile fs filesDir path).mapError fault
          return (name, full) : Except RequestFault _) = .ok file ↔
        file = (name, FileSystem.join filesDir path) ∧ fs.isFile file.2 = true := by
    rw [bind_eq_ok_iff]
    simp only [mapError_eq_ok_iff, locateFile_eq_ok_iff]
    constructor
    · rintro ⟨full, ⟨rfl, there⟩, h⟩
      cases h
      exact ⟨rfl, there⟩
    · rintro ⟨rfl, there⟩
      exact ⟨_, ⟨rfl, there⟩, rfl⟩
  unfold filesUnder
  dsimp only
  rw [bind_eq_ok_iff]
  simp only [mapError_eq_ok_iff, Schema.series_text_eq_ok_iff, mapM_eq_ok_iff, each,
    forall₂_eq_and_iff]

theorem exists_listing {members : Fields} {under : List (List (String × String))}
    (h : List.Forall₂ (fun member files => filesUnder fs filesDir member = .ok files)
      members under) :
    ∃ listed, members = listing listed ∧ under.flatten = listedFiles filesDir listed
      ∧ ∀ file ∈ under.flatten, fs.isFile file.2 = true := by
  induction h with
  | nil => exact ⟨[], rfl, rfl, nofun⟩
  | @cons member files members under hmember hmembers ih =>
    obtain ⟨name, d⟩ := member
    obtain ⟨paths, rfl, rfl, there⟩ := filesUnder_eq_ok_iff.mp hmember
    obtain ⟨listed, rfl, hunder, all⟩ := ih
    refine ⟨(name, paths) :: listed, rfl, ?_, ?_⟩
    · rw [List.flatten_cons, hunder]
      rfl
    · rw [List.flatten_cons]
      exact List.forall_mem_append.mpr ⟨there, all⟩

/-- **Only a form, or a request whose type of body is not said, has room for files.** A
section that names another type and lists files is refused, also if it gives no body. -/
theorem hasRoom_iff : t?.all (· == .form) = true ↔ t? = none ∨ t? = some BodyType.form := by
  cases t? <;> simp

/-- **Which files there are**: those under each of the names that the section lists. An
empty mapping lists none, and then the type of body is of no account. -/
theorem filesFrom_eq_ok_iff :
    filesFrom fs filesDir fields t? = .ok files ↔
      ((Document.mapping fields).Lacks "files" ∧ files = [])
        ∨ ∃ members under, Document.field? "files" fields = some (.mapping members)
          ∧ (Document.ofPairs members ≠ [] → t? = none ∨ t? = some .form)
          ∧ List.Forall₂ (fun member files => filesUnder fs filesDir member = .ok files)
              (Document.ofPairs members) under
          ∧ files = under.flatten := by
  unfold filesFrom
  rw [bind_eq_ok_iff]
  constructor
  · rintro ⟨declared?, hread, h⟩
    rcases field?_eq_ok_iff.mp hread with ⟨rfl, lacks⟩ | ⟨d, declared, found, -, read, rfl⟩
    · cases h
      exact .inl ⟨lacks, rfl⟩
    obtain ⟨members, rfl, rfl⟩ := Schema.fields_eq_ok_iff.mp read
    refine .inr ⟨members, ?_⟩
    split at h
    next absent => cases absent
    -- an empty mapping lists nothing, whatever the type of body
    next empty =>
      cases h
      have empty : Document.ofPairs members = [] := Option.some.inj empty
      rw [empty]
      exact ⟨[], found, absurd rfl, .nil, rfl⟩
    next declared _ filled =>
      cases filled
      split at h
      next room =>
        obtain ⟨under, hunder, h⟩ := bind_eq_ok_iff.mp h
        cases h
        exact ⟨under, found, fun _ => hasRoom_iff.mp room, mapM_eq_ok_iff.mp hunder, rfl⟩
      next => cases h
  · rintro (⟨lacks, rfl⟩ | ⟨members, under, found, room, hunder, rfl⟩)
    · exact ⟨none, field?_eq_ok_iff.mpr (.inl ⟨rfl, lacks⟩), rfl⟩
    refine ⟨some (Document.ofPairs members), field?_eq_ok_iff.mpr (.inr ⟨_, _, found, nofun,
      Schema.fields_eq_ok_iff.mpr ⟨members, rfl, rfl⟩, rfl⟩), ?_⟩
    split
    next absent => cases absent
    next empty =>
      have empty : Document.ofPairs members = [] := Option.some.inj empty
      rw [empty, List.forall₂_nil_left_iff] at hunder
      rw [hunder]
      rfl
    next declared filled some =>
      cases some
      rw [if_pos (hasRoom_iff.mpr (room fun empty => filled empty))]
      exact bind_eq_ok_iff.mpr ⟨under, mapM_eq_ok_iff.mpr hunder, rfl⟩

/-- **The files of a request** are those that its section lists, and only a form has room
for them. This is the same as before, put so that each of the facts can be used by itself.
-/
theorem exists_of_filesFrom (h : filesFrom fs filesDir fields t? = .ok files) :
    ((Document.mapping fields).Lacks "files"
        ∨ ∃ members, Document.field? "files" fields = some (.mapping members))
      ∧ (∃ listed, (Document.mapping fields).membersOf "files" = listing listed
        ∧ files = listedFiles filesDir listed)
      ∧ (∀ file ∈ files, fs.isFile file.2 = true)
      ∧ (files ≠ [] → t? = none ∨ t? = some .form) := by
  rcases filesFrom_eq_ok_iff.mp h with ⟨lacks, rfl⟩ | ⟨members, under, found, room, hunder, rfl⟩
  · exact ⟨.inl lacks, ⟨[], lacks.membersOf, rfl⟩, nofun, absurd rfl⟩
  · obtain ⟨listed, hlisted, hfiles, there⟩ := exists_listing hunder
    rw [Document.membersOf_of_field? found]
    refine ⟨.inr ⟨members, found⟩, ⟨listed, hlisted, hfiles⟩, there, fun filled => room ?_⟩
    intro empty
    rw [empty, List.forall₂_nil_left_iff] at hunder
    rw [hunder] at filled
    exact filled rfl

/-- **Files go with a form or with no body.** The body and the files are read separately,
and each of them asks the type of body; here the two come together. -/
theorem body_of_files (hbody : bodyFrom fs filesDir fields t? = .ok body)
    (hfiles : filesFrom fs filesDir fields t? = .ok files) (filled : files ≠ []) :
    body = .none ∨ ∃ pairs, body = .form pairs := by
  obtain ⟨-, -, -, room⟩ := exists_of_filesFrom hfiles
  rcases bodyFrom_eq_ok_iff.mp hbody with ⟨-, rfl⟩ | ⟨d, t, -, -, rfl, encodes⟩
  · exact .inl rfl
  · rcases room filled with h | h
    · cases h
    · cases h
      obtain ⟨members, -, rfl⟩ := encodes
      exact .inr ⟨_, rfl⟩

end Request

/-! ## What is sent -/

/-- **A part sends a file** under its field, with its name and its content. -/
def Part.Sends (now : FileSystem) (file : String × String) (part : Part) : Prop :=
  ∃ content, now.find file.2 = .ok (.file content)
    ∧ part = .file file.1 ((FileSystem.fileName? file.2).getD file.1) content.toBytes

/-- **What carries a body and files**: the body as it is where there are no files, and
otherwise a part for each field and for each file, with the content that the file has now.

A form without files is sent in parts as well. There is no way to carry files beside a body
that is no form. -/
inductive Payload.Carries (now : FileSystem) :
    Body → List (String × String) → Payload → Prop
  | whole {body : Body} (other : ∀ pairs, body ≠ .form pairs) :
      Carries now body [] (.whole body)
  | files {files : List (String × String)} {parts : List Part}
      (each : List.Forall₂ (fun file part => part.Sends now file) files parts) :
      Carries now .none files (.parts parts)
  | form {pairs files : List (String × String)} {parts : List Part}
      (each : List.Forall₂ (fun file part => part.Sends now file) files parts) :
      Carries now (.form pairs) files
        (.parts (pairs.map (fun (name, value) => .field name value) ++ parts))

namespace Request

variable {d : Document} {config : Config} {store : Store} {fs now : FileSystem}
  {defaults : RequestDefaults} {location : String} {r : Request} {p : Payload}

theorem filePart_eq_ok_iff {file : String × String} {part : Part} :
    filePart now file = .ok part ↔ part.Sends now file := by
  unfold Part.Sends
  simp only [← FileSystem.read_eq_ok_iff]
  unfold filePart
  split
  next content read => simp [read, eq_comm]
  next fault read => simp [read]

/-- **Which file keeps the parts from being sent**: the first of the list that cannot be
read. -/
theorem mapM_filePart_eq_error_iff {files : List (String × String)} {reason : String} :
    files.mapM (filePart now) = .error reason ↔
      files.findSome? (fun (_, path) =>
        match now.read path with
        | .ok _ => none
        | .error e => some ("cannot read " ++ Text.inQuotes path ++ ": " ++ e.reason))
      = some reason := by
  induction files with
  | nil => exact ⟨nofun, nofun⟩
  | cons file files ih =>
    obtain ⟨field, path⟩ := file
    rw [List.mapM_cons, bind_eq_error_iff, List.findSome?_cons]
    cases read : now.read path with
    | error fault =>
      simp [filePart, read]
    | ok content =>
      simp only [filePart, read, reduceCtorEq, false_or, Except.ok.injEq, ↓existsAndEq,
        true_and, ← ih, bind_eq_error_iff]
      exact or_iff_left fun ⟨_, _, h⟩ => nomatch h

/-- Files are sent in several parts. -/
theorem files_eq_nil (single : ¬ r.isMultipart = true) : r.files = [] := by
  cases files : r.files with
  | nil => rfl
  | cons => simp [isMultipart, files] at single

/-- Only a file that cannot be read keeps the body from being sent. -/
theorem payload_eq_error_iff {reason : String} :
    r.payload now = .error reason ↔ r.filesObstacle? now = some reason := by
  unfold payload
  split
  next =>
    rw [bind_eq_error_iff, mapM_filePart_eq_error_iff]
    exact or_iff_left fun ⟨_, _, h⟩ => nomatch h
  next single =>
    unfold filesObstacle?
    rw [files_eq_nil single]
    exact ⟨nofun, nofun⟩

/-- Files that are there keep nothing from being sent. -/
theorem exists_payload (there : ∀ file ∈ r.files, now.isFile file.2 = true) :
    ∃ p, r.payload now = .ok p := by
  cases sent : r.payload now with
  | ok p => exact ⟨p, rfl⟩
  | error reason =>
    obtain ⟨file, hfile, unread⟩ := List.exists_of_findSome?_eq_some
      (payload_eq_error_iff.mp sent)
    obtain ⟨content, found⟩ := FileSystem.isFile_iff.mp (there file hfile)
    dsimp only at unread
    rw [FileSystem.read_eq_ok_iff.mpr found] at unread
    cases unread

/-- **What is sent carries the body and the files**, if there is room for both. The
condition is needed: put together with a body that is no form, files would be sent and the
body would be dropped without a word. -/
theorem carries_of_payload
    (room : r.files ≠ [] → r.body = .none ∨ ∃ pairs, r.body = .form pairs)
    (h : r.payload now = .ok p) : p.Carries now r.body r.files := by
  unfold payload at h
  split at h
  next multipart =>
    obtain ⟨parts, hparts, h⟩ := bind_eq_ok_iff.mp h
    cases h
    have each := (mapM_eq_ok_iff.mp hparts).imp fun _ _ => filePart_eq_ok_iff.mp
    have form : r.body = .none ∨ ∃ pairs, r.body = .form pairs := by
      by_cases files : r.files = []
      · cases body : r.body <;> simp [isMultipart, files, body] at multipart ⊢
      · exact room files
    rcases form with body | ⟨pairs, body⟩
    · rw [body]
      exact .files each
    · rw [body]
      exact .form each
  next single =>
    cases h
    rw [files_eq_nil single]
    refine .whole fun pairs body => ?_
    simp [isMultipart, body] at single

/-- **Everything that a section asks to be sent is sent.** The facts follow the section on
its way: what body it gives and what is made of it, which files it lists and which the
request has, that the two can go together, and that what goes over the wire has them all.
-/
structure SendsAll (d : Document) (fs : FileSystem) (filesDir : String) (r : Request) : Prop where
  /-- There is no body exactly if the section gives none. -/
  body_eq_none_iff : r.body = .none ↔ d.Lacks "body"
  /-- The body that is given is made as its type says. -/
  encodes : ∀ given, d.get? "body" = some given → given ≠ .null →
    ∃ t, bodyType? d = some t ∧ r.body.Encodes fs filesDir given t
  /-- Files are listed in a mapping, if at all. -/
  lists : d.Lacks "files" ∨ ∃ members, d.get? "files" = some (.mapping members)
  /-- The files are those that are listed. -/
  files_eq : ∃ listed, d.membersOf "files" = listing listed
    ∧ r.files = listedFiles filesDir listed
  /-- With files there is no body but a form. -/
  body_of_files : r.files ≠ [] → r.body = .none ∨ ∃ pairs, r.body = .form pairs
  /-- What is sent, with whatever the files hold by then, carries the body and the files. -/
  carries : ∀ now p, r.payload now = .ok p → p.Carries now r.body r.files
  /-- The files are there to be sent. -/
  exists_payload : ∃ p, r.payload fs = .ok p

/-- **No accepted request loses its body**, and none loses a file. What could be lost is
refused when the section is read.

A body and files could only be in each other's way when they are sent, which is after the
request was accepted. That they never are is a fact about what was accepted
(`body_of_files`), and about two readers that do not know of each other. -/
theorem sendsAll_of_accepted (h : ofDocument d config store fs defaults location = .ok r) :
    r.SendsAll d fs defaults.filesDir := by
  obtain ⟨fields, rfl, -, hbody, hfiles, -⟩ := exists_of_ofDocument h
  have room := Request.body_of_files hbody hfiles
  obtain ⟨lists, listed, there, -⟩ := exists_of_filesFrom hfiles
  have body := bodyFrom_eq_ok_iff.mp hbody
  refine ⟨?_, fun given found filled => ?_, lists, listed, room,
    fun now p => carries_of_payload room, Request.exists_payload there⟩
  · constructor
    · intro none
      rcases body with ⟨lacks, -⟩ | ⟨d, t, -, -, -, encodes⟩
      · exact lacks
      · exact absurd (none ▸ encodes) Body.not_encodes_none
    · intro lacks
      rcases body with ⟨-, none⟩ | ⟨d, t, found, given, -, -⟩
      · exact none
      · exact absurd (lacks.eq_null found) given
  · rcases body with ⟨lacks, -⟩ | ⟨d, t, found', -, type, encodes⟩
    · exact absurd (lacks.eq_null found) filled
    · cases found'.symm.trans found
      exact ⟨t, type, encodes⟩

/-- Two files. -/
def twoFiles : FileSystem where
  entries := [(["files"], .directory), (["files", "a.txt"], .file (.text "A")),
    (["files", "b.bin"], .file (.bytes [0, 255]))]

/-- A section with a form and with files, one of which is listed twice. -/
def uploading : Document :=
  .mapping [("body", .mapping [("k", .int 1)]), ("body_type", .text "form"),
    ("files", .mapping [("f", .list [.text "b.bin", .text "a.txt"]), ("g", .text "a.txt")]),
    ("method", .text "POST"), ("url", .text "http://h/a")]

/-- A form that is sent with three files. -/
theorem sendsAll_of_form :
    ∃ r, ofDocument uploading {} {} twoFiles {} "a" = .ok r
      ∧ r.SendsAll uploading twoFiles "files" ∧ r.body = .form [("k", "1")]
      ∧ r.files = [("f", "files/b.bin"), ("f", "files/a.txt"), ("g", "files/a.txt")]
      ∧ r.payload twoFiles = .ok (.parts [.field "k" "1", .file "f" "b.bin" [0, 255],
          .file "f" "a.txt" [65], .file "g" "a.txt" [65]]) := by
  have accepted : ofDocument uploading {} {} twoFiles {} "a" = .ok {
      method := .post
      url := "http://h/a"
      params := []
      headers := [("Content-Type", "multipart/form-data")]
      body := .form [("k", "1")]
      files := [("f", "files/b.bin"), ("f", "files/a.txt"), ("g", "files/a.txt")]
      timeout := 30000000000
      verify := true
      proxies := none
      retry := 3
      engine := .standard } := by
    decide +kernel
  exact ⟨_, accepted, sendsAll_of_accepted accepted, rfl, rfl, by decide +kernel⟩

end Request

end CaseRunner
