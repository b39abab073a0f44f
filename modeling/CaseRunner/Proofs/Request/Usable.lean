import CaseRunner.Proofs.Request.Body

/-!
# What it takes to use a field

The fields of a section from which a request is made are read by readers of their own. For
each field it is said here without its reader what must stand in the section
(`Request.Usable`), and that the reader succeeds exactly then and otherwise lays the fault
to that field (`Request.Reads`).

There are few kinds of fields, and each kind has its lemma: a field that may be left out,
one that must be there, one with names and values, a number and a truth value. Whether a
field can be used depends on another field in two cases only, as the body and the files
both ask for the type of body.
-/

namespace CaseRunner

/-! ## What stands under a name -/

namespace Document

/-- **Something with a property stands under a name**, and it is not null. The fields that
must be there are so. -/
def Requires (d : Document) (name : String) (P : Document → Prop) : Prop :=
  ∃ given, d.get? name = some given ∧ given ≠ .null ∧ P given

/-- **What stands under a name has a property**, unless it is null or nothing. The fields
that may be left out are so. -/
def Allows (d : Document) (name : String) (P : Document → Prop) : Prop :=
  d.Lacks name ∨ d.Requires name P

/-- A document is a mapping. -/
def IsMapping (d : Document) : Prop := ∃ members, d = .mapping members

/-- A document gives a value by one of its names: the name by itself, or with null under
it, which is how a name with a colon behind it is read. A value may have several names. -/
def IsNameIn {α : Type} (d : Document) (names : Schema.Names α) : Prop :=
  ∃ s, (d = .text s ∨ d = .mapping [(s, .null)]) ∧ ∃ entry ∈ names, s ∈ entry.2

/-- A document is a number, or the text of one with blanks around it. -/
def IsNumber (d : Document) (x : Binary64) : Prop :=
  (∃ n, d = .number n ∧ n.toBinary64 = x)
    ∨ ∃ s, d = .text s ∧ Decimal.ofText? (Text.trimmed s) = some x

/-- A document is a truth value, or the text of one in any letter case. -/
def IsTruth (d : Document) : Prop :=
  (∃ b, d = .bool b)
    ∨ ∃ s, d = .text s ∧ (Text.eqIgnoringAsciiCase s "true" = true
        ∨ Text.eqIgnoringAsciiCase s "false" = true)

/-- A document is the path of a file or a list of paths, and the files are all there. -/
def ListsFiles (fs : FileSystem) (filesDir : String) (d : Document) : Prop :=
  ∃ paths : Series String, d = paths.toDocument .text
    ∧ ∀ path ∈ paths.toList, fs.isFile (FileSystem.join filesDir path) = true

end Document

namespace Request

/-- **When a field can be used** to make a request of a section.

Every case is about the document and the world around it, and none mentions a reader or a
fault. The timeout is an exception among the fields that may be left out: where it is, what
stands in its place is checked in the same way, so a wrong number in the configuration is a
fault of this field too. -/
def Usable (d : Document) (config : Config) (store : Store) (fs : FileSystem)
    (defaults : RequestDefaults) : RequestField → Prop
  | .method => d.Requires "method" fun given => given.IsNameIn Method.names
  | .url => d.Requires "url" fun given => ∃ path, given = .text path
      ∧ (isAbsolute path = true ∨ ∃ host, Document.field? hostKey store.env = some host)
  | .params => d.Allows "params" Document.IsMapping
  | .bodyType => d.Allows "body_type" fun given => given.IsNameIn BodyType.names
  | .headers => d.Allows "headers" Document.IsMapping
  | .body => d.Allows "body" fun given =>
      ∃ t body, bodyType? d = some t ∧ Body.Encodes fs defaults.filesDir given body t
  | .files => d.Allows "files" fun given => given.IsMapping
      ∧ (d.membersOf "files" ≠ [] → bodyType? d = none ∨ bodyType? d = some .form)
      ∧ ∀ member ∈ d.membersOf "files", member.2.ListsFiles fs defaults.filesDir
  | .timeout => ∃ x, (d.Requires "timeout" (·.IsNumber x)
        ∨ d.Lacks "timeout" ∧ x = config.timeout.getD defaults.timeout)
      ∧ (Binary64.zero false).lt x = true ∧ x.isFinite = true
  | .verify => d.Allows "verify" Document.IsTruth
  | .engine => d.Allows "engine" fun given => given.IsNameIn Engine.names

end Request

namespace Schema

variable {α : Type} {names : Names α} {d : Document} {s : String} {a : α}

theorem Names.exists_find?_iff :
    (∃ a, names.find? s = some a) ↔ ∃ entry ∈ names, s ∈ entry.2 := by
  rw [← Option.isSome_iff_exists, Names.find?, Option.isSome_map, List.find?_isSome]
  simp only [List.contains_iff_mem]

/-- Which documents are read as the name of a value. A mapping may hold nothing else, and
only null. -/
theorem name_eq_ok_iff :
    name names d = .ok a ↔
      ∃ s, (d = .text s ∨ d = .mapping [(s, .null)]) ∧ names.find? s = some a := by
  unfold name
  rw [bind_eq_ok_iff]
  constructor
  · rintro ⟨⟨s, payload?⟩, hnamed, h⟩
    dsimp only at h
    split at h
    · cases h
    next a' found =>
      rcases Document.named_eq_ok_iff.mp hnamed with ⟨rfl, rfl⟩ | ⟨payload, rfl, rfl⟩
      · cases h
        exact ⟨s, .inl rfl, found⟩
      · dsimp only at h
        split at h
        next null =>
          cases h
          cases payload with
          | null => exact ⟨s, .inr rfl, found⟩
          | bool | number | text | list | mapping => cases null
        next => cases h
  · rintro ⟨s, rfl | rfl, found⟩
    · refine ⟨(s, none), rfl, ?_⟩
      dsimp only
      rw [found]
      rfl
    · refine ⟨(s, some .null), rfl, ?_⟩
      dsimp only
      rw [found]
      rfl

/-- **Which documents are read by name.** -/
theorem exists_name_iff : (∃ a, name names d = .ok a) ↔ d.IsNameIn names := by
  simp only [name_eq_ok_iff, Document.IsNameIn, ← Names.exists_find?_iff]
  constructor
  · rintro ⟨a, s, hs, found⟩
    exact ⟨s, hs, a, found⟩
  · rintro ⟨s, hs, a, found⟩
    exact ⟨a, s, hs, found⟩

end Schema

namespace Request

/-! ## Reading one field -/

variable {α β : Type} {fields : Fields} {field : RequestField} {d : Document}
  {config : Config} {store : Store} {fs : FileSystem} {defaults : RequestDefaults}
  {filesDir location : String} {t? : Option BodyType}

/-- **A field is read**, by a reader that succeeds exactly if a condition holds and lays
all its faults to that field. These are the two things that are needed of a reader to tell
which field stops the reading; what it makes of the field is no part of it. -/
structure Reads (field : RequestField) (P : Prop) (x : Except RequestFault α) : Prop where
  /-- When the reader succeeds. -/
  exists_ok_iff : (∃ a, x = .ok a) ↔ P
  /-- Its faults are those of the field. -/
  fault_field : Fails (·.field = field) x

theorem Reads.mono {P Q : Prop} {x : Except RequestFault α} (h : Reads field P x) (hPQ : P ↔ Q) :
    Reads field Q x :=
  ⟨h.exists_ok_iff.trans hPQ, h.fault_field⟩

theorem fails_field? (read : Document → Except ReadFault α) (fields : Fields)
    (field : RequestField) : Fails (·.field = field) (field? read fields field) := by
  unfold field?
  split
  · exact .ok none
  · exact .ok none
  · exact .reworded fun _ => rfl

/-- A field that may be left out. -/
theorem reads_field? (read : Document → Except ReadFault α) (fields : Fields)
    (field : RequestField) :
    Reads field ((Document.mapping fields).Allows field.name fun given =>
      ∃ a, read given = .ok a) (field? read fields field) := by
  refine ⟨?_, fails_field? read fields field⟩
  simp only [field?_eq_ok_iff]
  constructor
  · rintro ⟨a?, ⟨-, lacks⟩ | ⟨given, a, found, filled, hread, -⟩⟩
    · exact .inl lacks
    · exact .inr ⟨given, found, filled, a, hread⟩
  · rintro (lacks | ⟨given, found, filled, a, hread⟩)
    · exact ⟨none, .inl ⟨rfl, lacks⟩⟩
    · exact ⟨some a, .inr ⟨given, a, found, filled, hread, rfl⟩⟩

/-- A field that must be there is read from what stands under its name, which is not null.
-/
theorem required_eq_ok_iff {read : Document → Except ReadFault α} {missing : String} {a : α} :
    required read fields field missing = .ok a ↔
      (Document.mapping fields).Requires field.name fun given => read given = .ok a := by
  unfold required
  rw [bind_eq_ok_iff]
  constructor
  · rintro ⟨a?, hfield, h⟩
    rcases field?_eq_ok_iff.mp hfield with ⟨rfl, -⟩ | ⟨given, a', found, filled, hread, rfl⟩
    · cases h
    · cases h
      exact ⟨given, found, filled, hread⟩
  · rintro ⟨given, found, filled, hread⟩
    exact ⟨some a, field?_eq_ok_iff.mpr (.inr ⟨given, a, found, filled, hread, rfl⟩), rfl⟩

/-- A field that must be there. -/
theorem reads_required (read : Document → Except ReadFault α) (fields : Fields)
    (field : RequestField) (missing : String) :
    Reads field ((Document.mapping fields).Requires field.name fun given =>
      ∃ a, read given = .ok a) (required read fields field missing) := by
  constructor
  · simp only [required_eq_ok_iff]
    constructor
    · rintro ⟨a, given, found, filled, hread⟩
      exact ⟨given, found, filled, a, hread⟩
    · rintro ⟨given, found, filled, a, hread⟩
      exact ⟨a, given, found, filled, hread⟩
  · refine .bind (fails_field? read fields field) fun a? => ?_
    cases a? with
    | none => exact .error rfl
    | some a => exact .ok a

theorem exists_fields_iff : (∃ members, Schema.fields d = .ok members) ↔ d.IsMapping := by
  simp only [Schema.fields_eq_ok_iff, Document.IsMapping]
  constructor
  · rintro ⟨-, given, rfl, -⟩
    exact ⟨given, rfl⟩
  · rintro ⟨given, rfl⟩
    exact ⟨_, given, rfl, rfl⟩

/-- Names with values. -/
theorem reads_pairs (fields : Fields) (field : RequestField) :
    Reads field ((Document.mapping fields).Allows field.name Document.IsMapping)
      (pairs fields field) := by
  have read := (reads_field? Schema.fields fields field)
  simp only [exists_fields_iff] at read
  constructor
  · rw [← read.exists_ok_iff]
    simp only [pairs, bind_eq_ok_iff, mapError_eq_ok_iff]
    constructor
    · rintro ⟨-, mapping?, h, -⟩
      exact ⟨mapping?, h⟩
    · rintro ⟨mapping?, h⟩
      exact ⟨_, mapping?, h, rfl⟩
  · exact .bind (.mapError read.fault_field fun _ h => h) fun mapping? => .ok _

/-- An address can be used if it is a whole one, or if there is a host to put in front of
it. -/
theorem exists_address_iff {path : String} :
    (∃ url, address store path = .ok url) ↔
      isAbsolute path = true ∨ ∃ host, Document.field? hostKey store.env = some host := by
  unfold address
  split
  next complete => exact ⟨fun _ => .inl complete, fun _ => ⟨path, rfl⟩⟩
  next open' =>
    split
    next host found => exact ⟨fun _ => .inr ⟨host, found⟩, fun _ => ⟨_, rfl⟩⟩
    next missing =>
      refine ⟨nofun, ?_⟩
      rintro (complete | ⟨host, found⟩)
      · exact absurd complete open'
      · cases missing.symm.trans found

/-- The address. It is the one field with two faults of different origin, one of the
section and one of the environment, which may lack a host; both are laid to the address. -/
theorem reads_address (fields : Fields) (store : Store) (missing : String) :
    Reads .url ((Document.mapping fields).Requires "url" fun given => ∃ path, given = .text path
        ∧ (isAbsolute path = true ∨ ∃ host, Document.field? hostKey store.env = some host))
      (required Schema.text fields .url missing >>= fun path =>
        (address store path).mapError fun text => { field := .url, text }) := by
  constructor
  · simp only [bind_eq_ok_iff, mapError_eq_ok_iff, required_eq_ok_iff, Schema.text_eq_ok_iff,
      ← exists_address_iff]
    constructor
    · rintro ⟨url, path, ⟨given, found, filled, rfl⟩, h⟩
      exact ⟨_, found, filled, path, rfl, url, h⟩
    · rintro ⟨given, found, filled, path, rfl, url, h⟩
      exact ⟨url, path, ⟨_, found, filled, rfl⟩, h⟩
  · exact .bind (reads_required Schema.text fields .url missing).fault_field fun path =>
      .reworded fun _ => rfl

/-- The body. -/
theorem reads_bodyFrom (fs : FileSystem) (filesDir : String) (fields : Fields)
    (t? : Option BodyType) :
    Reads .body ((Document.mapping fields).Allows "body" fun given =>
        ∃ t body, t? = some t ∧ Body.Encodes fs filesDir given body t)
      (bodyFrom fs filesDir fields t?) := by
  constructor
  · simp only [bodyFrom_eq_ok_iff]
    constructor
    · rintro ⟨body, ⟨lacks, -⟩ | ⟨given, t, found, filled, ht, encodes⟩⟩
      · exact .inl lacks
      · exact .inr ⟨given, found, filled, t, body, ht, encodes⟩
    · rintro (lacks | ⟨given, found, filled, t, body, ht, encodes⟩)
      · exact ⟨.none, .inl ⟨lacks, rfl⟩⟩
      · exact ⟨body, .inr ⟨given, t, found, filled, ht, encodes⟩⟩
  · unfold bodyFrom
    dsimp only
    split
    · exact .ok _
    · exact .ok _
    · split
      · exact .reworded fun _ => rfl
      · exact .error rfl

theorem exists_filesUnder_iff {member : String × Document} :
    (∃ files, filesUnder fs filesDir member = .ok files) ↔ member.2.ListsFiles fs filesDir := by
  obtain ⟨name, given⟩ := member
  simp only [filesUnder_eq_ok_iff, Document.ListsFiles]
  constructor
  · rintro ⟨-, paths, hgiven, rfl, there⟩
    exact ⟨paths, hgiven, fun path hpath => there _ (List.mem_map_of_mem hpath)⟩
  · rintro ⟨paths, hgiven, there⟩
    exact ⟨_, paths, hgiven, rfl, List.forall_mem_map.mpr there⟩

theorem fails_filesUnder (fs : FileSystem) (filesDir : String) (member : String × Document) :
    Fails (·.field = .files) (filesUnder fs filesDir member) := by
  refine .bind (.reworded fun _ => rfl) fun paths => Fails.mapM (fun path => ?_) _
  exact .bind (.reworded fun _ => rfl) fun full => .ok _

/-- The files. -/
theorem reads_filesFrom (fs : FileSystem) (filesDir : String) (fields : Fields)
    (t? : Option BodyType) :
    Reads .files ((Document.mapping fields).Allows "files" fun given => given.IsMapping
        ∧ ((Document.mapping fields).membersOf "files" ≠ [] → t? = none ∨ t? = some .form)
        ∧ ∀ member ∈ (Document.mapping fields).membersOf "files",
            member.2.ListsFiles fs filesDir)
      (filesFrom fs filesDir fields t?) := by
  constructor
  · simp only [filesFrom_eq_ok_iff, ← exists_filesUnder_iff, ← exists_mapM_eq_ok_iff,
      mapM_eq_ok_iff]
    constructor
    · rintro ⟨files, ⟨lacks, -⟩ | ⟨members, under, found, room, hunder, -⟩⟩
      · exact .inl lacks
      · refine .inr ⟨_, found, nofun, ⟨members, rfl⟩, ?_⟩
        rw [Document.membersOf_of_field? found]
        exact ⟨room, under, hunder⟩
    · rintro (lacks | ⟨given, found, -, ⟨members, rfl⟩, room, under, hunder⟩)
      · exact ⟨[], .inl ⟨lacks, rfl⟩⟩
      · rw [Document.membersOf_of_field? found] at room hunder
        exact ⟨_, .inr ⟨members, under, found, room, hunder, rfl⟩⟩
  · refine .bind (fails_field? _ _ _) fun declared? => ?_
    split
    · exact .ok []
    · exact .ok []
    · split
      · exact .bind (Fails.mapM (fails_filesUnder fs filesDir) _) fun _ => .ok _
      · exact .error rfl

/-- A number is left out, or it stands there as a number or as a text. -/
theorem number?_eq_ok_iff {x? : Option Binary64} :
    number? fields field = .ok x? ↔
      ((Document.mapping fields).Lacks field.name ∧ x? = none)
        ∨ ∃ x, (Document.mapping fields).Requires field.name (·.IsNumber x) ∧ x? = some x := by
  unfold number? Document.Requires Document.Lacks Document.get? Document.IsNumber
  dsimp only
  cases Document.field? field.name fields with
  | none => simp [eq_comm]
  | some given =>
    cases given with
    | null => simp [eq_comm]
    | number n => simp [eq_comm]
    | text s => cases hs : Decimal.ofText? (Text.trimmed s) <;> simp [hs, eq_comm]
    | bool | list | mapping => simp

theorem fails_number? (fields : Fields) (field : RequestField) :
    Fails (·.field = field) (number? fields field) := by
  unfold number?
  dsimp only
  split
  · exact .ok none
  · exact .ok none
  · exact .ok _
  · split
    · exact .ok _
    · exact .error rfl
  · exact .error rfl

/-- **Which time a request may take**: the number in the section, or where there is none
that of the configuration or of the settings, if it is positive and finite. That there is
room for it is asked afterwards. -/
theorem timeoutFrom_eq_ok_iff {x : Binary64} :
    timeoutFrom fields config defaults = .ok x ↔
      ((Document.mapping fields).Requires "timeout" (·.IsNumber x)
          ∨ (Document.mapping fields).Lacks "timeout" ∧ x = config.timeout.getD defaults.timeout)
        ∧ (Binary64.zero false).lt x = true ∧ x.isFinite = true := by
  have check (y : Binary64) (fault : RequestFault) :
      (if (Binary64.zero false).lt y && y.isFinite then pure y else throw fault :
        Except RequestFault Binary64) = .ok x ↔
        y = x ∧ (Binary64.zero false).lt x = true ∧ x.isFinite = true := by
    split
    next positive =>
      rw [Bool.and_eq_true] at positive
      exact ⟨fun h => Except.ok.inj h ▸ ⟨rfl, positive⟩, fun h => congrArg Except.ok h.1⟩
    next other =>
      refine ⟨nofun, ?_⟩
      rintro ⟨rfl, positive⟩
      exact absurd (Bool.and_eq_true_iff.mpr positive) other
  simp only [timeoutFrom, bind_eq_ok_iff, number?_eq_ok_iff, check]
  constructor
  · rintro ⟨own, ⟨lacks, rfl⟩ | ⟨y, given, rfl⟩, rfl, positive⟩
    · exact ⟨.inr ⟨lacks, rfl⟩, positive⟩
    · exact ⟨.inl given, positive⟩
  · rintro ⟨given | ⟨lacks, rfl⟩, positive⟩
    · exact ⟨some x, .inr ⟨x, given, rfl⟩, rfl, positive⟩
    · exact ⟨none, .inl ⟨lacks, rfl⟩, rfl, positive⟩

/-- The time that a request may take. -/
theorem reads_timeoutFrom (fields : Fields) (config : Config) (defaults : RequestDefaults) :
    Reads .timeout (∃ x, ((Document.mapping fields).Requires "timeout" (·.IsNumber x)
          ∨ (Document.mapping fields).Lacks "timeout"
            ∧ x = config.timeout.getD defaults.timeout)
        ∧ (Binary64.zero false).lt x = true ∧ x.isFinite = true)
      (timeoutFrom fields config defaults) := by
  refine ⟨exists_congr fun x => timeoutFrom_eq_ok_iff, ?_⟩
  refine .bind (fails_number? _ _) fun own => ?_
  dsimp only
  split
  · exact .ok _
  · exact .error rfl

/-- Whether certificates are checked. -/
theorem reads_truth? (fields : Fields) (field : RequestField) :
    Reads field ((Document.mapping fields).Allows field.name Document.IsTruth)
      (truth? fields field) := by
  constructor
  · unfold truth? Document.Allows Document.Requires Document.Lacks Document.get? Document.IsTruth
    dsimp only
    cases Document.field? field.name fields with
    | none => simp
    | some given =>
      cases given with
      | null => simp
      | bool b => simp
      | text s =>
        cases ht : Text.eqIgnoringAsciiCase s "true" <;>
          cases hf : Text.eqIgnoringAsciiCase s "false" <;> simp [ht, hf]
      | number | list | mapping => simp
  · unfold truth?
    dsimp only
    split
    · exact .ok none
    · exact .ok none
    · exact .ok _
    · split
      · exact .ok _
      · split
        · exact .ok _
        · exact .error rfl
    · exact .error rfl

end Request

end CaseRunner
