import CaseRunner.Proofs.Case.Reading
import CaseRunner.Request.Reading

/-!
# What an accepted section says

The reader of requests takes the fields of a section one by one and stops at the first
that cannot be used. Here it is said the other way round: what stands in a section from
which a request was made. A field that is read as a mapping holds its members in the
order of their names (`Document.membersOf`), a type of body is what its field gives
(`Request.bodyType?`), and the headers, the body and the files are made of these
(`Request.exists_of_ofDocument`).
-/

namespace CaseRunner

namespace Document

/-- **Nothing stands under a name**, or null. For most fields the two are the same: a field
that is null is one that was left out. -/
def Lacks (d : Document) (name : String) : Prop :=
  d.get? name = none ∨ d.get? name = some .null

/-- The members of the mapping under a name, in the order of their names; none where there
is no mapping. Also a field that is read as something else has such a list, so that what is
said of the members needs no case for a field that was left out. -/
def membersOf (d : Document) (name : String) : Fields :=
  match d.get? name with
  | some (.mapping members) => ofPairs members
  | _ => []

theorem Lacks.eq_null {d given : Document} {name : String} (h : d.Lacks name)
    (found : d.get? name = some given) : given = .null := by
  rcases h with h | h
  · cases h.symm.trans found
  · exact (Option.some.inj (h.symm.trans found)).symm

theorem membersOf_of_field? {fields members : Fields} {name : String}
    (h : field? name fields = some (.mapping members)) :
    (mapping fields).membersOf name = ofPairs members := by
  have found : (mapping fields).get? name = some (.mapping members) := h
  unfold membersOf
  rw [found]

theorem Lacks.membersOf {d : Document} {name : String} (h : d.Lacks name) :
    d.membersOf name = [] := by
  unfold Document.membersOf
  rcases h with h | h <;> rw [h]

end Document

/-- Names with the texts that stand for their values. -/
def displayed (members : Fields) : List (String × String) :=
  members.map fun (name, d) => (name, d.display)

namespace Schema

/-- A mapping is read in the order of its names. -/
theorem fields_eq_ok_iff {d : Document} {members : Fields} :
    fields d = .ok members ↔
      ∃ given, d = Document.mapping given ∧ Document.ofPairs given = members := by
  have all (given : Fields) :
      (given.mapM fun (name, d) => ((anything d).map fun a => (name, a) :
        Except ReadFault (String × Document))) = .ok given := by
    rw [mapM_eq_ok_iff, List.forall₂_same]
    exact fun _ _ => rfl
  cases d with
  | mapping given =>
    have read : fields (Document.mapping given) = .ok (Document.ofPairs given) := by
      show (given.mapM _ >>= _) = _
      rw [all]
      rfl
    rw [read]
    exact ⟨fun h => ⟨given, rfl, Except.ok.inj h⟩,
      fun ⟨_, hd, h⟩ => by cases hd; rw [h]⟩
  | null | bool | number | text | list => exact ⟨nofun, nofun⟩

end Schema

namespace Request

variable {fields : Fields} {field : RequestField} {d : Document} {config : Config}
  {store : Store} {fs : FileSystem} {defaults : RequestDefaults} {location : String}
  {r : Request}

/-- **What a field is read from.** A field that is left out gives nothing, and any other
gives what its reader makes of it. With this lemma and `required_eq_ok_iff` a field is
never looked up again below: what is known of it is known of the document. -/
theorem field?_eq_ok_iff {α : Type} {read : Document → Except ReadFault α} {a? : Option α} :
    field? read fields field = .ok a? ↔
      (a? = none ∧ (Document.mapping fields).Lacks field.name)
        ∨ ∃ d a, Document.field? field.name fields = some d ∧ d ≠ .null ∧ read d = .ok a
          ∧ a? = some a := by
  unfold field? Document.Lacks Document.get?
  split
  next hf => simp [hf, eq_comm]
  next hf => simp [hf, eq_comm]
  next d hnull hf =>
    have given : d ≠ .null := hnull
    rw [mapError_eq_ok_iff, map_eq_ok_iff]
    simp [hf, given, eq_comm]

/-- Pairs are read from the members of a mapping. -/
theorem eq_of_pairs {ps : List (String × String)} (h : pairs fields field = .ok ps) :
    ps = displayed ((Document.mapping fields).membersOf field.name) := by
  obtain ⟨mapping?, hread, h⟩ := bind_eq_ok_iff.mp h
  cases h
  rcases field?_eq_ok_iff.mp (mapError_eq_ok_iff.mp hread) with
    ⟨rfl, lacks⟩ | ⟨d, members, found, -, read, rfl⟩
  · rw [lacks.membersOf]
    rfl
  · obtain ⟨given, rfl, rfl⟩ := Schema.fields_eq_ok_iff.mp read
    rw [Document.membersOf_of_field? found]
    rfl

/-- The type of body that a section names. It is read once and needed three times, by the
body, by the files and for the type of the content; an unreadable one is none here, which
is of no account, because no request is made of such a section. -/
def bodyType? (d : Document) : Option BodyType :=
  (d.get? RequestField.bodyType.name).bind fun given =>
    (Schema.name BodyType.names given).toOption

theorem eq_bodyType? {t? : Option BodyType}
    (h : field? (Schema.name BodyType.names) fields .bodyType = .ok t?) :
    t? = bodyType? (.mapping fields) := by
  unfold bodyType?
  rcases field?_eq_ok_iff.mp h with ⟨rfl, lacks | lacks⟩ | ⟨d, t, found, -, read, rfl⟩
  · rw [lacks]
    rfl
  · rw [lacks]
    rfl
  · rw [Document.get?, found, Option.bind_some, read]
    rfl

/-! ## The time that a request may take -/

/-- **A span of time crashes exactly if there is no room for it.** The number is checked to
be positive and finite beforehand; that it is not too great is checked nowhere. -/
theorem crashes_nanoseconds_iff {ε : Type} {x : Binary64} :
    Stop.Crashes (nanoseconds x : Except (Stop ε) Nat) ↔ (Quantity.span x).fits = false := by
  refine Stop.crashes_bind_iff.trans ((or_iff_left ?_).trans Quantity.crashes_check_iff)
  rintro ⟨-, -, h⟩
  split at h <;> exact Stop.not_crashes_ok _ h

/-- The check of a span never reports an error: it goes well, or the program ends. -/
theorem nanoseconds_ne_error {ε : Type} (x : Binary64) (e : ε) :
    nanoseconds x ≠ .error (.error e) := by
  intro h
  rcases bind_eq_error_iff.mp h with h | ⟨-, -, h⟩
  · exact Quantity.check_ne_error _ e h
  · split at h <;> cases h

/-- The only thing that can crash is the span, and it comes after the draft, so a section
with a fault in a field before it does not crash, however great its timeout. -/
theorem crashes_ofFields_iff : Stop.Crashes (ofFields fields config store fs defaults)
    ↔ ∃ draft, Request.draft fields config store fs defaults = .ok draft
      ∧ (Quantity.span draft.seconds).fits = false := by
  unfold ofFields
  simp only [Stop.crashes_bind_iff, Stop.not_crashes_lift, Stop.lift_eq_ok_iff,
    crashes_nanoseconds_iff, and_false, exists_false, or_false, false_or]

/-- **Reading a request crashes exactly if there is no room for the time that it may
take**, as far as the reading comes to it. The time is that of the section, else that of
the configuration, else that of the settings, and it is found only if no field before it is
at fault (`Request.seconds?`). -/
theorem crashes_ofDocument_iff : Stop.Crashes (ofDocument d config store fs defaults location)
    ↔ ∃ x, seconds? d config store fs defaults = some x ∧ (Quantity.span x).fits = false := by
  cases d with
  | mapping fields =>
    refine Stop.crashes_mapError_iff.trans (crashes_ofFields_iff.trans ?_)
    simp [seconds?, toOption_eq_some_iff]
  | null | bool | number | text | list =>
    refine iff_of_false (Stop.not_crashes_error _) ?_
    rintro ⟨x, hx, -⟩
    cases hx

/-! ## The request -/

/-- **What an accepted section makes**: the headers, the body and the files of a request
are made of the fields of a mapping and the type of body that it names. How often it is
tried again is said elsewhere.

The reader takes ten fields in turn, and this is where it is opened. What is said below
about requests that are accepted follows from these equations. -/
theorem exists_of_ofDocument (h : ofDocument d config store fs defaults location = .ok r) :
    ∃ fields, d = .mapping fields
      ∧ r.headers = headersFrom (displayed config.headers) (displayed (d.membersOf "headers"))
          (bodyType? d)
      ∧ bodyFrom fs defaults.filesDir fields (bodyType? d) = .ok r.body
      ∧ filesFrom fs defaults.filesDir fields (bodyType? d) = .ok r.files
      ∧ r.retry = config.retry.getD defaults.retry := by
  cases d with
  | null | bool | number | text | list => cases h
  | mapping fields =>
    have h := mapError_eq_ok_iff.mp h
    obtain ⟨draft, hdraft, h⟩ := bind_eq_ok_iff.mp h
    obtain ⟨timeout, -, h⟩ := bind_eq_ok_iff.mp h
    have hfinish := Stop.lift_eq_ok_iff.mp h
    -- up to the timeout
    have h := Stop.lift_eq_ok_iff.mp hdraft
    obtain ⟨method, -, h⟩ := bind_eq_ok_iff.mp h
    obtain ⟨path, -, h⟩ := bind_eq_ok_iff.mp h
    obtain ⟨url, -, h⟩ := bind_eq_ok_iff.mp h
    obtain ⟨params, -, h⟩ := bind_eq_ok_iff.mp h
    obtain ⟨t?, htype, h⟩ := bind_eq_ok_iff.mp h
    obtain ⟨own, hown, h⟩ := bind_eq_ok_iff.mp h
    obtain ⟨body, hbody, h⟩ := bind_eq_ok_iff.mp h
    obtain ⟨files, hfiles, h⟩ := bind_eq_ok_iff.mp h
    obtain ⟨seconds, -, h⟩ := bind_eq_ok_iff.mp h
    cases h
    -- behind it
    obtain ⟨verify, -, h⟩ := bind_eq_ok_iff.mp hfinish
    obtain ⟨engine, -, h⟩ := bind_eq_ok_iff.mp h
    cases h
    rw [eq_bodyType? htype, eq_of_pairs hown] at *
    exact ⟨fields, rfl, rfl, hbody, hfiles, rfl⟩

end Request

end CaseRunner
