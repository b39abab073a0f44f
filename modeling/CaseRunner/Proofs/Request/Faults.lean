import CaseRunner.Proofs.Request.Usable

/-!
# Where a request goes wrong

A section from which no request can be made is refused with an error that says where it
stands and which of its fields is at fault. The fields are read one after the other, and
the first that is of no use stops the reading (`Request.StopsAt`). So a request is made
exactly if all the fields are usable (`Request.exists_ofDocument_iff`), and otherwise the
error names the first that is not (`Request.fault_at_first_unusable`).

Which field this is can be told without reading (`Request.FirstUnusable`). That an error
names it, and no other, is a statement about its text: the text begins with the place of
the field and a colon, and no place of a field with a colon is the beginning of another.

Between the eighth field and the ninth the program may end, if there is no room for the
time that the request may take. Then there is no error, and nothing is said about the two
fields behind.
-/

namespace CaseRunner

namespace RequestField

/-- The fields that are read before it is known whether there is room for the time that the
request may take, in their order. -/
def drafted : List RequestField :=
  [.method, .url, .params, .bodyType, .headers, .body, .files, .timeout]

/-- The fields that are read afterwards. -/
def finished : List RequestField := [.verify, .engine]

/-- The fields of a request in the order of reading. -/
def order : List RequestField :=
  [.method, .url, .params, .bodyType, .headers, .body, .files, .timeout, .verify, .engine]

theorem order_eq : order = drafted ++ finished := rfl

theorem mem_order (field : RequestField) : field ∈ order := by
  cases field <;> decide

end RequestField

namespace Request

variable {α β : Type} {fields : Fields} {field : RequestField} {d : Document}
  {config : Config} {store : Store} {fs : FileSystem} {defaults : RequestDefaults}
  {location : String}

/-! ## Reading all fields -/

/-- **Reading stops at the first field that is of no use**: as long as the fields are
usable one after the other it goes on, and its fault is the one of the first that is not.

By recursion on the fields, as a reader of many fields is one of the first field and then
of the others; so the reader is gone through once, with a lemma for one step
(`StopsAt.bind`). -/
def StopsAt (usable : RequestField → Prop) : List RequestField → Except RequestFault α → Prop
  | [], x => ∃ a, x = .ok a
  | field :: rest, x =>
    (usable field → StopsAt usable rest x) ∧
      (¬ usable field → ∃ fault, x = .error fault ∧ fault.field = field)

namespace StopsAt

variable {usable : RequestField → Prop} {order : List RequestField} {x : Except RequestFault α}
  {f : α → Except RequestFault β}

/-- **One field is read, and then the others.** The others may depend on what the first one
gave, but whether they are usable may not. -/
theorem bind (hx : Reads field (usable field) x)
    (hf : ∀ a, x = .ok a → StopsAt usable order (f a)) :
    StopsAt usable (field :: order) (x >>= f) := by
  constructor
  · intro h
    obtain ⟨a, rfl⟩ := hx.exists_ok_iff.mpr h
    exact hf a rfl
  · intro h
    cases hread : x with
    | ok a => exact absurd (hx.exists_ok_iff.mp ⟨a, hread⟩) h
    | error fault => exact ⟨fault, rfl, hx.fault_field fault hread⟩

/-- Reading goes through exactly if every field is usable. -/
theorem exists_ok_iff (h : StopsAt usable order x) :
    (∃ a, x = .ok a) ↔ ∀ field ∈ order, usable field := by
  induction order with
  | nil => exact ⟨fun _ => nofun, fun _ => h⟩
  | cons field order ih =>
    obtain ⟨goOn, stop⟩ := h
    rw [List.forall_mem_cons]
    constructor
    · rintro ⟨a, rfl⟩
      by_cases hfield : usable field
      · exact ⟨hfield, (ih (goOn hfield)).mp ⟨a, rfl⟩⟩
      · obtain ⟨fault, hfault, -⟩ := stop hfield
        cases hfault
    · rintro ⟨hfield, hrest⟩
      exact (ih (goOn hfield)).mpr hrest

/-- **A fault comes from the first field that is of no use.** The fields before it are
usable. -/
theorem exists_of_error (h : StopsAt usable order x) {fault : RequestFault}
    (hx : x = .error fault) :
    ∃ before after, order = before ++ fault.field :: after
      ∧ (∀ field ∈ before, usable field) ∧ ¬ usable fault.field := by
  induction order with
  | nil =>
    obtain ⟨a, ha⟩ := h
    cases ha.symm.trans hx
  | cons field order ih =>
    obtain ⟨goOn, stop⟩ := h
    by_cases hfield : usable field
    · obtain ⟨before, after, rfl, hbefore, hfault⟩ := ih (goOn hfield)
      exact ⟨field :: before, after, rfl, List.forall_mem_cons.mpr ⟨hfield, hbefore⟩, hfault⟩
    · obtain ⟨fault', hfault', rfl⟩ := stop hfield
      cases hfault'.symm.trans hx
      exact ⟨[], order, rfl, nofun, hfield⟩

end StopsAt

/-- **The fields of a section are read in their order**, up to the timeout. Field by field,
each with the lemma on its reader. -/
theorem stopsAt_draft :
    StopsAt (Usable (.mapping fields) config store fs defaults) RequestField.drafted
      (draft fields config store fs defaults) := by
  unfold draft RequestField.drafted
  refine .bind ((reads_required _ _ _ _).mono ?_) fun method _ => ?_
  · simp only [Schema.exists_name_iff]
    rfl
  rw [← bind_assoc]
  refine .bind (reads_address _ _ _) fun url _ => ?_
  refine .bind (reads_pairs _ _) fun params _ => ?_
  refine .bind ((reads_field? _ _ _).mono ?_) fun t? htype => ?_
  · simp only [Schema.exists_name_iff]
    rfl
  obtain rfl := eq_bodyType? htype
  refine .bind (reads_pairs _ _) fun own _ => ?_
  refine .bind (reads_bodyFrom _ _ _ _) fun body _ => ?_
  refine .bind (reads_filesFrom _ _ _ _) fun files _ => ?_
  exact .bind (reads_timeoutFrom _ _ _) fun seconds _ => ⟨_, rfl⟩

/-- **And so are those behind it.** -/
theorem stopsAt_finish (r : Draft) (timeout : Nat) :
    StopsAt (Usable (.mapping fields) config store fs defaults) RequestField.finished
      (r.finish timeout fields config defaults) := by
  unfold Draft.finish RequestField.finished
  refine .bind (reads_truth? _ _) fun verify _ => ?_
  refine .bind ((reads_field? _ _ _).mono ?_) fun engine _ => ⟨_, rfl⟩
  simp only [Schema.exists_name_iff]
  rfl

/-! ## Errors -/

/-- **A field is the first that cannot be used**: the fields before it in the order of
reading can. There is at most one such field, and there is one unless all can be used. -/
def FirstUnusable (d : Document) (config : Config) (store : Store) (fs : FileSystem)
    (defaults : RequestDefaults) (field : RequestField) : Prop :=
  ∃ before after, RequestField.order = before ++ field :: after
    ∧ (∀ earlier ∈ before, Usable d config store fs defaults earlier)
    ∧ ¬ Usable d config store fs defaults field

/-- A fault is that of the first field that cannot be used: reading comes to the fields
behind the timeout only if those before are usable, and there is room for it. -/
theorem firstUnusable_of_fault {fault : RequestFault}
    (h : ofFields fields config store fs defaults = .error (.error fault)) :
    FirstUnusable (.mapping fields) config store fs defaults fault.field := by
  rcases bind_eq_error_iff.mp h with hdraft | ⟨draft, hdraft, h⟩
  · obtain ⟨before, after, split, earlier, unusable⟩ :=
      stopsAt_draft.exists_of_error (Stop.lift_eq_error_error_iff.mp hdraft)
    refine ⟨before, after ++ RequestField.finished, ?_, earlier, unusable⟩
    rw [RequestField.order_eq, split, List.append_assoc, List.cons_append]
  have drafted := stopsAt_draft.exists_ok_iff.mp ⟨draft, Stop.lift_eq_ok_iff.mp hdraft⟩
  rcases bind_eq_error_iff.mp h with hspan | ⟨timeout, -, hfinish⟩
  · exact absurd hspan (nanoseconds_ne_error _ _)
  · obtain ⟨before, after, split, earlier, unusable⟩ :=
      (stopsAt_finish draft timeout).exists_of_error (Stop.lift_eq_error_error_iff.mp hfinish)
    refine ⟨RequestField.drafted ++ before, after, ?_, ?_, unusable⟩
    · rw [RequestField.order_eq, split, List.append_assoc]
    · exact List.forall_mem_append.mpr ⟨drafted, earlier⟩

/-- **When a request is made** of a section: exactly if it is a mapping whose fields can
all be used, and there is room for the time that the request may take. This is a condition
on what was written, and no request has to be made to check it. -/
theorem exists_ofDocument_iff :
    (∃ r, ofDocument d config store fs defaults location = .ok r) ↔
      d.IsMapping ∧ (∀ field, Usable d config store fs defaults field)
        ∧ ∀ x, seconds? d config store fs defaults = some x → (Quantity.span x).fits = true := by
  cases d with
  | null | bool | number | text | list =>
    exact ⟨fun ⟨_, h⟩ => (nomatch h), fun ⟨⟨_, h⟩, _⟩ => (nomatch h)⟩
  | mapping fields =>
    have crashes : Stop.Crashes (ofFields fields config store fs defaults) ↔ _ :=
      Stop.crashes_mapError_iff.symm.trans
        (crashes_ofDocument_iff : Stop.Crashes (ofDocument (.mapping fields) _ _ _ _ location) ↔ _)
    constructor
    · rintro ⟨r, h⟩
      obtain ⟨draft, hdraft, h'⟩ := bind_eq_ok_iff.mp (mapError_eq_ok_iff.mp h)
      obtain ⟨timeout, -, hfinish⟩ := bind_eq_ok_iff.mp h'
      have drafted := stopsAt_draft.exists_ok_iff.mp ⟨draft, Stop.lift_eq_ok_iff.mp hdraft⟩
      have finished : ∀ field ∈ RequestField.finished,
          Usable (.mapping fields) config store fs defaults field :=
        (stopsAt_finish draft timeout).exists_ok_iff.mp ⟨r, Stop.lift_eq_ok_iff.mp hfinish⟩
      refine ⟨⟨fields, rfl⟩, fun field => ?_, fun x hx => ?_⟩
      · exact List.forall_mem_append.mpr ⟨drafted, finished⟩ field field.mem_order
      · rw [← Bool.not_eq_false]
        intro unfit
        rw [mapError_eq_ok_iff.mp h] at crashes
        exact Stop.not_crashes_ok r (crashes.mpr ⟨x, hx, unfit⟩)
    · rintro ⟨-, usable, fits⟩
      have survives : ¬ Stop.Crashes (ofFields fields config store fs defaults) := by
        rw [crashes]
        rintro ⟨x, hx, unfit⟩
        exact nomatch unfit.symm.trans (fits x hx)
      obtain ⟨r, hr⟩ := Stop.exists_lift_of_not_crashes survives
      -- a fault would have a field that is not usable
      cases r with
      | ok r => exact ⟨r, mapError_eq_ok_iff.mpr hr⟩
      | error fault =>
        obtain ⟨-, -, -, -, unusable⟩ := firstUnusable_of_fault hr
        exact absurd (usable fault.field) unusable

theorem toList_joinPath (location name : String) :
    (joinPath location name ++ ":").toList = location.toList ++ ':' :: (name.toList ++ [':']) := by
  simp [joinPath, String.toList_append]

/-- What the text of a fault begins with. -/
theorem prefix_message (fault : RequestFault) (location : String) :
    (joinPath location fault.field.name ++ ":").toList <+: (fault.message location).toList := by
  obtain ⟨field, member?, text⟩ := fault
  cases member? with
  | none => exact ⟨' ' :: text.toList, by simp [RequestFault.message, String.toList_append]⟩
  | some member =>
    exact ⟨member.toList ++ ':' :: ' ' :: text.toList,
      by simp [RequestFault.message, joinPath, String.toList_append]⟩

/-- A field is told by its name and what ends it. -/
theorem field_eq_of_startsWith_name {field other : RequestField}
    (h : (field.name.toList ++ [':']) <+: (other.name.toList ++ [':'])) : field = other := by
  cases field <;> cases other <;> first | rfl | exact absurd h (by decide)

/-- A text that begins with the place of a field begins with that of no other. The colon
decides it, for some names are the beginnings of others, such as `body` and `body_type`. -/
theorem field_eq_of_startsWith {place text : String} {field other : RequestField}
    (hfield : (joinPath place field.name ++ ":").toList <+: text.toList)
    (hother : (joinPath place other.name ++ ":").toList <+: text.toList) : other = field := by
  rw [toList_joinPath] at hfield hother
  rcases List.prefix_or_prefix_of_prefix hfield hother with h | h
  · rw [List.prefix_append_right_inj, List.cons_prefix_cons] at h
    exact (field_eq_of_startsWith_name h.2).symm
  · rw [List.prefix_append_right_inj, List.cons_prefix_cons] at h
    exact field_eq_of_startsWith_name h.2

/-- **An error says where.** If no request can be made of a section, the error is one of
the request's data, its text begins with the place of the section, and where the section is
a mapping it goes on with the name of exactly one field, which is the first that cannot be
used.

What a reader of the error may conclude is more than that something is wrong there: all the
fields that are read before it are in order. -/
theorem fault_at_first_unusable {e : RunError}
    (h : ofDocument d config store fs defaults location = .error (.error e)) :
    ∃ text, e = .requestData text
      ∧ (joinPath location "request" ++ ":").toList <+: text.toList
      ∧ (d.IsMapping → ∃ field, FirstUnusable d config store fs defaults field
          ∧ ∀ other : RequestField,
            (joinPath (joinPath location "request") other.name ++ ":").toList <+: text.toList ↔
              other = field) := by
  cases d with
  | null | bool | number | text | list =>
    cases h
    refine ⟨_, rfl, ?_, fun ⟨_, h⟩ => nomatch h⟩
    rw [String.toList_append, String.toList_append, List.prefix_append_right_inj]
    decide
  | mapping fields =>
    obtain ⟨stop, hstop, reworded⟩ := mapError_eq_error_iff.mp h
    obtain ⟨fault, rfl, rfl⟩ : ∃ fault, stop = .error fault
        ∧ e = .requestData (fault.message (joinPath location "request")) := by
      cases stop with
      | error fault => exact ⟨fault, rfl, (Stop.error.inj reworded).symm⟩
      | crash q unfit => cases reworded
    have named := prefix_message fault (joinPath location "request")
    refine ⟨_, rfl, List.IsPrefix.trans ?_ named, fun _ => ⟨fault.field, ?_, fun other => ?_⟩⟩
    · rw [toList_joinPath (joinPath location "request"), String.toList_append,
        List.prefix_append_right_inj]
      exact ⟨_, rfl⟩
    · exact firstUnusable_of_fault hstop
    · exact ⟨field_eq_of_startsWith named, fun h => h ▸ named⟩

/-- A section with three faults: the query is no mapping, there is a body without a type, and
the time that it may take is not positive. -/
def faulty : Document :=
  .mapping [("body", .text "b"), ("method", .text "GET"), ("params", .list []),
    ("timeout", .int 0), ("url", .text "/a")]

/-- The fault of the query is reported. -/
theorem fault_at_params :
    let store : Store := { env := [("HOST", "http://h")] }
    let text := "a:request:params: expected a mapping of names to values"
    ofDocument faulty {} store .empty {} "a" = .error (.error (.requestData text))
      ∧ ∃ field, FirstUnusable faulty {} store .empty {} field
        ∧ ∀ other : RequestField,
          (joinPath (joinPath "a" "request") other.name ++ ":").toList <+: text.toList ↔
            other = field := by
  intro store text
  have refused : ofDocument faulty {} store .empty {} "a"
      = .error (.error (.requestData text)) := by
    decide +kernel
  obtain ⟨text', htext, -, hfield⟩ := fault_at_first_unusable refused
  cases htext
  exact ⟨refused, hfield ⟨_, rfl⟩⟩

end Request

end CaseRunner
