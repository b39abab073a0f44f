import CaseRunner.Proofs.Document.Records
import CaseRunner.Proofs.Request.Usable
import CaseRunner.Proofs.Text.LowerCase

/-!
# Settings of a step and of its document

How long a request may take and whether certificates are checked can be said in the step or
in the configuration of the document (`SharedSetting`), and each place has a reader of its
own. They should read the same values in the same way, so that a setting can be moved from
one place to the other. For the seconds they do. For the truth value they do but for one
difference (`Document.PaddedTruth`): a text with blanks around it is read in a
configuration and refused in a step (`SharedSetting.same_spellings_iff`). What a step gives
can always be moved to the configuration, and the request stays the same.

The other direction fails, then, for a few texts only, but it fails loudly: the step is
refused, and nothing is read as its opposite.

To say that a request stays the same is to compare two sections that differ in one field.
The readers of the other fields do not see it (`Request.field?_congr` and those after it),
and the reader of a configuration sets one field at a time (`Schema.Record.Apart`).
-/

namespace CaseRunner

/-! ## Truth values -/

/-- **A truth value with blanks around it**: a text that is none in any letter case, unless
the blanks are cut off. The text of a number may have blanks around it in both places, so
there is nothing like this for the seconds. -/
def Document.PaddedTruth (d : Document) : Prop :=
  ∃ s, d = .text s ∧ Text.trimmed s ≠ s
    ∧ (Text.eqIgnoringAsciiCase (Text.trimmed s) "true" = true
      ∨ Text.eqIgnoringAsciiCase (Text.trimmed s) "false" = true)

/-! ## Readers of a setting -/

/-- **A setting of a step and of a configuration.** What the two settings have in common is
stated for both at once, with the readers as functions of the setting. -/
inductive SharedSetting where
  /-- The seconds that a request may take. -/
  | timeout
  /-- Are certificates checked? -/
  | verify
  deriving DecidableEq

namespace SharedSetting

/-- What the setting is. -/
def Value : SharedSetting → Type
  | timeout => Binary64
  | verify => Bool

/-- The field of a step in which it stands. In a configuration it has the same name. -/
def field : SharedSetting → RequestField
  | timeout => .timeout
  | verify => .verify

/-- The setting as it is read in a step. -/
def own (fields : Fields) : (setting : SharedSetting) →
    Except RequestFault (Option setting.Value)
  | timeout => Request.number? fields .timeout
  | verify => Request.truth? fields .verify

/-- The setting as it is read in a configuration. -/
def configured : (setting : SharedSetting) → Document → Except ReadFault (Option setting.Value)
  | timeout => Schema.numberLike?
  | verify => Schema.truthLike?

/-- A configuration with the setting. -/
def give : (setting : SharedSetting) → Option setting.Value → Config → Config
  | timeout, x, c => { c with timeout := x }
  | verify, x, c => { c with verify := x }

variable {setting : SharedSetting} {d : Document} {fields : Fields}

/-- What a configuration says besides the setting is read in the same way. -/
theorem set_give (x : Option setting.Value) {field : String} (h : field ≠ setting.field.name)
    (d : Document) (c : Config) :
    Config.record.set (setting.give x c) field d
      = (Config.record.set c field d).map (setting.give x) := by
  cases setting with
  | timeout =>
    unfold Config.record
    dsimp only [give]
    split
    case h_4 => exact absurd rfl h
    case h_9 => rfl
    all_goals exact map_eq_map_map fun _ => rfl
  | verify =>
    unfold Config.record
    dsimp only [give]
    split
    case h_5 => exact absurd rfl h
    case h_9 => rfl
    all_goals exact map_eq_map_map fun _ => rfl

/-- The setting is kept apart in a configuration. -/
theorem apart (setting : SharedSetting) :
    Config.record.Apart setting.field.name setting.configured setting.give none where
  free := by decide
  once := by decide
  known := by cases setting <;> decide
  set_eq := by cases setting <;> exact fun _ _ => rfl
  set_put x a d _ h := set_give x h d a
  put_put := by cases setting <;> exact fun _ _ _ => rfl
  read_null := by cases setting <;> rfl
  put_start := by cases setting <;> rfl

end SharedSetting

/-! ## The two readers of a setting -/

/-- The words for truth values. -/
theorem Text.plain_true : ∀ c ∈ "true".toList, c ∈ Text.plainLetters := by
  have all : "true".toList.all (· ∈ Text.plainLetters) = true := by decide
  simpa using all

theorem Text.plain_false : ∀ c ∈ "false".toList, c ∈ Text.plainLetters := by
  have all : "false".toList.all (· ∈ Text.plainLetters) = true := by decide
  simpa using all

theorem Schema.truthLike?_text (s : String) :
    Schema.truthLike? (.text s) =
      if Text.eqIgnoringAsciiCase (Text.trimmed s) "true" then .ok (some true)
      else if Text.eqIgnoringAsciiCase (Text.trimmed s) "false" then .ok (some false)
      else .error (.other ("expected a boolean, found '" ++ s ++ "'")) := by
  simp only [truthLike?, ← Text.toLower_eq_iff Text.plain_true,
    ← Text.toLower_eq_iff Text.plain_false]
  split
  case h_1 h => rw [if_pos h]
  case h_2 h => rw [h, if_neg (by decide), if_pos rfl]
  case h_3 ht hf => rw [if_neg ht, if_neg hf]

namespace SharedSetting

/-- **The seconds** are read in the same way in both places. The faults are not the same,
as each reader has its own words; so what is compared is what is read. -/
theorem own_timeout (found : Document.field? "timeout" fields = some d) :
    (Request.number? fields .timeout).toOption = (Schema.numberLike? d).toOption := by
  unfold Request.number? Schema.numberLike?
  simp only [RequestField.name, found]
  cases d with
  | text s =>
    dsimp only
    cases Decimal.ofText? (Text.trimmed s) with
    | none => rfl
    | some x => rfl
  | null | bool | number | list | mapping => rfl

/-- A truth value in any letter case, as a step reads it, has no blanks around it. -/
theorem trimmed_of_truth {s : String} (h : Text.eqIgnoringAsciiCase s "true" = true
    ∨ Text.eqIgnoringAsciiCase s "false" = true) : Text.trimmed s = s := by
  rcases h with h | h
  · exact Text.trimmed_of_word Text.plain_true h
  · exact Text.trimmed_of_word Text.plain_false h

/-- **The truth value** is read in the same way in both places, unless there are blanks
around it. -/
theorem own_verify (found : Document.field? "verify" fields = some d) (h : ¬ d.PaddedTruth) :
    (Request.truth? fields .verify).toOption = (Schema.truthLike? d).toOption := by
  unfold Request.truth?
  simp only [RequestField.name, found]
  cases d with
  | text s =>
    rw [Schema.truthLike?_text]
    dsimp only
    by_cases hs : Text.trimmed s = s
    · rw [hs]
      split
      · rfl
      · split <;> rfl
    · -- with blanks around it, it is no truth value in either place
      have refused (w : String) (hw : w = "true" ∨ w = "false") :
          ¬ Text.eqIgnoringAsciiCase s w = true
            ∧ ¬ Text.eqIgnoringAsciiCase (Text.trimmed s) w = true := by
        rcases hw with rfl | rfl
        · exact ⟨fun ht => hs (trimmed_of_truth (.inl ht)), fun ht => h ⟨s, rfl, hs, .inl ht⟩⟩
        · exact ⟨fun hf => hs (trimmed_of_truth (.inr hf)), fun hf => h ⟨s, rfl, hs, .inr hf⟩⟩
      rw [if_neg (refused "true" (.inl rfl)).1, if_neg (refused "false" (.inr rfl)).1,
        if_neg (refused "true" (.inl rfl)).2, if_neg (refused "false" (.inr rfl)).2]
      rfl
  | null | bool | number | list | mapping => rfl

/-- **A truth value with blanks around it** is read in a configuration and not in a step.
This holds of all such texts, and so the exception is exact. -/
theorem own_of_padded (found : Document.field? "verify" fields = some d) (h : d.PaddedTruth) :
    (∃ fault, Request.truth? fields .verify = .error fault)
      ∧ ∃ b, Schema.truthLike? d = .ok (some b) := by
  obtain ⟨s, rfl, hs, word⟩ := h
  constructor
  · unfold Request.truth?
    simp only [RequestField.name, found]
    rw [if_neg fun ht => hs (trimmed_of_truth (.inl ht)),
      if_neg fun hf => hs (trimmed_of_truth (.inr hf))]
    exact ⟨_, rfl⟩
  · rw [Schema.truthLike?_text]
    split
    next => exact ⟨true, rfl⟩
    next untrue => exact ⟨false, if_pos (word.resolve_left untrue)⟩

end SharedSetting

/-! ## Moving a setting -/

namespace Request

section Elsewhere

variable {α : Type} {field : RequestField} {fields fields' : Fields}

theorem field?_congr (read : Document → Except ReadFault α)
    (same : Document.field? field.name fields' = Document.field? field.name fields) :
    field? read fields' field = field? read fields field := by
  rw [field?, field?, same]

theorem required_congr (read : Document → Except ReadFault α) (missing : String)
    (same : Document.field? field.name fields' = Document.field? field.name fields) :
    required read fields' field missing = required read fields field missing := by
  rw [required, required, field?_congr read same]

theorem pairs_congr
    (same : Document.field? field.name fields' = Document.field? field.name fields) :
    pairs fields' field = pairs fields field := by
  rw [pairs, pairs, field?_congr _ same]

theorem bodyFrom_congr (fs : FileSystem) (filesDir : String)
    (same : Document.field? "body" fields' = Document.field? "body" fields)
    (t? : Option BodyType) : bodyFrom fs filesDir fields' t? = bodyFrom fs filesDir fields t? := by
  rw [bodyFrom, bodyFrom, same]

theorem filesFrom_congr (fs : FileSystem) (filesDir : String)
    (same : Document.field? RequestField.files.name fields'
      = Document.field? RequestField.files.name fields)
    (t? : Option BodyType) :
    filesFrom fs filesDir fields' t? = filesFrom fs filesDir fields t? := by
  rw [filesFrom, filesFrom, field?_congr _ same]

theorem number?_congr
    (same : Document.field? field.name fields' = Document.field? field.name fields) :
    number? fields' field = number? fields field := by
  rw [number?, number?, same]

theorem truth?_congr
    (same : Document.field? field.name fields' = Document.field? field.name fields) :
    truth? fields' field = truth? fields field := by
  rw [truth?, truth?, same]

end Elsewhere

end Request

namespace SharedSetting

variable {setting : SharedSetting} {x : Option setting.Value} {fields fields' : Fields}
  {c : Config}

/-- The other fields of a step have other names. -/
theorem name_ne_field {f : RequestField} (hf : f ≠ .timeout ∧ f ≠ .verify) :
    f.name ≠ setting.field.name := by
  revert hf
  cases setting <;> cases f <;> decide

theorem own_of_lacks (lacks : Document.field? setting.field.name fields = none) :
    setting.own fields = .ok none := by
  cases setting with
  | timeout =>
    show Request.number? fields .timeout = .ok none
    unfold Request.number?
    rw [show Document.field? RequestField.timeout.name fields = none from lacks]
  | verify =>
    show Request.truth? fields .verify = .ok none
    unfold Request.truth?
    rw [show Document.field? RequestField.verify.name fields = none from lacks]

/-- **A setting that is moved** from a step to its document leaves the request as it is.
The section has the field no more, and the rest of it is found as before; the configuration
has the value that the step gave, and it had none before. -/
theorem ofFields_move (own : setting.own fields = .ok x) (unset : setting.give none c = c)
    (lacks : Document.field? setting.field.name fields' = none)
    (elsewhere : ∀ name, name ≠ setting.field.name →
      Document.field? name fields' = Document.field? name fields)
    (store : Store) (fs : FileSystem) (defaults : RequestDefaults) :
    Request.ofFields fields' (setting.give x c) store fs defaults
      = Request.ofFields fields c store fs defaults := by
  -- the fields besides the two settings, each with its reader
  have same (f : RequestField) (hf : f ≠ .timeout ∧ f ≠ .verify) :
      Document.field? f.name fields' = Document.field? f.name fields :=
    elsewhere f.name (name_ne_field hf)
  have method (missing) := Request.required_congr (Schema.name Method.names) missing
    (same .method (by decide))
  have url (missing) := Request.required_congr Schema.text missing (same .url (by decide))
  have params := Request.pairs_congr (same .params (by decide))
  have bodyType := Request.field?_congr (Schema.name BodyType.names) (same .bodyType (by decide))
  have headers := Request.pairs_congr (same .headers (by decide))
  have body := Request.bodyFrom_congr fs defaults.filesDir (same .body (by decide))
  have files := Request.filesFrom_congr fs defaults.filesDir (same .files (by decide))
  have engine := Request.field?_congr (Schema.name Engine.names) (same .engine (by decide))
  have drafted (time : Request.timeoutFrom fields' (setting.give x c) defaults
      = Request.timeoutFrom fields c defaults) :
      Request.draft fields' (setting.give x c) store fs defaults
        = Request.draft fields c store fs defaults := by
    simp only [Request.draft, method, url, params, bodyType, headers, body, files, time]
    cases setting <;> rfl
  have moved := own_of_lacks lacks
  -- of the settings, the one that is moved has no place in the section any more
  cases setting with
  | timeout =>
    have verify := Request.truth?_congr (elsewhere RequestField.verify.name (by decide))
    have time : Request.timeoutFrom fields' (give timeout x c) defaults
        = Request.timeoutFrom fields c defaults := by
      unfold Request.timeoutFrom
      rw [show Request.number? fields' .timeout = .ok none from moved,
        show Request.number? fields .timeout = .ok x from own, ← unset]
      cases x <;> rfl
    simp only [Request.ofFields, drafted time, Request.Draft.finish, verify, engine]
    rfl
  | verify =>
    have time : Request.timeoutFrom fields' (give verify x c) defaults
        = Request.timeoutFrom fields c defaults := by
      unfold Request.timeoutFrom
      rw [Request.number?_congr (elsewhere RequestField.timeout.name (by decide))]
      rfl
    have moved : Request.truth? fields' .verify = .ok none := moved
    have given : Request.truth? fields .verify = .ok x := own
    have finished (r : Request.Draft) (timeout : Nat) :
        r.finish timeout fields' (give verify x c) defaults
          = r.finish timeout fields c defaults := by
      rw [← unset]
      simp only [Request.Draft.finish, moved, given, engine]
      cases x <;> rfl
    simp only [Request.ofFields, drafted time, finished]

end SharedSetting

/-! ## A setting of a step and of its document -/

theorem Config.read_eq_ok_iff {d : Document} {location : String} {c : Config} (h : d ≠ .null) :
    Config.read (some d) location = .ok c ↔ Config.record.read d = .ok c := by
  unfold Config.read
  split
  case h_1 heq => cases heq
  case h_2 heq => exact absurd (Option.some.inj heq) h
  case h_3 heq => exact Option.some.inj heq ▸ mapError_eq_ok_iff

namespace SharedSetting

variable {setting : SharedSetting} {d whole rest : Document} {fields : Fields} {c : Config}
  {location : String}

theorem toOption_own (found : Document.field? setting.field.name fields = some d)
    (h : ¬ (setting = .verify ∧ d.PaddedTruth)) :
    (setting.own fields).toOption = (setting.configured d).toOption := by
  cases setting with
  | timeout => exact own_timeout found
  | verify => exact own_verify found fun padded => h ⟨rfl, padded⟩

/-- **Settings are spelled alike** in a step and in the configuration of its document, but
for truth values with blanks around them. What a step gives can be moved to the
configuration, and the request stays the same.

The setting is given by a document `d`, which stands in the section of a step, or in a
configuration that says all else besides (`rest`). The last part is about requests and not
about readers: two sections and two configurations, of which one pair has the setting in
the step and the other has it in the configuration, are read to the same request or to the
same fault. -/
theorem same_spellings_iff (found : Document.field? setting.field.name fields = some d)
    (gives : Config.record.Gives setting.field.name d whole rest)
    (hrest : Config.read (some rest) location = .ok c) :
    ((Config.read (some whole) location).toOption
          = (setting.own fields).toOption.map (setting.give · c)
        ↔ ¬ (setting = .verify ∧ d.PaddedTruth))
      ∧ (setting = .verify ∧ d.PaddedTruth → (∃ fault, setting.own fields = .error fault)
          ∧ ∃ b, Config.read (some whole) location = .ok (verify.give (some b) c))
      ∧ ∀ x, setting.own fields = .ok x →
          Config.read (some whole) location = .ok (setting.give x c)
            ∧ ∀ fields', Document.field? setting.field.name fields' = none →
                (∀ name, name ≠ setting.field.name →
                  Document.field? name fields' = Document.field? name fields) →
                ∀ store fs defaults place,
                  Request.ofDocument (.mapping fields') (setting.give x c) store fs defaults place
                    = Request.ofDocument (.mapping fields) c store fs defaults place := by
  obtain ⟨unset, read⟩ := setting.apart.read_iff gives
    ((Config.read_eq_ok_iff gives.ne_null.2).mp hrest)
  have read_whole (c') : Config.read (some whole) location = .ok c' ↔
      ∃ x, setting.configured d = .ok x ∧ setting.give x c = c' :=
    (Config.read_eq_ok_iff gives.ne_null.1).trans (read c')
  have refused : setting = .verify ∧ d.PaddedTruth → (∃ fault, setting.own fields = .error fault)
      ∧ ∃ b, Config.read (some whole) location = .ok (verify.give (some b) c) := by
    rintro ⟨rfl, padded⟩
    obtain ⟨fault, b, hb⟩ := own_of_padded found padded
    exact ⟨fault, b, (read_whole _).mpr ⟨some b, hb, rfl⟩⟩
  refine ⟨⟨fun alike padded => ?_, fun h => ?_⟩, refused, fun x own => ⟨?_, ?_⟩⟩
  · obtain ⟨⟨fault, own⟩, b, hb⟩ := refused padded
    rw [own, hb] at alike
    cases alike
  · rw [toOption_own found h]
    exact toOption_eq_map read_whole
  · have plain : ¬ (setting = .verify ∧ d.PaddedTruth) := fun padded => by
      obtain ⟨⟨fault, refused⟩, -⟩ := refused padded
      cases own.symm.trans refused
    refine (read_whole _).mpr ⟨x, toOption_eq_some_iff.mp ?_, rfl⟩
    rw [← toOption_own found plain, own]
    rfl
  · intro fields' lacks elsewhere store fs defaults place
    exact congrArg (Except.mapError _) (ofFields_move own unset lacks elsewhere store fs defaults)

/-- A step checks certificates, and its document names an environment. -/
theorem same_spellings_of_capitals :
    Config.read (some (.mapping [("env", .text "dev"), ("verify", .text "TRUE")])) "a"
        = .ok { env := some "dev", verify := some true }
      ∧ ∀ store fs defaults place,
          Request.ofDocument (.mapping [("url", .text "/a")])
              { env := some "dev", verify := some true } store fs defaults place
            = Request.ofDocument (.mapping [("url", .text "/a"), ("verify", .text "TRUE")])
              { env := some "dev" } store fs defaults place := by
  obtain ⟨-, -, move⟩ := same_spellings_iff
    (show Document.field? verify.field.name [("url", .text "/a"), ("verify", .text "TRUE")]
      = some (.text "TRUE") from rfl)
    (@Schema.Record.Gives.member _ Config.record _ (.text "TRUE") [("env", .text "dev")] []
      (by decide))
    (show Config.read (some (.mapping [("env", .text "dev")])) "a" = .ok { env := some "dev" } from
      rfl)
  obtain ⟨read, move⟩ := move (some true) rfl
  refine ⟨read, move [("url", .text "/a")] rfl fun name other => ?_⟩
  have other : "verify" ≠ name := other.symm
  simp only [Document.field?, if_neg other]

/-- A truth value that a configuration may give and a step may not. -/
theorem reads_padded_truth :
    Request.truth? [("verify", .text " true")] .verify
        = .error { field := .verify, text := "expected true or false, found \" true\"" }
      ∧ Config.read (some (.mapping [("verify", .text " true")])) "a"
        = .ok { verify := some true } :=
  ⟨rfl, rfl⟩

end SharedSetting

end CaseRunner
