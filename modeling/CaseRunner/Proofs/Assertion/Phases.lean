import CaseRunner.Assertion.Check
import CaseRunner.Proofs.Computation
import CaseRunner.Proofs.Expression.Acceptance

/-!
# Assertions are read before any is checked

The items of an assertion are gone through twice: first all of them are read, then they are
checked in order. So a mistake in the writing of the last item is found before anything
else, and before the database is asked; and if there is none, each item has the verdict
that it has on its own, given the statements that the items before it have asked
(`AssertItem.verdict`).

Both passes stop at the first item that goes wrong, and the error names it. The two kinds
of error never mix: only the first pass speaks of mistakes in the writing
(`checkAll_in_two_passes`). That checking what was read never does so rests on the grammar,
which lets no type be compared with a type.

The database is a function of the statement and of those asked before, so that its answer
may be another one each time. That an item is checked on its own can only mean, therefore,
that the same statements have been asked before, and which these are is said by the items
in front of it.
-/

namespace CaseRunner

/-! ## Mistakes in the writing -/

namespace RunError

/-- Is the error that a text is not in the language of assertions? -/
def isSyntaxFault : RunError → Bool
  | .assertSyntax _ => true
  | _ => false

theorem isSyntaxFault_at (e : RunError) (location : String) :
    (e.at location).isSyntaxFault = e.isSyntaxFault := by
  cases e <;> rfl

/-- The error is no mistake in the writing of an assertion. -/
abbrev NoSyntaxFault (e : RunError) : Prop := e.isSyntaxFault = false

end RunError

open RunError

/-- A text that is no assertion is a mistake in the writing. -/
theorem Expression.isSyntaxFault_of_parseAssertion {source : String} {e : RunError}
    (h : parseAssertion source = .error e) : e.isSyntaxFault = true := by
  obtain ⟨fault, -, rfl⟩ := mapError_eq_error_iff.mp h
  rfl

/-- **An assertion that was read is true, false, or compares what cannot be compared.**
Evaluation has one more way to fail, for two types that are compared with each other, and
what was read has no two types. -/
theorem Expression.evaluate_of_parseAssertion {source : String} {a : Assertion}
    (h : parseAssertion source = .ok a) (answer : Document) :
    (∃ b, a.comparison.evaluate answer a.source = .ok b)
      ∨ ∃ text, a.comparison.evaluate answer a.source = .error (.assertion text) := by
  -- what was read compares no type with a type
  have once : ¬ (a.comparison.left.isTyped = true ∧ a.comparison.right.isTyped = true) := by
    obtain ⟨⟨c, note⟩, hc, rfl⟩ := map_eq_ok_iff.mp (mapError_eq_ok_iff.mp h)
    obtain ⟨ts, -, hts⟩ := bind_eq_ok_iff.mp hc
    obtain ⟨-, -, fit⟩ := assertionOfTokens_eq_ok_iff.mp hts
    rintro ⟨hl, hr⟩
    have := fit.once
    simp [Comparison.operands, hl, hr] at this
  have typed_of_resolve : ∀ {o : Operand} {t : TypeTest}, o.resolve answer = .typed t →
      o.isTyped = true := by
    intro o t ho
    cases o with
    | typed t' => rfl
    | literal | accessor => cases ho
  unfold Comparison.evaluate
  dsimp only
  split
  next => exact .inl ⟨_, rfl⟩
  next => exact .inl ⟨_, rfl⟩
  next hl hr => exact absurd ⟨typed_of_resolve hl, typed_of_resolve hr⟩ once
  next =>
    split
    · exact .inl ⟨_, rfl⟩
    · exact .inr ⟨_, rfl⟩

/-- So it is no mistake in the writing, whatever comes of it. -/
theorem Expression.noSyntaxFault_check {source : String} {a : Assertion}
    (h : parseAssertion source = .ok a) (answer : Document) :
    Fails NoSyntaxFault (a.check answer) := by
  intro e he
  rcases bind_eq_error_iff.mp he with he | ⟨b, -, he⟩
  · rcases evaluate_of_parseAssertion h answer with ⟨b, hb⟩ | ⟨text, htext⟩
    · rw [hb] at he
      cases he
    · rw [htext] at he
      cases he
      rfl
  · cases b <;> cases he
    rfl

/-- Comparing values goes wrong only as a false assertion does. -/
theorem Comparator.fails_compare (c : Comparator) (actual expected : Document) :
    Fails NoSyntaxFault (c.compare actual expected) := by
  have ordered : Fails NoSyntaxFault (order actual expected) := by
    unfold order
    split
    · exact .ok _
    · exact .error rfl
  have measured : ∀ d, Fails NoSyntaxFault (length d) := by
    intro d
    cases d with
    | text | list | mapping => exact .ok _
    | null | bool | number => exact .error rfl
  have wanted : Fails NoSyntaxFault (threshold expected) := by
    unfold threshold
    split
    · split
      · exact .ok _
      · exact .error rfl
    · exact measured _
  have lengths : ∀ test, Fails NoSyntaxFault (compareLengths test actual expected) :=
    fun test => (measured actual).bind fun _ => wanted.bind fun _ => .ok _
  have held : Fails NoSyntaxFault (holds actual expected) := by
    unfold holds
    dsimp only
    split
    · exact .ok _
    · exact .error rfl
  cases c with
  | eq | notEq | strEq | startswith | endswith => exact .ok _
  | gt | ge | lt | le => exact ordered.map
  | lenEq | notLenEq | lenGt | lenGe | lenLt | lenLe => exact lengths _
  | contains => exact held
  | notContains => exact held.map

/-- A path assertion is no mistake in the writing, unless the database says so. -/
theorem PathAssertion.raises_test (a : PathAssertion) (reply : Reply)
    {database? : Option Database} (honest : ∀ db, database? = some db → ∀ asked statement,
      Fails NoSyntaxFault (db asked statement)) :
    Raises NoSyntaxFault (a.test reply database?) := by
  have searched : Raises NoSyntaxFault (a.subject reply database?) := by
    unfold subject
    split
    · exact Raises.pure _
    next statement _ =>
      cases hdb : database? with
      | none => exact Raises.throw rfl
      | some db =>
        have asking : Raises NoSyntaxFault (db.ask statement) := fun asked e _ h =>
          honest db hdb asked statement e (congrArg Prod.fst h)
        refine asking.bind fun row? => ?_
        cases row? with
        | none => exact Raises.throw rfl
        | some row => exact Raises.pure _
  have found : ∀ d path location, Fails NoSyntaxFault (JsonPath.findFirst d path location) := by
    intro d path location
    unfold JsonPath.findFirst JsonPath.findAll
    refine Fails.bind ?_ fun found => ?_
    · split
      · exact .ok _
      · exact .error rfl
    · cases found with
      | nil => exact .error rfl
      | cons d rest => exact .ok d
  refine searched.bind fun subject => Raises.mk_pure ((found _ _ _).bind fun actual => ?_)
  refine (a.comparator.fails_compare actual a.value).bind fun b => ?_
  cases b with
  | true => exact .ok _
  | false => exact .error rfl

/-! ## Items on their own -/

namespace AssertItem

/-- **The item can be read**: if it is written in the language of assertions, it is one of
that language. An item that names a path is no text to be read, so that there is nothing to
ask of it. -/
def Readable (item : AssertItem) : Prop :=
  ∀ source, item = .code source → ∃ a, Expression.parseAssertion source = .ok a

/-- Checks an item on its own. -/
def test (item : AssertItem) (reply : Reply) (database? : Option Database) : Asking Unit := do
  let a ← ExceptT.mk (pure item.prepare)
  a.check reply database?

/-- **What comes of an item on its own**, once certain statements were asked. It is the
item that is read and checked, and no other item has a part in it but by these statements.
-/
def verdict (item : AssertItem) (reply : Reply) (database? : Option Database)
    (asked : List String) : Except RunError Unit :=
  ((item.test reply database?).run asked).1

/-- The statements that checking an item asks. -/
def asks (database? : Option Database) : AssertItem → List String
  | .code _ => []
  | .path a => if database?.isSome then a.sql.toList else []

/-- **The statements asked after so many items**, the last one first. They are known from
the items alone, and not from what has come of checking them: an item asks its statement or
has none, whatever the answer is. -/
def askedAfter (database? : Option Database) (items : List AssertItem) (n : Nat)
    (asked : List String) : List String :=
  ((items.take n).flatMap (·.asks database?)).reverse ++ asked

/-- **The first so many items hold**, each on its own. An index behind the last item is no
item, so that more than all items hold if all do. -/
def Hold (reply : Reply) (database? : Option Database) (items : List AssertItem)
    (asked : List String) (n : Nat) : Prop :=
  ∀ j < n, ∀ item, items[j]? = some item →
    item.verdict reply database? (askedAfter database? items j asked) = .ok ()

variable {item : AssertItem} {items : List AssertItem} {reply : Reply}
  {database? : Option Database} {location : String} {asked : List String} {i n : Nat}

/-- What can be read is read. -/
theorem Readable.exists_prepare (h : item.Readable) : ∃ a, item.prepare = .ok a := by
  cases item with
  | code source =>
    obtain ⟨a, ha⟩ := h source rfl
    exact ⟨.code a, by rw [prepare, ha]; rfl⟩
  | path a => exact ⟨.path a, rfl⟩

/-- Looking for what a path assertion searches asks the statement of the
assertion. -/
theorem asked_of_subject {a : PathAssertion} {r : Except RunError (Document × String)}
    {t : List String} (h : Yields (a.subject reply database?) asked r t) :
    t = ((path a).asks database?).reverse ++ asked := by
  unfold PathAssertion.subject at h
  show t = (if database?.isSome then a.sql.toList else []).reverse ++ asked
  cases hsql : a.sql with
  | none =>
    rw [hsql] at h
    obtain ⟨-, rfl⟩ := yields_pure_iff.mp h
    rw [Option.toList_none, ite_self]
    rfl
  | some statement =>
    rw [hsql] at h
    cases database? with
    | none => exact (yields_throw_iff.mp h).2
    | some db =>
      -- the answer does not matter, only that the statement was asked
      have asked_of_ask : ∀ {r t}, Yields (db.ask statement) asked r t →
          t = statement :: asked := fun h => (congrArg Prod.snd h).symm
      rcases yields_bind_iff.mp h with ⟨row?, s, hask, h⟩ | ⟨e, hask, -⟩
      · obtain rfl := asked_of_ask hask
        cases row? with
        | none => exact (yields_throw_iff.mp h).2
        | some row => exact (yields_pure_iff.mp h).2
      · exact asked_of_ask hask

/-- Checking an item asks its statements, whatever comes of it. -/
theorem run_test (item : AssertItem) (reply : Reply) (database? : Option Database)
    (asked : List String) : (item.test reply database?).run asked
      = (item.verdict reply database? asked, (item.asks database?).reverse ++ asked) := by
  refine Prod.ext rfl ?_
  show ((item.test reply database?).run asked).2 = _
  cases item with
  | code source =>
    rw [test, prepare]
    cases Expression.parseAssertion source <;> rfl
  | path a =>
    have ran : Yields (a.test reply database?) asked _ _ := yields_run _ asked
    show ((a.test reply database?).run asked).2 = _
    rcases yields_bind_iff.mp ran with ⟨subject, s, hsubject, hverify⟩ | ⟨e, hsubject, -⟩
    · rw [(yields_mk_pure_iff.mp hverify).2]
      exact asked_of_subject hsubject
    · exact asked_of_subject hsubject

/-! ## The verdicts -/

/-- **An item that can be read is never a mistake in the writing**, unless the
database says so. -/
theorem Readable.noSyntaxFault_verdict (readable : item.Readable)
    (honest : ∀ db, database? = some db → ∀ asked statement,
      Fails NoSyntaxFault (db asked statement)) :
    Fails NoSyntaxFault (item.verdict reply database? asked) := by
  have raises : Raises NoSyntaxFault (item.test reply database?) := by
    obtain ⟨a, ha⟩ := readable.exists_prepare
    rw [test, ha]
    cases item with
    | code source =>
      obtain ⟨a, hread, rfl⟩ := map_eq_ok_iff.mp ha
      exact Raises.mk_pure (Expression.noSyntaxFault_check hread _)
    | path a =>
      cases ha
      exact a.raises_test reply honest
  exact fun e he => raises asked e _ (Prod.ext he rfl)

/-! ## Items in turn -/

theorem askedAfter_cons_succ (item : AssertItem) (items : List AssertItem) (n : Nat)
    (asked : List String) : askedAfter database? (item :: items) (n + 1) asked
      = askedAfter database? items n ((item.asks database?).reverse ++ asked) := by
  unfold askedAfter
  rw [List.take_succ_cons, List.flatMap_cons, List.reverse_append, List.append_assoc]

/-- The first items hold if the very first one does and, after its statements, those
that follow it. -/
theorem hold_cons_succ_iff : Hold reply database? (item :: items) asked (n + 1) ↔
    item.verdict reply database? asked = .ok ()
      ∧ Hold reply database? items ((item.asks database?).reverse ++ asked) n := by
  constructor
  · intro h
    refine ⟨h 0 n.succ_pos item rfl, fun j hj other hother => ?_⟩
    rw [← askedAfter_cons_succ]
    exact h (j + 1) (Nat.succ_lt_succ hj) other hother
  · rintro ⟨first, others⟩ j hj other hother
    cases j with
    | zero =>
      cases hother
      exact first
    | succ j =>
      rw [askedAfter_cons_succ]
      exact others j (Nat.lt_of_succ_lt_succ hj) other hother

/-- **If not all items hold, there is a first one that does not.** By induction on how many
are asked for. -/
theorem exists_first_of_not_hold (h : ¬ Hold reply database? items asked n) :
    ∃ i item e, items[i]? = some item ∧ Hold reply database? items asked i
      ∧ item.verdict reply database? (askedAfter database? items i asked) = .error e := by
  induction n with
  | zero => exact absurd (fun j hj => absurd hj j.not_lt_zero) h
  | succ n ih =>
    by_cases before : Hold reply database? items asked n
    · obtain ⟨j, hj, item, hitem, fails⟩ : ∃ j < n + 1, ∃ item, items[j]? = some item
          ∧ item.verdict reply database? (askedAfter database? items j asked) ≠ .ok () := by
        simpa [Hold] using h
      have hjn : j = n := by
        by_contra hne
        exact fails (before j (by omega) item hitem)
      subst hjn
      cases hv : item.verdict reply database? (askedAfter database? items j asked) with
      | ok _ => exact absurd hv fails
      | error e => exact ⟨j, item, e, hitem, before, hv⟩
    · exact ih before

/-- Checks items in turn, each on its own, from the one with the given index on. -/
def testAll (reply : Reply) (database? : Option Database) (location : String) :
    Nat → List AssertItem → Asking Unit
  | _, [] => return ()
  | i, item :: rest => do
    (item.test reply database?).adapt (RunError.at · (joinIndex location i))
    testAll reply database? location (i + 1) rest

/-- The first item is tested, and the others only if it was right, at their own places.
What was asked for the first one has been asked either way. -/
theorem run_testAll_cons (item : AssertItem) (rest : List AssertItem) :
    (testAll reply database? location i (item :: rest)).run asked
      = match item.verdict reply database? asked with
        | .ok _ => (testAll reply database? location (i + 1) rest).run
            ((item.asks database?).reverse ++ asked)
        | .error e => (.error (e.at (joinIndex location i)),
            (item.asks database?).reverse ++ asked) := by
  have adapted : ((item.test reply database?).adapt (RunError.at · (joinIndex location i))).run
      asked = ((item.verdict reply database? asked).mapError
        (RunError.at · (joinIndex location i)), (item.asks database?).reverse ++ asked) := by
    rw [show ((item.test reply database?).adapt (RunError.at · (joinIndex location i))).run asked
      = ((((item.test reply database?).run asked).1).mapError
        (RunError.at · (joinIndex location i)), ((item.test reply database?).run asked).2)
      from rfl, run_test]
  rw [testAll, run_bind, adapted]
  cases item.verdict reply database? asked <;> rfl

/-- If all items hold, all their statements are asked. -/
theorem run_testAll_of_hold (h : Hold reply database? items asked items.length) :
    (testAll reply database? location i items).run asked
      = (.ok (), askedAfter database? items items.length asked) := by
  induction items generalizing asked i with
  | nil => rfl
  | cons item rest ih =>
    obtain ⟨first, others⟩ := hold_cons_succ_iff.mp h
    rw [run_testAll_cons, first, List.length_cons, askedAfter_cons_succ]
    exact ih others

/-- **The first item that does not hold is the error**, and nothing is asked after it. What
it has asked itself stays asked. -/
theorem run_testAll_of_first {k : Nat} {e : RunError} (hk : items[k]? = some item)
    (before : Hold reply database? items asked k)
    (fails : item.verdict reply database? (askedAfter database? items k asked) = .error e) :
    (testAll reply database? location i items).run asked
      = (.error (e.at (joinIndex location (i + k))),
        askedAfter database? items (k + 1) asked) := by
  induction items generalizing asked i k with
  | nil => cases hk
  | cons first rest ih =>
    rw [run_testAll_cons]
    cases k with
    | zero =>
      cases hk
      rw [show item.verdict reply database? asked = .error e from fails]
      rw [askedAfter_cons_succ]
      rfl
    | succ k =>
      obtain ⟨holds, before⟩ := hold_cons_succ_iff.mp before
      rw [askedAfter_cons_succ] at fails ⊢
      rw [holds]
      show (testAll reply database? location (i + 1) rest).run _ = _
      rw [ih hk before fails, Nat.add_right_comm]
      rfl

/-! ## The two passes -/

/-- If all items can be read, checking what was read is checking each on its
own. -/
theorem exists_of_readable (readable : ∀ item ∈ items, item.Readable) (reply : Reply)
    (database? : Option Database) (location : String) (i : Nat) :
    ∃ prepared, prepareAll location i items = .ok prepared
      ∧ checkPrepared location reply database? i prepared
        = testAll reply database? location i items := by
  induction items generalizing i with
  | nil => exact ⟨[], rfl, rfl⟩
  | cons item rest ih =>
    obtain ⟨head, tail⟩ := List.forall_mem_cons.mp readable
    obtain ⟨a, ha⟩ := head.exists_prepare
    obtain ⟨prepared, hprepared, hcheck⟩ := ih tail (i + 1)
    refine ⟨a :: prepared, ?_, ?_⟩
    · rw [prepareAll, ha, hprepared]
      rfl
    · rw [checkPrepared, testAll, test, ha, hcheck]
      rfl

theorem checkAll_of_readable (readable : ∀ item ∈ items, item.Readable) :
    checkAll items reply database? location = testAll reply database? location 0 items := by
  obtain ⟨prepared, hprepared, hcheck⟩ :=
    exists_of_readable readable reply database? location 0
  rw [checkAll, hprepared, ← hcheck]
  rfl

/-- **What the first item that does not hold amounts to** is decided by the items up
to it. -/
theorem run_checkAll_of_fails {items' : List AssertItem} {k : Nat} {e : RunError}
    (hk : items[k]? = some item) (before : Hold reply database? items asked k)
    (fails : item.verdict reply database? (askedAfter database? items k asked) = .error e)
    (same : items.take (k + 1) = items'.take (k + 1))
    (readable : ∀ item ∈ items', item.Readable) :
    (checkAll items' reply database? location).run asked
      = (.error (e.at (joinIndex location k)), askedAfter database? items (k + 1) asked) := by
  have get_eq : ∀ j ≤ k, items[j]? = items'[j]? := by
    intro j hj
    have hj := Nat.lt_succ_of_le hj
    rw [← List.getElem?_take_of_lt hj, same, List.getElem?_take_of_lt hj]
  have asked_eq : ∀ j ≤ k + 1,
      askedAfter database? items j asked = askedAfter database? items' j asked := by
    intro j hj
    have : items.take j = items'.take j := by
      rw [← Nat.min_eq_left hj, ← List.take_take, same, List.take_take]
    rw [askedAfter, this, askedAfter]
  have before' : Hold reply database? items' asked k := by
    intro j hj other hother
    rw [← asked_eq j (by omega)]
    exact before j hj other (by rw [get_eq j (Nat.le_of_lt hj), hother])
  rw [asked_eq k k.le_succ] at fails
  rw [checkAll_of_readable readable,
    run_testAll_of_first (get_eq k (Nat.le_refl _) ▸ hk) before' fails, Nat.zero_add,
    asked_eq (k + 1) (Nat.le_refl _)]

/-- The first item that cannot be read is the error of reading all. -/
theorem prepareAll_of_first {k : Nat} {source : String} {e : RunError}
    (hk : items[k]? = some (.code source))
    (fault : Expression.parseAssertion source = .error e)
    (before : ∀ item ∈ items.take k, item.Readable) :
    prepareAll location i items = .error (e.at (joinIndex location (i + k))) := by
  induction items generalizing i k with
  | nil => cases hk
  | cons first rest ih =>
    cases k with
    | zero =>
      cases hk
      rw [prepareAll, prepare, fault]
      rfl
    | succ k =>
      rw [List.take_succ_cons] at before
      obtain ⟨head, tail⟩ := List.forall_mem_cons.mp before
      obtain ⟨a, ha⟩ := head.exists_prepare
      rw [prepareAll, ha, ih hk tail, Nat.add_right_comm]
      rfl

/-- **If not all items can be read, there is a first one that cannot.** -/
theorem exists_first_of_not_readable (h : ¬ ∀ item ∈ items, item.Readable) :
    ∃ i source e, items[i]? = some (.code source)
      ∧ Expression.parseAssertion source = .error e ∧ ∀ item ∈ items.take i, item.Readable := by
  induction items with
  | nil => exact absurd (by simp) h
  | cons first rest ih =>
    by_cases head : first.Readable
    · obtain ⟨i, source, e, hi, fault, before⟩ :=
        ih fun tail => h (List.forall_mem_cons.mpr ⟨head, tail⟩)
      exact ⟨i + 1, source, e, hi, fault, List.forall_mem_cons.mpr ⟨head, before⟩⟩
    · obtain ⟨source, hsource, unread⟩ : ∃ source, first = .code source
          ∧ ∀ a, Expression.parseAssertion source ≠ .ok a := by
        simpa [Readable] using head
      cases fault : Expression.parseAssertion source with
      | ok a => exact absurd fault (unread a)
      | error e => exact ⟨0, source, e, congrArg some hsource, fault, by simp⟩

/-- An item that cannot be read is a text that is no assertion. -/
theorem not_readable_of_mem {source : String} {e : RunError} (hmem : .code source ∈ items)
    (fault : Expression.parseAssertion source = .error e) :
    ¬ ∀ item ∈ items, item.Readable := by
  intro readable
  obtain ⟨a, ha⟩ := readable _ hmem source rfl
  rw [fault] at ha
  cases ha

/-- A mistake in the writing ends the first pass, whatever there is to check. -/
theorem run_checkAll_of_first {k : Nat} {source : String} {e : RunError}
    (hk : items[k]? = some (.code source))
    (fault : Expression.parseAssertion source = .error e)
    (before : ∀ item ∈ items.take k, item.Readable) :
    (checkAll items reply database? location).run asked
      = (.error (e.at (joinIndex location k)), asked) := by
  rw [checkAll, prepareAll_of_first hk fault before, Nat.zero_add]
  rfl

/-- **If all items can be read, the second pass decides**: they all hold, or the first
one that does not is the error. -/
theorem run_checkAll_of_readable (readable : ∀ item ∈ items, item.Readable)
    (reply : Reply) (database? : Option Database) (location : String) (asked : List String) :
    (Hold reply database? items asked items.length
        ∧ (checkAll items reply database? location).run asked
          = (.ok (), askedAfter database? items items.length asked))
      ∨ ∃ i item e, items[i]? = some item ∧ Hold reply database? items asked i
        ∧ item.verdict reply database? (askedAfter database? items i asked) = .error e
        ∧ (checkAll items reply database? location).run asked
          = (.error (e.at (joinIndex location i)),
            askedAfter database? items (i + 1) asked) := by
  by_cases hold : Hold reply database? items asked items.length
  · refine .inl ⟨hold, ?_⟩
    rw [checkAll_of_readable readable, run_testAll_of_hold hold]
  · obtain ⟨i, item, e, hi, before, fails⟩ := exists_first_of_not_hold hold
    exact .inr ⟨i, item, e, hi, before, fails, run_checkAll_of_fails hi before fails rfl readable⟩

/-- Checking items that can all be read is never a mistake in the writing, unless the
database says so. -/
theorem raises_checkAll_of_readable (readable : ∀ item ∈ items, item.Readable)
    (honest : ∀ db, database? = some db → ∀ asked statement,
      Fails NoSyntaxFault (db asked statement)) :
    Raises NoSyntaxFault (checkAll items reply database? location) := by
  intro asked e t h
  obtain ⟨-, hran⟩ | ⟨i, item, e₀, hi, -, fails, hran⟩ :=
    run_checkAll_of_readable readable reply database? location asked
  · cases hran.symm.trans h
  · cases hran.symm.trans h
    rw [NoSyntaxFault, isSyntaxFault_at]
    exact (readable item (List.mem_of_getElem? hi)).noSyntaxFault_verdict honest _ fails

/-- **Checking ends with a mistake in the writing exactly if an item is a text that is no
assertion.** Mistakes in the writing are found in the first phase, before anything is
asked; the second has none to report, if the database does not speak of them either. -/
theorem exists_fault_of_checkAll_iff (honest : ∀ db, database? = some db →
      ∀ asked statement, Fails NoSyntaxFault (db asked statement)) :
    (∃ e, ((checkAll items reply database? location).run asked).1 = .error e
        ∧ e.isSyntaxFault = true)
      ↔ ∃ source e, .code source ∈ items ∧ Expression.parseAssertion source = .error e := by
  constructor
  · rintro ⟨e, he, fault⟩
    by_contra none
    have readable : ∀ item ∈ items, item.Readable := by
      by_contra h
      obtain ⟨i, source, e, hi, fault, -⟩ := exists_first_of_not_readable h
      exact none ⟨source, e, List.mem_of_getElem? hi, fault⟩
    have other : e.isSyntaxFault = false :=
      raises_checkAll_of_readable readable honest asked e _ (Prod.ext he rfl)
    rw [fault] at other
    cases other
  · rintro ⟨source, e, hmem, fault⟩
    obtain ⟨i, source', e', hi, fault', before⟩ :=
      exists_first_of_not_readable (not_readable_of_mem hmem fault)
    refine ⟨_, congrArg Prod.fst (run_checkAll_of_first hi fault' before), ?_⟩
    rw [isSyntaxFault_at]
    exact Expression.isSyntaxFault_of_parseAssertion fault'

end AssertItem

open AssertItem in
/-- **Assertions are checked in two passes.** Where the database reports no mistakes
in the writing of assertions:

* checking the items of an assertion ends with such a mistake exactly if one of
  them is a text that is no assertion;
* then the first of these is the error, and neither the reply nor the database
  matters, which is not asked anything;
* if there is none, all is well exactly if every item holds on its own; otherwise
  the first item that does not is the error, the database was asked by the items up
  to it alone, and the items behind it do not matter;
* an assertion that was read is true or false of whatever reply, or compares what
  cannot be compared. -/
theorem checkAll_in_two_passes (items : List AssertItem) (reply : Reply)
    (database? : Option Database)
    (honest : ∀ db, database? = some db → ∀ asked statement,
      Fails NoSyntaxFault (db asked statement))
    (location : String) (asked : List String) :
    let ran := (checkAll items reply database? location).run asked
    ((∃ e, ran.1 = .error e ∧ e.isSyntaxFault = true) ↔
        ∃ source e, .code source ∈ items ∧ Expression.parseAssertion source = .error e)
      ∧ (∀ i source e, items[i]? = some (.code source) →
          Expression.parseAssertion source = .error e →
          (∀ item ∈ items.take i, item.Readable) →
          e.isSyntaxFault = true
            ∧ ∀ reply' database?' asked', (checkAll items reply' database?' location).run asked'
              = (.error (e.at (joinIndex location i)), asked'))
      ∧ ((∀ item ∈ items, item.Readable) →
          (ran.1 = .ok () ↔ Hold reply database? items asked items.length)
            ∧ (ran.1 = .ok () → ran.2 = askedAfter database? items items.length asked)
            ∧ ∀ e, ran.1 = .error e → ∃ i item e₀, items[i]? = some item
              ∧ Hold reply database? items asked i
              ∧ item.verdict reply database? (askedAfter database? items i asked) = .error e₀
              ∧ e = e₀.at (joinIndex location i)
              ∧ ran.2 = askedAfter database? items (i + 1) asked
              ∧ ∀ later, (∀ item ∈ later, item.Readable) →
                (checkAll (items.take (i + 1) ++ later) reply database? location).run asked = ran)
      ∧ ∀ source a, Expression.parseAssertion source = .ok a → ∀ answer,
          (∃ b, a.comparison.evaluate answer a.source = .ok b)
            ∨ ∃ text, a.comparison.evaluate answer a.source = .error (.assertion text) := by
  intro ran
  refine ⟨exists_fault_of_checkAll_iff honest, fun i source e hi fault before => ?_,
    fun readable => ?_, fun source a ha => Expression.evaluate_of_parseAssertion ha⟩
  · exact ⟨Expression.isSyntaxFault_of_parseAssertion fault,
      fun _ _ _ => run_checkAll_of_first hi fault before⟩
  · obtain ⟨hold, hran⟩ | ⟨i, item, e₀, hi, before, fails, hran⟩ :=
      run_checkAll_of_readable readable reply database? location asked
    · rw [show ran = _ from hran]
      exact ⟨iff_of_true rfl hold, fun _ => rfl, nofun⟩
    · have hlt : i < items.length := (List.getElem?_eq_some_iff.mp hi).1
      rw [show ran = _ from hran]
      refine ⟨iff_of_false nofun fun hold => ?_, nofun, fun e he => ?_⟩
      · have holds := hold i hlt item hi
        rw [fails] at holds
        cases holds
      · cases he
        refine ⟨i, item, e₀, hi, before, fails, rfl, rfl, fun later hlater => ?_⟩
        refine run_checkAll_of_fails hi before fails ?_ (List.forall_mem_append.mpr
          ⟨fun item hitem => readable item (List.mem_of_mem_take hitem), hlater⟩)
        rw [List.take_append_of_le_length (by rw [List.length_take]; omega), List.take_take,
          Nat.min_self]

/-- The second item is no assertion: the database is not asked what the first one
asks. -/
theorem checkAll_in_two_passes_of_mistake :
    let db : Database := fun _ _ => .ok (some [("n", .int 1)])
    let row : PathAssertion :=
      { value := .int 1, comparator := .eq, jsonpath := "$.n", sql := some "select n" }
    (∀ db', some db = some db' → ∀ asked statement,
        Fails NoSyntaxFault (db' asked statement))
      ∧ ∃ e, Expression.parseAssertion "assert 1 == 1" = .error e
        ∧ (checkAll [.path row, .code "assert 1 == 1"] {} (some db) "t").run []
          = (.error (e.at "t[1]"), []) := by
  intro db row
  have honest : ∀ db', some db = some db' → ∀ asked statement,
      Fails NoSyntaxFault (db' asked statement) := by
    intro db' hdb _ _
    cases hdb
    exact nofun
  have unread : (Expression.parseAssertion "assert 1 == 1").toOption.isNone = true := by
    decide +kernel
  refine ⟨honest, ?_⟩
  cases fault : Expression.parseAssertion "assert 1 == 1" with
  | ok a =>
    rw [fault] at unread
    cases unread
  | error e =>
    obtain ⟨-, first, -⟩ := checkAll_in_two_passes [.path row, .code "assert 1 == 1"] {}
      (some db) honest "t" []
    obtain ⟨-, ran⟩ := first 1 "assert 1 == 1" e rfl fault (by simp [AssertItem.Readable])
    exact ⟨e, rfl, ran {} (some db) []⟩

end CaseRunner
