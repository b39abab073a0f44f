import CaseRunner.Proofs.Computation
import CaseRunner.Proofs.Expression.Derivation

/-!
# The readers accept what the grammar derives

The readers take words from the front and leave the rest. They are shown to take what the
grammar derives, and to take all of it that can be taken; so an operand can be told from
what follows it, and a list of words is accepted exactly if it is derived as a whole and
its operands fit together (`accepts_iff_derives`).

For each reader there are two lemmas. What it takes is derived, by induction on the fuel or
by the cases of its definition; and what is derived it takes, whatever follows, by
induction on the derivation. Only accessors depend on what follows them, as they end where
no further call does, and what may follow them is therefore a hypothesis (`Ends`).

That a tree is unique comes from the readers as well: two derivations of the same words are
both what is read from them, and a reader has one result.
-/

namespace CaseRunner.Expression

/-! ## Literals -/

theorem constant?_eq_some_iff {s : String} {d : Document} :
    constant? s = some d ↔ Constant s d := by
  constructor
  · intro h
    unfold constant? at h
    split at h <;> cases h <;> constructor
  · rintro (_ | _ | _ | _ | _ | _) <;> rfl

/-- A literal, and so a list of items, begins with some word, and not with the
bracket that ends a list. -/
theorem LiteralOf.head {ts : List Token} {d : Document} (h : LiteralOf ts d) :
    ∃ t us, ts = t :: us ∧ t ≠ .closeBracket := by
  cases h <;> exact ⟨_, _, rfl, by simp⟩

theorem ItemsOf.head {ts : List Token} {ds : List Document} (h : ItemsOf ts ds) :
    ∃ t us, ts = t :: us ∧ t ≠ .closeBracket := by
  cases h with
  | last item => exact item.head
  | cons item rest =>
    obtain ⟨t, us, rfl, ht⟩ := item.head
    exact ⟨t, _, rfl, ht⟩

/-- A list that does not end at once is read item by item. -/
theorem readLiteral_openBracket {fuel : Nat} {ts : List Token}
    (h : ∀ us, ts ≠ .closeBracket :: us) :
    readLiteral (fuel + 1) (.openBracket :: ts)
      = (readItems fuel ts).map fun (items, r) => (.list items, r) :=
  readLiteral.eq_7 fuel ts h

/-- **What is read as a literal is one**, and so are the items of a list. The two readers
call each other with one fuel, so both are shown at once, by induction on it. -/
theorem derives_of_readLiteral (fuel : Nat) :
    (∀ ts d rest, readLiteral fuel ts = .ok (d, rest) →
        ∃ us, ts = us ++ rest ∧ LiteralOf us d)
      ∧ ∀ ts ds rest, readItems fuel ts = .ok (ds, rest) →
        ∃ us, ts = us ++ .closeBracket :: rest ∧ ItemsOf us ds := by
  induction fuel with
  | zero => exact ⟨fun _ _ _ h => (by cases h), fun _ _ _ h => (by cases h)⟩
  | succ fuel ih =>
    obtain ⟨ihLiteral, ihItems⟩ := ih
    constructor
    · intro ts d rest h
      cases ts with
      | nil => cases h
      | cons t ts =>
        cases t with
        | text s =>
          cases h
          exact ⟨[_], rfl, .text s⟩
        | number n =>
          cases h
          exact ⟨[_], rfl, .number n⟩
        | name s =>
          rw [readLiteral] at h
          split at h
          next found =>
            cases h
            exact ⟨[_], rfl, .constant (constant?_eq_some_iff.mp found)⟩
          next => cases h
        | openBracket =>
          by_cases hts : ∃ us, ts = .closeBracket :: us
          · obtain ⟨us, rfl⟩ := hts
            cases h
            exact ⟨[_, _], rfl, .empty⟩
          · rw [readLiteral_openBracket (not_exists.mp hts)] at h
            obtain ⟨⟨ds, r⟩, hds, heq⟩ := map_eq_ok_iff.mp h
            cases heq
            obtain ⟨us, rfl, items⟩ := ihItems _ _ _ hds
            exact ⟨_, by simp, .list items⟩
        | sign | dot | comma | openParen | closeParen | closeBracket => cases h
    · intro ts ds rest h
      obtain ⟨⟨d, r⟩, hd, hrest⟩ := bind_eq_ok_iff.mp h
      obtain ⟨us, rfl, item⟩ := ihLiteral _ _ _ hd
      dsimp only at hrest
      split at hrest
      next =>
        obtain ⟨⟨ds', r'⟩, hds, heq⟩ := map_eq_ok_iff.mp hrest
        cases heq
        obtain ⟨vs, rfl, items⟩ := ihItems _ _ _ hds
        exact ⟨_, by simp, .cons item items⟩
      next =>
        cases hrest
        exact ⟨us, rfl, .last item⟩
      next => cases hrest

mutual

/-- **A literal is read as what it is**, whatever follows it. For each of its words two
steps are enough: one for the word itself, and one for going on in the list that it stands
in. -/
theorem LiteralOf.read {us : List Token} {d : Document} : LiteralOf us d →
    ∀ (fuel : Nat) (rest : List Token), 2 * us.length ≤ fuel + 1 →
      readLiteral (fuel + 1) (us ++ rest) = .ok (d, rest)
  | .text s, fuel, rest, _ => rfl
  | .number n, fuel, rest, _ => rfl
  | .empty, fuel, rest, _ => rfl
  | .constant hs, fuel, rest, _ => by
    rw [List.singleton_append, readLiteral, constant?_eq_some_iff.mpr hs]
  | @LiteralOf.list ts _ items, fuel, rest, h => by
    have hlength : 2 * ts.length + 3 ≤ fuel := by grind
    obtain ⟨fuel, rfl⟩ := Nat.exists_eq_add_of_le' (Nat.le_of_add_left_le hlength)
    rw [List.cons_append, List.append_assoc, readLiteral_openBracket, List.singleton_append]
    · rw [items.read _ rest (by omega)]
      rfl
    · obtain ⟨t, us, rfl, ht⟩ := items.head
      exact fun vs hvs => ht (List.cons.inj hvs).1

/-- **Items are read back**, with fuel for twice the number of tokens. -/
theorem ItemsOf.read {us : List Token} {ds : List Document} : ItemsOf us ds →
    ∀ (fuel : Nat) (rest : List Token), 2 * us.length ≤ fuel + 1 →
      readItems (fuel + 2) (us ++ .closeBracket :: rest) = .ok (ds, rest)
  | .last item, fuel, rest, h => by
    rw [readItems, item.read fuel _ h]
    rfl
  | @ItemsOf.cons ts us _ _ item items, fuel, rest, h => by
    have hlength : 2 * ts.length + 2 * us.length + 1 ≤ fuel := by grind
    obtain ⟨fuel, rfl⟩ := Nat.exists_eq_add_of_le' (Nat.le_of_add_left_le hlength)
    rw [readItems, List.append_assoc, item.read _ _ (by omega)]
    show (readItems (fuel + 2) (us ++ .closeBracket :: rest)).map _ = _
    rw [items.read fuel rest (by omega)]
    rfl

end

theorem derives_of_literal {ts rest : List Token} {d : Document}
    (h : literal ts = .ok (d, rest)) : ∃ us, ts = us ++ rest ∧ LiteralOf us d :=
  (derives_of_readLiteral _).1 ts d rest h

theorem LiteralOf.literal {us : List Token} {d : Document} (h : LiteralOf us d)
    (rest : List Token) : Expression.literal (us ++ rest) = .ok (d, rest) := by
  refine h.read _ rest ?_
  rw [List.length_append]
  omega

/-! ## Operands and operators -/

theorem expect_eq_ok_iff {want : Token} {ts rest : List Token} :
    expect want ts = .ok rest ↔ ts = want :: rest := by
  cases ts with
  | nil => simp [expect]
  | cons t ts =>
    rw [expect, List.cons.injEq]
    split <;> simp_all

theorem expect_bind_eq_ok_iff {α : Type} {want : Token} {ts : List Token}
    {f : List Token → Except SyntaxFault α} {a : α} :
    expect want ts >>= f = .ok a ↔ ∃ rest, ts = want :: rest ∧ f rest = .ok a := by
  simp only [bind_eq_ok_iff, expect_eq_ok_iff]

/-- **What follows an operand** is no further call of its accessor. An operator does, or a
comma, or nothing, and none of these begins with a dot. -/
def Ends (rest : List Token) : Prop := ∀ us, rest ≠ .dot :: us

/-- What is read as a chain of calls is one, and the tokens of it are those in front of the
rest. -/
theorem derives_of_readKeys {fuel : Nat} {ts rest : List Token} {keys : List Document}
    (h : readKeys fuel ts = .ok (keys, rest)) :
    ∃ us, ts = us ++ rest ∧ CallsOf us keys := by
  induction fuel generalizing ts keys with
  | zero =>
    cases h
    exact ⟨[], rfl, .nil⟩
  | succ fuel ih =>
    by_cases hts : Ends ts
    · rw [readKeys.eq_3 ts fuel hts] at h
      cases h
      exact ⟨[], rfl, .nil⟩
    · obtain ⟨us, rfl⟩ : ∃ us, ts = .dot :: us := by simpa [Ends] using hts
      rw [readKeys, expect_bind_eq_ok_iff] at h
      obtain ⟨us, rfl, h⟩ := h
      rw [expect_bind_eq_ok_iff] at h
      obtain ⟨us, rfl, h⟩ := h
      rw [bind_eq_ok_iff] at h
      obtain ⟨⟨key, vs⟩, hkey, h⟩ := h
      obtain ⟨us, rfl, literal⟩ := derives_of_literal hkey
      rw [expect_bind_eq_ok_iff] at h
      obtain ⟨vs, rfl, h⟩ := h
      rw [bind_eq_ok_iff] at h
      obtain ⟨⟨keys, ws⟩, hkeys, h⟩ := h
      cases h
      obtain ⟨vs, rfl, calls⟩ := ih hkeys
      exact ⟨_, by simp, .cons literal calls⟩

/-- All calls that there are are read. -/
theorem CallsOf.read {us rest : List Token} {keys : List Document} (h : CallsOf us keys)
    (ends : Ends rest) {fuel : Nat} (hfuel : us.length ≤ fuel) :
    readKeys fuel (us ++ rest) = .ok (keys, rest) := by
  induction h generalizing fuel with
  | nil =>
    cases fuel with
    | zero => rfl
    | succ fuel => exact readKeys.eq_3 rest fuel ends
  | @cons ts us key keys literal _ ih =>
    obtain ⟨fuel, rfl⟩ : ∃ n, fuel = n + 1 := Nat.exists_eq_add_of_le' (by grind)
    have hkeys : readKeys fuel (us ++ rest) = .ok (keys, rest) := ih (by grind)
    have hkey := literal.literal (.closeParen :: (us ++ rest))
    simp only [List.cons_append, List.append_assoc, readKeys]
    refine expect_bind_eq_ok_iff.mpr ⟨_, rfl, ?_⟩
    refine expect_bind_eq_ok_iff.mpr ⟨_, rfl, ?_⟩
    refine bind_eq_ok_iff.mpr ⟨_, hkey, ?_⟩
    refine expect_bind_eq_ok_iff.mpr ⟨_, rfl, ?_⟩
    exact bind_eq_ok_iff.mpr ⟨_, hkeys, rfl⟩

theorem TypeTest.ofName?_eq_some_iff {s : String} {t : TypeTest} :
    TypeTest.ofName? s = some t ↔ s = t.spelling := by
  constructor
  · intro h
    have := List.find?_some h
    exact (beq_iff_eq.mp this).symm
  · rintro rfl
    cases t <;> rfl

/-- What is read as an operand is one. A case for each token that an operand may begin
with. -/
theorem derives_of_readOperand {ts rest : List Token} {o : Operand}
    (h : readOperand ts = .ok (o, rest)) : ∃ us, ts = us ++ rest ∧ OperandOf us o := by
  have literals : ((literal ts).map fun read => (Operand.literal read.1, read.2)) = .ok (o, rest) →
      ∃ us, ts = us ++ rest ∧ OperandOf us o := by
    intro h
    obtain ⟨⟨d, r⟩, hd, heq⟩ := map_eq_ok_iff.mp h
    cases heq
    obtain ⟨us, hts, literal⟩ := derives_of_literal hd
    exact ⟨us, hts, .literal literal⟩
  unfold readOperand at h
  split at h
  next s ts =>
    split at h
    next hs =>
      rw [readAccessor, expect_bind_eq_ok_iff] at h
      obtain ⟨us, rfl, h⟩ := h
      rw [expect_bind_eq_ok_iff] at h
      obtain ⟨us, rfl, h⟩ := h
      rw [bind_eq_ok_iff] at h
      obtain ⟨⟨keys, vs⟩, hkeys, h⟩ := h
      obtain ⟨us, rfl, calls⟩ := derives_of_readKeys hkeys
      cases keys with
      | nil => cases h
      | cons key keys =>
        cases h
        exact ⟨_, by simp [hs], .accessor calls (by simp)⟩
    next hs =>
      split at h
      next t ht =>
        cases h
        exact ⟨[_], by rw [TypeTest.ofName?_eq_some_iff.mp ht]; rfl, .typed t⟩
      next => exact literals h
  next => exact literals h

/-- **An operand is read as what it is**, whatever follows it but a further
call. -/
theorem OperandOf.read {us rest : List Token} {o : Operand} (h : OperandOf us o)
    (ends : Ends rest) : readOperand (us ++ rest) = .ok (o, rest) := by
  cases h with
  | literal h =>
    have hd := congrArg (Except.map fun read => (Operand.literal read.1, read.2)) (h.literal rest)
    -- no name of a constant begins an operand of another kind
    cases h with
    | constant hs => cases hs <;> exact hd
    | text | number | empty | list => exact hd
  | @accessor us keys calls some =>
    have hkeys : readKeys (us ++ rest).length (us ++ rest) = .ok (keys, rest) :=
      calls.read ends (by grind)
    refine expect_bind_eq_ok_iff.mpr ⟨_, rfl, ?_⟩
    refine expect_bind_eq_ok_iff.mpr ⟨_, rfl, ?_⟩
    refine bind_eq_ok_iff.mpr ⟨_, hkeys, ?_⟩
    cases keys with
    | nil => exact absurd rfl some
    | cons key keys => rfl
  | typed t => cases t <;> rfl

/-- **Operators are read as they are written.** Of the two words of `not in` the first is
enough to tell it, as no other operator begins with it. -/
theorem readOperator_eq_ok_iff {ts rest : List Token} {op : Operator} :
    readOperator ts = .ok (op, rest) ↔ ∃ us, ts = us ++ rest ∧ OperatorOf us op := by
  constructor
  · intro h
    unfold readOperator at h
    split at h
    next =>
      cases h
      exact ⟨[_], rfl, .sign _⟩
    next =>
      split at h
      next hs =>
        cases h
        exact ⟨[_], by rw [hs]; rfl, .isIn⟩
      next =>
        split at h
        next hs =>
          obtain ⟨r, hr, heq⟩ := map_eq_ok_iff.mp h
          cases heq
          exact ⟨[_, _], by rw [hs, expect_eq_ok_iff.mp hr]; rfl, .notIn⟩
        next => cases h
    next => cases h
    next => cases h
  · rintro ⟨us, rfl, h⟩
    cases h <;> rfl

theorem Ends.nil : Ends [] := fun _ h => nomatch h

theorem OperatorOf.ends {us : List Token} {op : Operator} (h : OperatorOf us op)
    (rest : List Token) : Ends (us ++ rest) := by
  cases h <;> exact fun _ h => nomatch h

/-! ## Whole texts -/

theorem expectEnd_eq_ok_iff {ts : List Token} : expectEnd ts = .ok () ↔ ts = [] := by
  cases ts <;> simp [expectEnd]

/-- **A note ends the text**: there is none, or there is one and nothing behind it. -/
theorem readNote_eq_ok_iff {ts : List Token} {note : Option String} :
    readNote ts = .ok note ↔ NoteOf ts note := by
  constructor
  · intro h
    unfold readNote at h
    split at h
    next s rest =>
      cases rest with
      | nil =>
        cases h
        exact .some s
      | cons t rest => cases h
    next => cases h
    next =>
      cases ts with
      | nil =>
        cases h
        exact .none
      | cons t rest => cases h
  · intro h
    cases h <;> rfl

theorem NoteOf.ends {us : List Token} {note : Option String} (h : NoteOf us note) :
    Ends us := by
  cases h <;> exact fun _ h => nomatch h

/-- The operands and the operator of a comparison are read in turn. -/
theorem ComparisonOf.read {ts rest : List Token} {c : Comparison} (h : ComparisonOf ts c)
    (ends : Ends rest) : ∃ ts₁ ts₂, readOperand (ts ++ rest) = .ok (c.left, ts₁)
      ∧ readOperator ts₁ = .ok (c.op, ts₂) ∧ readOperand ts₂ = .ok (c.right, rest) := by
  cases h with
  | @mk ts us vs left right op first middle last =>
    refine ⟨us ++ (vs ++ rest), vs ++ rest, ?_, ?_, last.read ends⟩
    · rw [List.append_assoc, List.append_assoc]
      exact first.read (middle.ends _)
    · exact readOperator_eq_ok_iff.mpr ⟨us, rfl, middle⟩

/-- What is read in turn is a comparison. -/
theorem derives_of_comparison {ts ts₁ ts₂ rest : List Token} {left right : Operand}
    {op : Operator} (h₁ : readOperand ts = .ok (left, ts₁))
    (h₂ : readOperator ts₁ = .ok (op, ts₂)) (h₃ : readOperand ts₂ = .ok (right, rest)) :
    ∃ us, ts = us ++ rest ∧ ComparisonOf us ⟨left, op, right⟩ := by
  obtain ⟨us, rfl, first⟩ := derives_of_readOperand h₁
  obtain ⟨vs, rfl, middle⟩ := readOperator_eq_ok_iff.mp h₂
  obtain ⟨ws, rfl, last⟩ := derives_of_readOperand h₃
  exact ⟨_, by simp, .mk first middle last⟩

/-- **An assertion is accepted** exactly if it is derived as a whole, one operand
is a part of the answer, and types fit. -/
theorem assertionOfTokens_eq_ok_iff {ts : List Token} {c : Comparison}
    {note : Option String} :
    assertionOfTokens ts = .ok (c, note) ↔
      AssertionOf ts c note ∧ c.Asks 1 ∧ c.TypesFit := by
  rw [Comparison.asks_one_iff, ← Comparison.checkTypes_eq_ok_iff]
  constructor
  · intro h
    rw [assertionOfTokens, expect_bind_eq_ok_iff] at h
    obtain ⟨us, rfl, h⟩ := h
    rw [bind_eq_ok_iff] at h
    obtain ⟨⟨left, ts₁⟩, h₁, h⟩ := h
    rw [bind_eq_ok_iff] at h
    obtain ⟨⟨op, ts₂⟩, h₂, h⟩ := h
    rw [bind_eq_ok_iff] at h
    obtain ⟨⟨right, ts₃⟩, h₃, h⟩ := h
    rw [bind_eq_ok_iff] at h
    obtain ⟨note', hnote, h⟩ := h
    dsimp only at h
    split at h
    · cases h
    next asks =>
      rw [bind_eq_ok_iff] at h
      obtain ⟨_, types, h⟩ := h
      cases h
      obtain ⟨vs, rfl, comparison⟩ := derives_of_comparison h₁ h₂ h₃
      refine ⟨.mk comparison (readNote_eq_ok_iff.mp hnote), ?_, types⟩
      simpa using asks
  · rintro ⟨⟨comparison, message⟩, asks, types⟩
    obtain ⟨ts₁, ts₂, h₁, h₂, h₃⟩ := comparison.read message.ends
    refine expect_bind_eq_ok_iff.mpr ⟨_, rfl, ?_⟩
    refine bind_eq_ok_iff.mpr ⟨_, h₁, bind_eq_ok_iff.mpr ⟨_, h₂, ?_⟩⟩
    refine bind_eq_ok_iff.mpr ⟨_, h₃, ?_⟩
    refine bind_eq_ok_iff.mpr ⟨_, readNote_eq_ok_iff.mpr message, ?_⟩
    dsimp only
    rw [if_neg (by simpa using asks)]
    exact bind_eq_ok_iff.mpr ⟨_, types, rfl⟩

/-- **A condition is accepted** exactly if it is derived as a whole, no operand is
a part of the answer, and types fit. -/
theorem conditionOfTokens_eq_ok_iff {ts : List Token} {condition : Condition} :
    conditionOfTokens ts = .ok condition ↔ ConditionOf ts condition
      ∧ ∀ c, condition = .comparison c → c.Asks 0 ∧ c.TypesFit := by
  simp only [Comparison.asks_zero_iff, ← Comparison.checkTypes_eq_ok_iff]
  constructor
  · intro h
    unfold conditionOfTokens at h
    split at h
    · cases h
    dsimp only at h
    rw [bind_eq_ok_iff] at h
    obtain ⟨⟨left, ts₁⟩, h₁, h⟩ := h
    dsimp only at h
    split at h
    next ended =>
      -- nothing follows the first operand
      obtain ⟨us, rfl, operand⟩ := derives_of_readOperand h₁
      obtain rfl := List.isEmpty_iff.mp ended
      rw [List.append_nil]
      cases operand with
      | literal literal =>
        cases h
        exact ⟨.literal literal, fun c hc => nomatch hc⟩
      | accessor | typed => cases h
    next =>
      rw [bind_eq_ok_iff] at h
      obtain ⟨⟨op, ts₂⟩, h₂, h⟩ := h
      rw [bind_eq_ok_iff] at h
      obtain ⟨⟨right, ts₃⟩, h₃, h⟩ := h
      rw [bind_eq_ok_iff] at h
      obtain ⟨_, ended, h⟩ := h
      dsimp only at h
      split at h
      · cases h
      next asks =>
        rw [bind_eq_ok_iff] at h
        obtain ⟨_, types, h⟩ := h
        cases h
        obtain rfl := expectEnd_eq_ok_iff.mp ended
        obtain ⟨us, rfl, comparison⟩ := derives_of_comparison h₁ h₂ h₃
        rw [List.append_nil]
        refine ⟨.comparison comparison, fun c hc => ?_⟩
        cases hc
        exact ⟨by simpa using asks, types⟩
  · rintro ⟨literal | comparison, fits⟩
    · obtain ⟨t, us, rfl, -⟩ := literal.head
      have h₁ := (OperandOf.literal literal).read .nil
      rw [List.append_nil] at h₁
      exact bind_eq_ok_iff.mpr ⟨_, h₁, rfl⟩
    · obtain ⟨asks, types⟩ := fits _ rfl
      obtain ⟨ts₁, ts₂, h₁, h₂, h₃⟩ := comparison.read .nil
      rw [List.append_nil] at h₁
      unfold conditionOfTokens
      rw [if_neg (by rintro h; rw [List.isEmpty_iff.mp h] at h₁; cases h₁)]
      dsimp only
      refine bind_eq_ok_iff.mpr ⟨_, h₁, ?_⟩
      dsimp only
      rw [if_neg (by rintro h; rw [List.isEmpty_iff.mp h] at h₂; cases h₂)]
      refine bind_eq_ok_iff.mpr ⟨_, h₂, bind_eq_ok_iff.mpr ⟨_, h₃, ?_⟩⟩
      refine bind_eq_ok_iff.mpr ⟨_, expectEnd_eq_ok_iff.mpr rfl, ?_⟩
      dsimp only
      rw [if_neg (by simpa using asks)]
      exact bind_eq_ok_iff.mpr ⟨_, types, rfl⟩

/-- **A comparison is one in one way**, and ends where it ends. The words behind it are
compared as well, since the message of an assertion stands there. -/
theorem ComparisonOf.unique {ts ts' rest rest' : List Token} {c c' : Comparison}
    (h : ComparisonOf ts c) (h' : ComparisonOf ts' c') (ends : Ends rest)
    (ends' : Ends rest') (heq : ts ++ rest = ts' ++ rest') : c = c' ∧ rest = rest' := by
  obtain ⟨left, op, right⟩ := c
  obtain ⟨left', op', right'⟩ := c'
  obtain ⟨ts₁, ts₂, h₁, h₂, h₃⟩ := h.read ends
  obtain ⟨us₁, us₂, h₁', h₂', h₃'⟩ := h'.read ends'
  -- both are read from the same words, one part after the other
  rw [heq, h₁'] at h₁
  cases h₁
  rw [h₂'] at h₂
  cases h₂
  rw [h₃'] at h₃
  cases h₃
  exact ⟨rfl, rfl⟩

/-- **The tree of an assertion is unique.** Reading goes through the tokens without ever
going back, which is how it can be shown: what is derived is what is read. -/
theorem AssertionOf.unique {ts : List Token} {c c' : Comparison} {note note' : Option String}
    (h : AssertionOf ts c note) (h' : AssertionOf ts c' note') : c = c' ∧ note = note' := by
  obtain ⟨comparison, message⟩ := h
  generalize hts : Token.name "assert" :: (_ ++ _) = ts at h'
  obtain ⟨comparison', message'⟩ := h'
  obtain ⟨rfl, rfl⟩ :=
    comparison.unique comparison' message.ends message'.ends (List.cons.inj hts).2
  have hnote := readNote_eq_ok_iff.mpr message
  rw [readNote_eq_ok_iff.mpr message'] at hnote
  exact ⟨rfl, (Except.ok.inj hnote).symm⟩

/-- **The tree of a condition is unique.** -/
theorem ConditionOf.unique {ts : List Token} {condition condition' : Condition}
    (h : ConditionOf ts condition) (h' : ConditionOf ts condition') :
    condition = condition' := by
  -- after a literal there is nothing left in which to find an operator
  have alone {d : Document} {c : Comparison} (literal : LiteralOf ts d)
      (comparison : ComparisonOf ts c) : False := by
    obtain ⟨ts₁, ts₂, h₁, h₂, -⟩ := comparison.read .nil
    rw [(OperandOf.literal literal).read .nil] at h₁
    obtain ⟨-, rfl⟩ := Prod.mk.inj (Except.ok.inj h₁)
    cases h₂
  cases h with
  | literal literal =>
    cases h' with
    | literal literal' =>
      have h := literal.literal []
      rw [literal'.literal []] at h
      cases h
      rfl
    | comparison comparison => exact (alone literal comparison).elim
  | comparison comparison =>
    cases h' with
    | literal literal => exact (alone literal comparison).elim
    | comparison comparison' =>
      obtain ⟨rfl, -⟩ := comparison.unique comparison' .nil .nil rfl
      rfl

/-- **What is accepted is what the grammar derives.** A list of words is read as an
assertion with a comparison and a message exactly if it is derived from the rule for
assertions with these, exactly one operand is a part of the answer, and at most one is a
type, which is compared by equality only. It is read as a condition exactly if it is a
single literal, or a comparison of which no operand is a part of the answer, with the same
rule for types. No list of words is derived with two trees.

So what is written means one thing, or nothing, and this can be found out without running
anything. The theorem is about words; that texts are cut into words as they should be is a
matter of its own. -/
theorem accepts_iff_derives (ts : List Token) :
    (∀ c note, assertionOfTokens ts = .ok (c, note) ↔
        AssertionOf ts c note ∧ c.Asks 1 ∧ c.TypesFit)
      ∧ (∀ condition, conditionOfTokens ts = .ok condition ↔ ConditionOf ts condition
        ∧ ∀ c, condition = .comparison c → c.Asks 0 ∧ c.TypesFit)
      ∧ (∀ c c' note note', AssertionOf ts c note → AssertionOf ts c' note' →
        c = c' ∧ note = note')
      ∧ ∀ condition condition', ConditionOf ts condition → ConditionOf ts condition' →
        condition = condition' :=
  ⟨fun _ _ => assertionOfTokens_eq_ok_iff, fun _ => conditionOfTokens_eq_ok_iff,
    fun _ _ _ _ => AssertionOf.unique, fun _ _ => ConditionOf.unique⟩

end CaseRunner.Expression
