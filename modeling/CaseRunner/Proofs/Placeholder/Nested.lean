import CaseRunner.Proofs.Document.TextByText
import CaseRunner.Proofs.Placeholder.Round
import CaseRunner.Proofs.Text.Lines
import Mathlib.Data.List.Forall2

/-!
# Nested macros

Macros may stand among the arguments of macros. A text with such trees is not parsed: it is
replaced round by round, and the arguments are read anew from the text that has come about.
What it comes to is nevertheless what evaluating the trees inside out does, as long as what
is put in place of an inner macro can be an argument and is read as the value that it is
(`IsArgument`), and nothing put in place of an outer one begins a macro.

`Evaluates r t v` is evaluation of trees by value with the functions of a registry. One
round takes every tree to one that is lower by one and has the same value
(`Evaluates.step`): the macros without macros in them become their values, and those around
them stay. So the rounds lead to the values, and no more of them are needed than the trees
are high (`expand_inside_out`).

The trees are how somebody reads a text who thinks of functions and arguments. No tree is
ever built when macros are expanded. That the two readings agree is not true of all values:
a value with a comma in it, put in place of an inner macro, would be two arguments of the
outer one.
-/

namespace CaseRunner.Placeholder

/-! ## Arguments -/

/-- **A text that can be an argument**, and is read as it is. The five conditions are about
what reading an argument does: it is cut at commas, trimmed, and taken out of quotes. -/
structure IsArgument (s : List Char) : Prop where
  /-- There is something in it. -/
  ne_nil : s ≠ []
  /-- Its characters may stand between the parentheses of a macro. -/
  chars : ∀ c ∈ s, isArgumentChar c = true
  /-- It does not end the argument and is not quoted. -/
  unmarked : ∀ c ∈ s, c ≠ ',' ∧ c ≠ '\'' ∧ c ≠ '"'
  /-- There are no blanks in front. -/
  head : ∀ c ∈ s.head?, Text.isBlank c = false
  /-- There are no blanks behind. -/
  last : ∀ c ∈ s.getLast?, Text.isBlank c = false

/-- A text of blanks. -/
abbrev Blank (s : List Char) : Prop := ∀ c ∈ s, Text.isBlank c = true

section Arguments

variable {a b s : List Char}

theorem Blank.chars (h : Blank a) : ∀ c ∈ a, isArgumentChar c = true :=
  fun c hc => by simp [isArgumentChar, h c hc]

theorem IsArgument.not_mem (h : IsArgument s) : '$' ∉ s :=
  fun hmem => absurd (h.chars _ hmem) (by decide)

/-- It is not all blank. -/
theorem IsArgument.visible (h : IsArgument s) : ∃ c ∈ s, Text.isBlank c = false := by
  cases s with
  | nil => exact absurd rfl h.ne_nil
  | cons c s => exact ⟨c, List.mem_cons_self, h.head c rfl⟩

theorem Blank.not_mem {c : Char} (ha : Blank a) (hc : Text.isBlank c = false) : c ∉ a := by
  intro hmem
  simp [ha c hmem] at hc

/-- With blanks around it may still stand between the parentheses. -/
theorem chars_append (ha : Blank a) (hb : Blank b) (hs : IsArgument s) :
    ∀ c ∈ a ++ s ++ b, isArgumentChar c = true := by
  simp only [List.forall_mem_append]
  exact ⟨⟨ha.chars, hs.chars⟩, hb.chars⟩

/-- Blanks around do not end it. -/
theorem comma_not_mem (ha : Blank a) (hb : Blank b) (hs : IsArgument s) : ',' ∉ a ++ s ++ b := by
  have blank : Text.isBlank ',' = false := by decide
  simp only [List.mem_append, not_or]
  exact ⟨⟨ha.not_mem blank, fun h => (hs.unmarked _ h).1 rfl⟩, hb.not_mem blank⟩

/-- Blanks around are cut off. -/
theorem trim_append (ha : Blank a) (hb : Blank b) (hs : IsArgument s) :
    Text.trim (a ++ s ++ b) = s := by
  have start (t : List Char) : (s ++ t).dropWhile Text.isBlank = s ++ t := by
    cases s with
    | nil => exact absurd rfl hs.ne_nil
    | cons c s => simp [hs.head c rfl]
  have front : (a ++ s ++ b).dropWhile Text.isBlank = s ++ b := by
    rw [List.append_assoc, List.dropWhile_append_of_pos ha, start]
  have back : (s ++ b).rdropWhile Text.isBlank = s.rdropWhile Text.isBlank := by
    have hb' : ∀ c ∈ b.reverse, Text.isBlank c = true := fun c hc => hb c (List.mem_reverse.mp hc)
    rw [List.rdropWhile, List.reverse_append, List.dropWhile_append_of_pos hb', List.rdropWhile]
  have whole : s.dropWhile Text.isBlank = s := by simpa using start []
  calc Text.trim (a ++ s ++ b) = s.rdropWhile Text.isBlank := by rw [Text.trim_eq, front, back]
    _ = Text.trim s := by rw [Text.trim_eq, whole]
    _ = s := Text.trim_eq_self hs.head hs.last

/-- **An argument is read as it is**, whatever blanks stand around it. -/
theorem readArgument_append (ha : Blank a) (hb : Blank b) (hs : IsArgument s) :
    readArgument (a ++ s ++ b) = String.ofList s := by
  have unquoted {q : Char} (hq : q ∉ s) : DotEnv.stripQuotes? q s = none := by
    cases s with
    | nil => rfl
    | cons c s =>
      have hne : q ≠ c := List.ne_of_not_mem_cons hq
      simp [DotEnv.stripQuotes?, Text.stripFront?, hne]
  unfold readArgument
  dsimp only
  rw [trim_append ha hb hs, unquoted fun h => (hs.unmarked _ h).2.1 rfl,
    unquoted fun h => (hs.unmarked _ h).2.2 rfl]
  rfl

end Arguments

/-! ## Trees -/

mutual

/-- **A tree of macros.** A text among the arguments is a tree of height zero, and so is a
text beside the macros, so that a whole text is a list of trees. -/
inductive Tree where
  /-- A text. -/
  | text (s : String)
  /-- A call of a function. -/
  | call (name : String) (args : Args)

/-- The arguments of a call, with the blanks around them. -/
inductive Args where
  /-- There are none. -/
  | nil
  /-- One, and others. -/
  | cons (before : String) (head : Tree) (after : String) (tail : Args)

end

mutual

/-- The tree as it is written. -/
def Tree.written : Tree → List Char
  | .text s => s.toList
  | .call name args => writtenMacro name.toList (args.written [])

/-- The arguments as they are written, with what stands in front of the first one. -/
def Args.written (front : List Char) : Args → List Char
  | .nil => []
  | .cons before head after tail =>
    front ++ (before.toList ++ head.written ++ after.toList) ++ tail.written [',']

end

mutual

/-- How deep the macros of a tree are nested. -/
def Tree.height : Tree → Nat
  | .text _ => 0
  | .call _ args => args.height + 1

/-- The height of the highest argument. -/
def Args.height : Args → Nat
  | .nil => 0
  | .cons _ head _ tail => max head.height tail.height

end

mutual

/-- **A tree evaluates to a value**: a text to itself, and a call to what the function of
the name gives for the values of its arguments, whatever the circumstances are.

It is evaluation by value, in the order of arguments, which is of no account as functions
look at their arguments alone. What the function gives is asked for the given values only,
so that it may do anything for others. -/
inductive Evaluates (r : Registry) : Tree → String → Prop
  | text (s : String) : Evaluates r (.text s) s
  | call {name : String} {args : Args} {values : List String} {g : MacroFunction}
      {value : String} (hname : IsName name.toList) (hargs : EvaluatesAll r args values)
      (found : r.find? name = some g) (gives : ∀ c, g c values = .ok value) :
      Evaluates r (.call name args) value

/-- Arguments evaluate one by one, to values that can be arguments. -/
inductive EvaluatesAll (r : Registry) : Args → List String → Prop
  | nil : EvaluatesAll r .nil []
  | cons {before after : String} {head : Tree} {tail : Args} {value : String}
      {values : List String} (hbefore : Blank before.toList) (hafter : Blank after.toList)
      (hhead : Evaluates r head value) (hvalue : IsArgument value.toList)
      (htail : EvaluatesAll r tail values) :
      EvaluatesAll r (.cons before head after tail) (value :: values)

end

/-- **Arguments without macros**, and their values. These are the arguments of the calls
that are replaced in the next round. -/
inductive Args.Texts : Args → List String → Prop
  | nil : Texts .nil []
  | cons {before after s : String} {tail : Args} {values : List String}
      (hbefore : Blank before.toList) (hafter : Blank after.toList) (hs : IsArgument s.toList)
      (htail : Texts tail values) : Texts (.cons before (.text s) after tail) (s :: values)

namespace Args.Texts

variable {args : Args} {values : List String}

theorem height (h : Texts args values) : args.height = 0 := by
  induction h with
  | nil => rfl
  | cons _ _ _ _ ih => simp [Args.height, Tree.height, ih]

theorem chars (h : Texts args values) {front : List Char}
    (hfront : ∀ c ∈ front, isArgumentChar c = true) :
    ∀ c ∈ args.written front, isArgumentChar c = true := by
  induction h generalizing front with
  | nil => exact List.forall_mem_nil _
  | cons hbefore hafter hs _ ih =>
    have comma : ∀ c ∈ [','], isArgumentChar c = true := List.forall_mem_singleton.mpr (by decide)
    have piece := List.forall_mem_append.mpr ⟨hfront, chars_append hbefore hafter hs⟩
    exact List.forall_mem_append.mpr ⟨piece, ih comma⟩

/-- Behind an argument the others are read as they are. -/
theorem read (h : Texts args values) {s : List Char} (hs : ',' ∉ s) :
    (Text.splitBy (· == ',') (s ++ args.written [','])).map Placeholder.readArgument
      = Placeholder.readArgument s :: values := by
  have whole {s : List Char} (hs : ',' ∉ s) : Text.splitBy (· == ',') s = [s] :=
    Text.splitBy_of_forall fun c hc => beq_false_of_ne fun heq => hs (heq ▸ hc)
  have cut (a b : List Char) : Text.splitBy (· == ',') (a ++ ',' :: b)
      = Text.splitBy (· == ',') a ++ Text.splitBy (· == ',') b :=
    Text.splitBy_append_cons rfl a b
  induction h generalizing s with
  | nil => simp [Args.written, whole hs]
  | cons hbefore hafter ht _ ih =>
    simp only [Args.written, Tree.written, List.cons_append, List.nil_append]
    rw [cut, whole hs, List.map_append, ih (comma_not_mem hbefore hafter ht),
      readArgument_append hbefore hafter ht, String.ofList_toList]
    rfl

/-- **Arguments without macros are read as they are.** What was written with commas between
the arguments is cut at these, since there are no others. -/
theorem readArguments (h : Texts args values) :
    Placeholder.readArguments (args.written []) = values := by
  cases h with
  | nil => rfl
  | @cons before after t tail values hbefore hafter ht htail =>
    have written : Args.written [] (.cons before (.text t) after tail)
        = before.toList ++ t.toList ++ after.toList ++ tail.written [','] := by
      simp [Args.written, Tree.written]
    have visible :
        ¬ (Args.written [] (.cons before (.text t) after tail)).all Text.isBlank = true := by
      obtain ⟨c, hc, blank⟩ := ht.visible
      rw [written, List.all_eq_true]
      intro h
      have := h c (by simp [hc])
      simp [blank] at this
    rw [Placeholder.readArguments, if_neg visible, written,
      htail.read (comma_not_mem hbefore hafter ht), readArgument_append hbefore hafter ht,
      String.ofList_toList]

end Args.Texts

/-! ## What a round does to a tree -/

section Rounds

variable {r : Registry} {args : Args} {values : List String}

/-- There is a macro among the arguments: behind characters of arguments a dollar stands. -/
def Args.Held (args : Args) : Prop :=
  0 < args.height ∧ ∀ front, (∀ c ∈ front, isArgumentChar c = true) →
    ∃ before behind, args.written front = before ++ '$' :: behind
      ∧ ∀ c ∈ before, isArgumentChar c = true

/-- **Arguments are without macros, or there is one among them.** In the first case the
call is a macro of this round, and in the second one its shell stays. That a dollar stands
behind characters of arguments only is what keeps the shell from being taken for a macro.
-/
theorem EvaluatesAll.texts_or_held : {args : Args} → {values : List String} →
    EvaluatesAll r args values → args.Texts values ∨ args.Held
  | _, _, .nil => .inl .nil
  | .cons before (.text s) after tail, _, .cons hbefore hafter hhead hvalue htail => by
    cases hhead
    rcases texts_or_held htail with texts | ⟨height, held⟩
    · exact .inl (.cons hbefore hafter hvalue texts)
    · refine .inr ⟨?_, fun front hfront => ?_⟩
      · simp [Args.height, Tree.height, height]
      · obtain ⟨b, behind, written, hb⟩ := held [','] (List.forall_mem_singleton.mpr (by decide))
        refine ⟨front ++ (before.toList ++ s.toList ++ after.toList) ++ b, behind, ?_, ?_⟩
        · simp [Args.written, Tree.written, written]
        · have piece := List.forall_mem_append.mpr ⟨hfront, chars_append hbefore hafter hvalue⟩
          exact List.forall_mem_append.mpr ⟨piece, hb⟩
  | .cons before (.call name args) after tail, _, .cons hbefore _ _ _ _ => by
    refine .inr ⟨?_, fun front hfront => ?_⟩
    · exact Nat.lt_of_lt_of_le (Nat.succ_pos _) (Nat.le_max_left _ _)
    · obtain ⟨body, shape⟩ : ∃ body, (Tree.call name args).written = '$' :: body := ⟨_, rfl⟩
      refine ⟨front ++ before.toList, body ++ after.toList ++ tail.written [','], ?_, ?_⟩
      · simp [Args.written, shape]
      · exact List.forall_mem_append.mpr ⟨hfront, hbefore.chars⟩

mutual

/-- **A round takes a tree to one that is lower by one and has the same value.** By
induction on the evaluation, together with the arguments. A tree of height zero stays as it
is. -/
theorem Evaluates.step (place : String) : {t : Tree} → {value : String} →
    Evaluates r t value → '$' ∉ value.toList → ∃ t', Evaluates r t' value
      ∧ t'.height = t.height - 1 ∧ Passes r place t.written t'.written
  | _, _, .text s, plain => ⟨.text s, .text s, rfl, passes_plain plain⟩
  | .call name args, value, .call (g := g) hname hargs found gives, _ => by
    rcases hargs.texts_or_held with texts | ⟨height, held⟩
    -- nothing but characters of arguments is in the call: it is a macro of this round
    · refine ⟨.text value, .text value, ?_, ?_⟩
      · simp [Tree.height, texts.height]
      · have there : r.find? (String.ofList name.toList) = some g := by rwa [String.ofList_toList]
        refine passes_macro hname (texts.chars (List.forall_mem_nil _)) there fun c => ?_
        rw [texts.readArguments, gives]
    -- a dollar comes before its end: its turn is later, when the arguments are lower
    · obtain ⟨args', hargs', height', passes⟩ := EvaluatesAll.step place hargs
      refine ⟨.call name args', .call hname hargs' found gives, ?_, ?_⟩
      · simp only [Tree.height]
        omega
      · obtain ⟨before, behind, written, hbefore⟩ := held [] (List.forall_mem_nil _)
        have inner := passes [] List.not_mem_nil
        simp only [Tree.written]
        rw [written] at inner ⊢
        exact passes_shell hname hbefore inner

theorem EvaluatesAll.step (place : String) : {args : Args} → {values : List String} →
    EvaluatesAll r args values → ∃ args', EvaluatesAll r args' values
      ∧ args'.height = args.height - 1
      ∧ ∀ front, '$' ∉ front → Passes r place (args.written front) (args'.written front)
  | _, _, .nil => ⟨.nil, .nil, rfl, fun _ _ => .nil⟩
  | .cons before head after tail, _, .cons hbefore hafter hhead hvalue htail => by
    obtain ⟨head', hhead', height, passes⟩ := Evaluates.step place hhead hvalue.not_mem
    obtain ⟨tail', htail', heights, rest⟩ := EvaluatesAll.step place htail
    have blank : Text.isBlank '$' = false := by decide
    refine ⟨.cons before head' after tail', .cons hbefore hafter hhead' hvalue htail', ?_, ?_⟩
    · simp only [Args.height]
      omega
    · intro front hfront
      have around := ((passes_plain (hbefore.not_mem blank)).append passes).append
        (passes_plain (hafter.not_mem blank))
      exact ((passes_plain hfront).append around).append (rest [','] (by decide))

end

/-! ## Texts with trees -/

/-- **The parts of a text stand for values**: each evaluates to its value, in which there
is no dollar. A dollar in a value could begin a macro or a variable, alone or with what
stands behind it. -/
def Stand (r : Registry) (parts : List Tree) (values : List String) : Prop :=
  List.Forall₂ (fun t value => Evaluates r t value ∧ '$' ∉ value.toList) parts values

variable {parts : List Tree}

/-- A round takes all trees of a text to lower ones. -/
theorem Stand.step {n : Nat} (h : Stand r parts values) (low : ∀ t ∈ parts, t.height ≤ n + 1)
    (place : String) : ∃ parts', Stand r parts' values ∧ (∀ t ∈ parts', t.height ≤ n)
      ∧ Passes r place (parts.flatMap Tree.written) (parts'.flatMap Tree.written) := by
  induction h with
  | nil => exact ⟨[], .nil, List.forall_mem_nil _, .nil⟩
  | @cons t value parts values head _ ih =>
    obtain ⟨hlow, hlows⟩ := List.forall_mem_cons.mp low
    obtain ⟨t', evaluates, height, passes⟩ := head.1.step place head.2
    obtain ⟨parts', stand, lows, rest⟩ := ih hlows
    refine ⟨t' :: parts', .cons ⟨evaluates, head.2⟩ stand, ?_, passes.append rest⟩
    exact List.forall_mem_cons.mpr ⟨by omega, lows⟩

/-- Trees without macros are their values. -/
theorem Stand.written (h : Stand r parts values) (low : ∀ t ∈ parts, t.height ≤ 0) :
    parts.flatMap Tree.written = values.flatMap String.toList := by
  induction h with
  | nil => rfl
  | @cons t value parts values head _ ih =>
    obtain ⟨hlow, hlows⟩ := List.forall_mem_cons.mp low
    rw [List.flatMap_cons, List.flatMap_cons, ih hlows]
    cases head.1 with
    | text s => rfl
    | call => simp [Tree.height] at hlow

theorem Stand.plain (h : Stand r parts values) : '$' ∉ values.flatMap String.toList := by
  induction h with
  | nil => exact List.not_mem_nil
  | cons head _ ih =>
    rw [List.flatMap_cons, List.mem_append, not_or]
    exact ⟨head.2, ih⟩

/-- **The rounds lead to the values**, by induction on the height of the trees. All trees
of a text are made lower at once, as a round goes through the whole text. -/
theorem Stand.leads (place : String) {n : Nat} (h : Stand r parts values)
    (low : ∀ t ∈ parts, t.height ≤ n) :
    Leads r place n (parts.flatMap Tree.written) (values.flatMap String.toList) := by
  induction n generalizing parts with
  | zero =>
    rw [h.written low]
    exact .done (hasMacro_of_not_mem h.plain)
  | succ n ih =>
    obtain ⟨parts', stand, lows, passes⟩ := h.step low place
    exact .round passes (ih stand lows)

end Rounds

/-- **Nested macros evaluate inside out.** A text is written in parts, texts and trees of
macros, that stand for values, and no tree is higher than there may be rounds. Then it
expands, whatever calls were made before, to the values in the place of the parts, and so
it does anywhere in a document but in the payload of a hook.

How many macros there are is of no account, only how deep they are nested. -/
theorem expand_inside_out {r : Registry} {parts : List Tree} {values : List String}
    (stand : Stand r parts values) (low : ∀ t ∈ parts, t.height ≤ roundLimit) :
    let source := String.ofList (parts.flatMap Tree.written)
    (∀ place, Answers (expand r place source) (.ok (String.join values)))
      ∧ ∀ location (place : Document.Place), place.skipped isHook = false →
        Answers (replaceFunctions r location (.at place (.text source)))
          (.ok (.at place (.text (String.join values)))) := by
  intro source
  have expands (place : String) : Answers (expand r place source) (.ok (String.join values)) := by
    have leads : Answers (expandRounds r place source roundLimit source.toList)
        (.ok (String.join values).toList) := by
      rw [String.toList_ofList, String.toList_join]
      exact (stand.leads place low).answers source
    rw [← String.ofList_toList (s := String.join values)]
    exact leads.bind_ok (Answers.pure _)
  refine ⟨expands, fun location place visited => ?_⟩
  rw [replaceFunctions_eq]
  exact Document.answers_replaceTexts_at visited ((expands _).bind_ok (Answers.pure _))

/-- A macro in a macro of the same function, which gives its last argument. -/
theorem expand_inside_out_of_last :
    let r := Registry.empty.register "last" fun _ args => .ok (args.getLastD "none")
    let parts : List Tree := [.text "= ", .call "last" (.cons "" (.text "x") "" (.cons " "
      (.call "last" .nil) "" .nil)), .text " !"]
    Stand r parts ["= ", "none", " !"] ∧ (∀ t ∈ parts, t.height ≤ roundLimit)
      ∧ Answers (expand r "t" "= $\x7blast(x, $\x7blast()\x7d)\x7d !") (.ok "= none !") := by
  intro r parts
  have argument {s : String} (h : s = "x" ∨ s = "none") : IsArgument s.toList := by
    rcases h with rfl | rfl <;>
      exact ⟨by decide, List.all_eq_true.mp (by decide), by simp, by simp [Text.isBlank],
        by simp [Text.isBlank]⟩
  have name : IsName "last".toList := ⟨by decide, List.all_eq_true.mp (by decide)⟩
  have nothing : Blank "".toList := List.all_eq_true.mp rfl
  have blank : Blank " ".toList := List.all_eq_true.mp (by decide)
  have inner : Evaluates r (.call "last" .nil) "none" := .call name .nil rfl fun _ => rfl
  have both : EvaluatesAll r (.cons "" (.text "x") "" (.cons " " (.call "last" .nil) "" .nil))
      ["x", "none"] :=
    .cons nothing nothing (.text "x") (argument (.inl rfl))
      (.cons blank nothing inner (argument (.inr rfl)) .nil)
  have stand : Stand r parts ["= ", "none", " !"] :=
    .cons ⟨.text _, by decide⟩ (.cons ⟨.call name both rfl fun _ => rfl, by decide⟩
      (.cons ⟨.text _, by decide⟩ .nil))
  have low : ∀ t ∈ parts, t.height ≤ roundLimit := by decide
  exact ⟨stand, low, (expand_inside_out stand low).1 "t"⟩

end CaseRunner.Placeholder
