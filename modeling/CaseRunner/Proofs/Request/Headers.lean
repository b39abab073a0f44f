import CaseRunner.Proofs.Request.Reading
import CaseRunner.Proofs.Session.Token

/-!
# One value for each name of a header

Headers are a list, and letter case does not count in their names. A name has the value
of the first header that goes by it (`Headers.get?`). Setting a header puts it in place
of all that went by its name, so of several set in turn the last one counts
(`Headers.get?_setAll`), and what a request says under a name follows from the section,
the configuration and the type of body (`Request.last_set_counts`).

Setting also takes care that no name is there twice, but only for the names that are set:
two spellings of one name in a configuration both stay, unless the section sets that name
(`Headers.once_setAll_iff`, `Request.headers_once_iff`).
-/

namespace CaseRunner

namespace Headers

variable {hs : Headers} {name value other : String}

/-- The value of the last header of a name. What is set is looked up in this way, as a
later one replaces an earlier one, while the headers that are there are looked up from the
front. -/
def last? (hs : Headers) (name : String) : Option String :=
  (hs.findRev? fun h => sameName h.1 name).map (·.2)

/-- The headers with others set one after the other. -/
def setAll (hs own : Headers) : Headers :=
  own.foldl (fun hs (name, value) => hs.set name value) hs

/-- **No header is there twice**: no two have the same name, whatever the letter case. It
is what a server expects, and what most of the lookups take for granted, since they find
the first of a name. -/
def Once (hs : Headers) : Prop := hs.Pairwise fun g h => sameName g.1 h.1 = false

instance (hs : Headers) : Decidable (Once hs) :=
  inferInstanceAs (Decidable (hs.Pairwise fun g h => sameName g.1 h.1 = false))

/-! ## Names -/

/-- Two spellings of a name go by the same names. -/
theorem sameName_congr {a b : String} (h : sameName a b = true) (c : String) :
    sameName a c = sameName b c := by
  rw [Bool.eq_iff_iff]
  exact ⟨sameName_trans (sameName_comm a b ▸ h), sameName_trans h⟩

/-- A name is looked up under any of its spellings. -/
theorem get?_congr (hs : Headers) (h : sameName name other = true) :
    hs.get? name = hs.get? other := by
  have same (g : String × String) : sameName g.1 name = sameName g.1 other := by
    rw [sameName_comm, sameName_congr h, sameName_comm]
  simp only [get?, same]

/-! ## What is found -/

theorem get?_append (hs hs' : Headers) (name : String) :
    get? (hs ++ hs') name = (hs.get? name).or (hs'.get? name) := by
  rw [get?, List.find?_append, Option.map_or]
  rfl

theorem get?_singleton (name value other : String) :
    get? [(name, value)] other = if sameName name other then some value else none := by
  cases h : sameName name other <;> simp [get?, h]

theorem get?_set (hs : Headers) (name value other : String) :
    (hs.set name value).get? other =
      if sameName name other then some value else hs.get? other := by
  cases h : sameName name other with
  | true => exact get?_set_of_sameName hs value h
  | false => exact get?_set_of_not_sameName hs value h

theorem last?_cons (h : String × String) (hs : Headers) (name : String) :
    last? (h :: hs) name
      = (last? hs name).or (if sameName h.1 name then some h.2 else none) := by
  simp only [last?, List.findRev?_eq_find?_reverse, List.reverse_cons, List.find?_append,
    Option.map_or]
  exact congrArg _ (get?_singleton h.1 h.2 name)

/-- **The last one that is set counts.** Only names that are not set at all keep what they
had. -/
theorem get?_setAll (hs own : Headers) (name : String) :
    (hs.setAll own).get? name = (last? own name).or (hs.get? name) := by
  induction own generalizing hs with
  | nil => rfl
  | cons h own ih =>
    show ((hs.set h.1 h.2).setAll own).get? name = _
    rw [ih, get?_set, last?_cons, Option.or_assoc]
    cases sameName h.1 name <;> rfl

/-- A header that is added counts if none was there. -/
theorem get?_setIfAbsent (hs : Headers) (name value other : String) :
    (hs.setIfAbsent name value).get? other =
      (hs.get? other).or (if sameName name other then some value else none) := by
  unfold setIfAbsent
  split
  next there =>
    cases h : sameName name other with
    | true =>
      obtain ⟨v, hv⟩ := Option.isSome_iff_exists.mp there
      rw [← get?_congr hs h, hv]
      rfl
    | false => exact (Option.or_none).symm
  next => rw [get?_append, get?_singleton]

/-! ## No header twice -/

/-- What is added under a name that is not there comes twice nowhere. -/
theorem once_append_iff (absent : ∀ h ∈ hs, sameName h.1 name = false) :
    Once (hs ++ [(name, value)]) ↔ Once hs := by
  unfold Once
  rw [List.pairwise_append]
  refine ⟨And.left, fun once => ⟨once, List.pairwise_singleton _ _, fun h hh g hg => ?_⟩⟩
  rw [List.mem_singleton.mp hg]
  exact absent h hh

theorem get?_isSome_eq_false_iff :
    (hs.get? name).isSome = false ↔ ∀ h ∈ hs, sameName h.1 name = false := by
  rw [get?, Option.isSome_map, Bool.eq_false_iff, ne_eq, List.find?_isSome]
  simp

theorem once_setIfAbsent_iff : Once (hs.setIfAbsent name value) ↔ Once hs := by
  unfold setIfAbsent
  split
  next => exact Iff.rfl
  next absent =>
    exact once_append_iff (get?_isSome_eq_false_iff.mp (Bool.eq_false_iff.mpr absent))

theorem once_set_iff : Once (hs.set name value) ↔ Once (hs.filter fun h => !sameName h.1 name) :=
  once_append_iff fun h hh => by simpa using (List.mem_filter.mp hh).2

/-- Setting keeps headers so. -/
theorem Once.set (h : Once hs) (name value : String) : Once (hs.set name value) :=
  once_set_iff.mpr (h.filter _)

/-- **When no header is there twice after setting**: of the headers before, two of one name
stand only under a name that was set.

So setting repairs what it touches and nothing else. Whatever is set, it cannot bring about
a name that is there twice; it can only fail to remove one. -/
theorem once_setAll_iff {own : Headers} :
    Once (hs.setAll own) ↔ hs.Pairwise fun g h =>
      sameName g.1 h.1 = true → ∃ o ∈ own, sameName o.1 g.1 = true := by
  induction own generalizing hs with
  | nil => simp [setAll, Once]
  | cons o own ih =>
    show Once ((hs.set o.1 o.2).setAll own) ↔ _
    rw [ih, Headers.set, List.pairwise_append, List.pairwise_filter]
    constructor
    · rintro ⟨kept, -, -⟩
      refine kept.imp fun {g h} kept same => ?_
      cases near : sameName o.1 g.1 with
      | true => exact ⟨o, List.mem_cons_self, near⟩
      | false =>
        have hg : sameName g.1 o.1 = false := sameName_comm g.1 o.1 ▸ near
        have hh : sameName h.1 o.1 = false := sameName_congr same o.1 ▸ hg
        obtain ⟨o', ho', near'⟩ := kept (by simp [hg]) (by simp [hh]) same
        exact ⟨o', List.mem_cons_of_mem _ ho', near'⟩
    · intro all
      refine ⟨all.imp fun {g h} set hg _ same => ?_, List.pairwise_singleton _ _,
        fun g hg h hh same => ?_⟩
      · obtain ⟨o', ho', near⟩ := set same
        rcases List.mem_cons.mp ho' with rfl | ho'
        · rw [sameName_comm, near] at hg
          cases hg
        · exact ⟨o', ho', near⟩
      · have hg := (List.mem_filter.mp hg).2
        rw [List.mem_singleton.mp hh] at same
        simp [same] at hg

end Headers

namespace Request

variable {d : Document} {config : Config} {store : Store} {fs : FileSystem}
  {defaults : RequestDefaults} {location : String} {r : Request}

/-- The request with headers set one after the other. -/
def setHeaders (r : Request) (own : List (String × String)) : Request :=
  own.foldl (fun r h => r.setHeader h.1 h.2) r

theorem headers_setHeaders (r : Request) (own : List (String × String)) :
    (r.setHeaders own).headers = Headers.setAll r.headers own := by
  induction own generalizing r with
  | nil => rfl
  | cons h own ih => exact ih (r.setHeader h.1 h.2)

/-- The default of a header that says what the body is. -/
theorem get?_headersFrom (configured own : Headers) (t? : Option BodyType) (name : String) :
    Headers.get? (headersFrom configured own t?) name =
      ((Headers.last? own name).or (Headers.get? configured name)).or
        (t?.bind fun t =>
          if Headers.sameName contentTypeHeader name then some t.contentType else none) := by
  cases t? with
  | none =>
    show (Headers.setAll configured own).get? name = _
    rw [Headers.get?_setAll, Option.bind_none, Option.or_none]
  | some t =>
    show ((Headers.setAll configured own).setIfAbsent _ _).get? name = _
    rw [Headers.get?_setIfAbsent, Headers.get?_setAll, Option.bind_some]

/-- **What a request says under a name**: what the section says last, else what the
configuration says first, else, for the type of the content, what the type of body says. Of
headers that are set later the last one of the name counts.

That it is the last in one place and the first in the other is no slip of this statement.
The headers of the section are set one after the other, and those of the configuration are
there from the start, where the first is found. With names that are spelled in one way only
the difference cannot be seen, as the members of a mapping have different names. -/
theorem last_set_counts (h : ofDocument d config store fs defaults location = .ok r)
    (name : String) :
    r.header? name =
        ((Headers.last? (displayed (d.membersOf "headers")) name).or
          (Headers.get? (displayed config.headers) name)).or
          ((bodyType? d).bind fun t =>
            if Headers.sameName contentTypeHeader name then some t.contentType else none)
      ∧ ∀ later, (r.setHeaders later).header? name
          = (Headers.last? later name).or (r.header? name) := by
  obtain ⟨fields, -, headers, -⟩ := exists_of_ofDocument h
  constructor
  · rw [header?, headers, get?_headersFrom]
  · intro later
    rw [header?, headers_setHeaders, Headers.get?_setAll, header?]

/-- A configuration that spells one name in two ways. -/
def spellings : Config := { headers := [("X-A", .text "1"), ("x-a", .text "2")] }

/-- A section with some headers. -/
def asking (own : Fields) : Document :=
  .mapping [("body_type", .text "text"), ("headers", .mapping own), ("method", .text "GET"),
    ("url", .text "http://h/a")]

/-- The request of such a section, with the headers that it carries. -/
def asked (headers : Headers) : Request where
  method := .get
  url := "http://h/a"
  params := []
  headers := headers
  body := .none
  files := []
  timeout := 30000000000
  verify := true
  proxies := none
  retry := 3
  engine := .standard

/-- Names that are spelled in two ways in the section, in the configuration and later. -/
theorem last_set_counts_of_spellings :
    ∃ r, ofDocument (asking [("ACCEPT", .text "b"), ("Accept", .text "c")]) spellings {} .empty
        {} "a" = .ok r
      ∧ r.header? "accept" = some "c" ∧ r.header? "x-A" = some "1"
      ∧ r.header? "content-type" = some "text/plain"
      ∧ (r.setHeaders [("x-a", "3"), ("X-a", "4")]).header? "X-A" = some "4" := by
  have accepted : ofDocument (asking [("ACCEPT", .text "b"), ("Accept", .text "c")]) spellings
      {} .empty {} "a" = .ok (asked [("X-A", "1"), ("x-a", "2"), ("Accept", "c"),
        ("Content-Type", "text/plain")]) := by
    decide +kernel
  refine ⟨_, accepted, ?_, ?_, ?_, ?_⟩
  · rw [(last_set_counts accepted "accept").1]
    decide +kernel
  · rw [(last_set_counts accepted "x-A").1]
    decide +kernel
  · rw [(last_set_counts accepted "content-type").1]
    decide +kernel
  · rw [(last_set_counts accepted "X-A").2]
    decide +kernel

/-- The names of what is displayed are those of the members. -/
theorem exists_mem_displayed {members : Fields} {p : String → Prop} :
    (∃ h ∈ displayed members, p h.1) ↔ ∃ m ∈ members, p m.1 := by
  simp [displayed]

theorem once_headersFrom_iff {configured own : Headers} {t? : Option BodyType} :
    Headers.Once (headersFrom configured own t?) ↔ configured.Pairwise fun g h =>
      Headers.sameName g.1 h.1 = true → ∃ o ∈ own, Headers.sameName o.1 g.1 = true := by
  cases t? with
  | none => exact Headers.once_setAll_iff
  | some t => exact Headers.once_setIfAbsent_iff.trans Headers.once_setAll_iff

end Request

/-- Credentials come to a request whose headers do not name them. -/
theorem Login.Call.once_left (a : Login) (c : Login.Call) (h : Headers.Once c.request.headers) :
    Headers.Once (c.left a).headers := by
  unfold left
  cases answer : c.answer a with
  | error e => exact h
  | ok r =>
    by_cases own : c.Own a
    · rw [(fair a c).own own |>.1] at answer
      cases answer
      exact h
    · obtain ⟨token, rfl⟩ := (fair a c).added own r answer
      rw [← setHeader_of_not_own own]
      exact h.set _ _

namespace Request

variable {d : Document} {config : Config} {store : Store} {fs : FileSystem}
  {defaults : RequestDefaults} {location : String} {r : Request}

/-- **When a request carries no header twice**: exactly if of two headers of one name in
the configuration the section sets that name. Setting headers and adding credentials
never bring a header in twice. -/
theorem headers_once_iff (h : ofDocument d config store fs defaults location = .ok r) :
    (Headers.Once r.headers ↔ config.headers.Pairwise fun f g =>
        Headers.sameName f.1 g.1 = true →
          ∃ own ∈ d.membersOf "headers", Headers.sameName own.1 f.1 = true)
      ∧ (∀ (q : Request) (name value : String), Headers.Once q.headers →
          Headers.Once (q.setHeader name value).headers)
      ∧ ∀ (a : Login) (c : Login.Call), Headers.Once c.request.headers →
          Headers.Once (c.left a).headers := by
  refine ⟨?_, fun q name value once => once.set name value, Login.Call.once_left⟩
  obtain ⟨fields, -, headers, -⟩ := exists_of_ofDocument h
  rw [headers, once_headersFrom_iff]
  refine List.pairwise_map.trans (List.Pairwise.iff fun f g => imp_congr_right fun _ => ?_)
  exact exists_mem_displayed (p := fun name => Headers.sameName name f.1 = true)

/-- Two spellings in the configuration, and a third one in the section, which takes the
place of both. -/
theorem headers_once_iff_of_own :
    ∃ r, ofDocument (asking [("X-a", .text "3")]) spellings {} .empty {} "a" = .ok r
      ∧ Headers.Once r.headers ∧ Headers.Once (r.setHeader "x-A" "4").headers := by
  have accepted : ofDocument (asking [("X-a", .text "3")]) spellings {} .empty {} "a" =
      .ok (asked [("X-a", "3"), ("Content-Type", "text/plain")]) := by
    decide +kernel
  have once := (headers_once_iff accepted).1.mpr (by decide +kernel)
  exact ⟨_, accepted, once, (headers_once_iff accepted).2.1 _ _ _ once⟩

/-- **A request carries one header twice** if the configuration spells its name in two
ways. -/
theorem headers_twice_of_spellings :
    ∃ r, ofDocument (asking []) spellings {} .empty {} "a" = .ok r
      ∧ ¬ Headers.Once r.headers :=
  ⟨asked [("X-A", "1"), ("x-a", "2"), ("Content-Type", "text/plain")], by decide +kernel,
    by decide +kernel⟩

end Request

end CaseRunner
