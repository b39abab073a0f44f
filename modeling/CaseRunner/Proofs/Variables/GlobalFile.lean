import CaseRunner.Proofs.Document.Ascending
import CaseRunner.Proofs.Variables.Stored
import Mathlib.Data.List.Induction
import Mathlib.Logic.Function.Basic

/-!
# Workers on one global file

Several stores keep their global tier in one file, and each may hold an old copy of it.
Calls that set and remove global variables are made whole, one after the other, by
whichever store. Since every call reads the file before it changes anything, a call works
on what all calls before it have made of the file, whoever made them: nothing is lost
(`Workers.nothing_lost`).

That what is written for a map of texts is parsed as the map is assumed of the maps that
come up (`Parses`).

That calls are made whole is what the lock on the file sees to. Between two calls of one
store there may be any number of calls of others, and their order is arbitrary: the calls
are a list of pairs of a store and what it does.
-/

namespace CaseRunner

/-- The global variables, by key. -/
abbrev Globals := List (String × String)

/-! ## What is written is read -/

namespace Globals

variable {m : Globals}

/-- **The map that is written is the map that is parsed.** Writing and parsing YAML is a
matter of its own, with its own rules for quotes and for what looks like a number. Since
the condition can be decided for each map, it is known of a map when it is needed. -/
def Parses (m : Globals) : Prop :=
  Yaml.readAs Schema.fields (Yaml.writeTexts m) = .ok (m.map fun f => (f.1, .text f.2))

/-- The map from texts to texts that a mapping is, if all its values are texts. -/
def ofFields? : Fields → Option Globals
  | [] => some []
  | (key, .text value) :: rest => (ofFields? rest).map ((key, value) :: ·)
  | _ :: _ => none

/-- Members are variables exactly if all of them are texts, and then the two are one list.
-/
theorem ofFields?_eq_some_iff {fields : Fields} :
    ofFields? fields = some m ↔ fields = m.map fun f => (f.1, .text f.2) := by
  constructor
  · intro h
    fun_induction ofFields? fields generalizing m with
    | case1 => cases h; rfl
    | case2 key value rest ih =>
      obtain ⟨m', hm', rfl⟩ := Option.map_eq_some_iff.mp h
      rw [ih hm']
      rfl
    | case3 => cases h
  · rintro rfl
    induction m with
    | nil => rfl
    | cons f m ih => rw [List.map_cons, ofFields?, ih]; rfl

/-- **What is written is read back** exactly if the document that is written is read as the
same texts. -/
theorem parses_iff :
    Parses m ↔
      (Yaml.readAs Schema.fields (Yaml.writeTexts m)).toOption.bind ofFields? = some m := by
  unfold Parses
  cases Yaml.readAs Schema.fields (Yaml.writeTexts m) with
  | error e => exact ⟨nofun, nofun⟩
  | ok fields =>
    show Except.ok fields = Except.ok _ ↔ ofFields? fields = some m
    rw [Except.ok.injEq, ofFields?_eq_some_iff]

instance : Decidable (Parses m) := decidable_of_iff _ parses_iff.symm

/-- What is written is not blank, not even for no variables. -/
theorem isBlankText_writeTexts (m : Globals) :
    Text.isBlankText (Yaml.writeTexts m) = false := by
  cases m with
  | nil => decide
  | cons f m =>
    have colon : ':' ∈ Yaml.memberText f := by
      rw [Yaml.memberText]
      split <;> simp
    refine List.all_eq_false.mpr ⟨':', ?_, by decide⟩
    rw [Yaml.writeTexts, if_neg (by simp), String.toList_ofList, List.flatMap_cons]
    exact List.mem_append_left _ colon

end Globals

/-- What is written as a global tier is read as the tier. -/
theorem Store.readGlobal_of_writeFile {fs fs' : FileSystem} {path : String} {m : Globals}
    (hparse : m.Parses) (h : writeFile fs path (Yaml.writeTexts m) = .ok fs') :
    readGlobal fs' path = .ok m := by
  refine bind_eq_ok_iff.mpr ⟨_, readIfThere_of_writeFile h, ?_⟩
  dsimp only
  rw [m.isBlankText_writeTexts, if_neg Bool.false_ne_true]
  refine bind_eq_ok_iff.mpr ⟨_, hparse, ?_⟩
  rw [List.map_map]
  exact congrArg Except.ok (List.map_id m)

/-! ## Calls -/

/-- A call that changes a global variable. -/
inductive GlobalCall where
  /-- A variable is set; it is not minded until when. -/
  | set (now : Moment) (key value : String) (expiry : Option Moment)
  /-- A variable is removed. -/
  | delete (key : String)

namespace GlobalCall

/-- The call as a store does it, with the answer if it has one. -/
def perform : GlobalCall → Storing (Option Bool)
  | .set now key value expiry => do
    Store.put now key value .global expiry
    return none
  | .delete key => do return some (← Store.delete key .global)

/-- What the call makes of the variables. -/
def apply : GlobalCall → Globals → Globals
  | .set _ key value _, m => Document.insertField key value m
  | .delete key, m => Document.eraseField key m

/-- What the call answers: was the key there? -/
def answer : GlobalCall → Globals → Option Bool
  | .set .., _ => none
  | .delete key, m => some (Document.field? key m).isSome

variable {c : GlobalCall} {s : Store} {fs : FileSystem} {t : Store × FileSystem}
  {path : String} {m : Globals} {a : Option Bool}

/-- **A call works on what the file holds**, whatever the store holds. The global tier of
the store that makes the call does not occur in what comes of it: a copy that is out of
date does no harm, because nobody reads it. -/
theorem of_perform (hfile : s.globalFile = some path) (hread : Store.readGlobal fs path = .ok m)
    (hparse : (c.apply m).Parses) (h : Yields c.perform (s, fs) (.ok a) t) :
    a = c.answer m ∧ Store.readGlobal t.2 path = .ok (c.apply m)
      ∧ t.1 = { s with global := c.apply m } := by
  cases c with
  | set now key value expiry =>
    obtain ⟨⟨⟩, u, hput, hpure⟩ := yields_bind_ok_iff.mp h
    obtain ⟨global, fs', hglobal, hwrite, rfl⟩ := Store.exists_of_put_global hfile hput
    obtain ⟨ha, rfl⟩ := yields_pure_iff.mp hpure
    obtain rfl : m = global := Except.ok.inj (hread.symm.trans hglobal)
    exact ⟨Except.ok.inj ha, Store.readGlobal_of_writeFile hparse hwrite, rfl⟩
  | delete key =>
    obtain ⟨there, u, hdelete, hpure⟩ := yields_bind_ok_iff.mp h
    obtain ⟨ha, rfl⟩ := yields_pure_iff.mp hpure
    obtain ⟨global, hglobal, hthere, hcases⟩ := Store.exists_of_delete_global hfile hdelete
    obtain rfl : m = global := Except.ok.inj (hread.symm.trans hglobal)
    refine ⟨(Except.ok.inj ha).trans (congrArg some hthere), ?_⟩
    rcases hcases with ⟨hnot, rfl⟩ | ⟨-, fs', hwrite, rfl⟩
    · -- nothing is written, and there is nothing to take out
      have absent : Document.eraseField key m = m := by
        refine Document.eraseField_of_field? (Option.not_isSome_iff_eq_none.mp ?_)
        rw [← hthere, hnot]
        exact Bool.false_ne_true
      rw [apply, absent]
      exact ⟨hread, rfl⟩
    · exact ⟨Store.readGlobal_of_writeFile hparse hwrite, rfl⟩

/-- What calls make of the variables, one after the other. -/
def applyAll {ι : Type} (calls : List (ι × GlobalCall)) (m : Globals) : Globals :=
  calls.foldl (fun m c => c.2.apply m) m

theorem applyAll_concat {ι : Type} (calls : List (ι × GlobalCall)) (c : ι × GlobalCall)
    (m : Globals) : applyAll (calls ++ [c]) m = c.2.apply (applyAll calls m) := by
  rw [applyAll, List.foldl_append]
  rfl

end GlobalCall

/-! ## Workers -/

/-- Stores and the files that they share. -/
structure Workers (ι : Type) where
  /-- The stores. -/
  stores : ι → Store
  /-- The files. -/
  files : FileSystem

namespace Workers

variable {ι : Type} [DecidableEq ι]

/-- How a call by one of the stores ends. -/
def result (w : Workers ι) (c : ι × GlobalCall) : Except RunError (Option Bool) :=
  (c.2.perform.run (w.stores c.1, w.files)).1

/-- The stores and the files after a call by one of the stores. -/
def next (w : Workers ι) (c : ι × GlobalCall) : Workers ι :=
  let t := (c.2.perform.run (w.stores c.1, w.files)).2
  { stores := Function.update w.stores c.1 t.1, files := t.2 }

/-- The stores and the files after calls, one after the other. -/
def after (w : Workers ι) (calls : List (ι × GlobalCall)) : Workers ι := calls.foldl next w

theorem after_concat (w : Workers ι) (calls : List (ι × GlobalCall)) (c : ι × GlobalCall) :
    w.after (calls ++ [c]) = (w.after calls).next c := by
  rw [after, List.foldl_append]
  rfl

/-- **The stores share a file**, and it is read as a map. This is the invariant, and it
says nothing of the copies that the stores hold. They differ from each other as soon as one
store has made a call. -/
structure Share (path : String) (m : Globals) (w : Workers ι) : Prop where
  /-- Each of the stores keeps its global tier in the file. -/
  file : ∀ i, (w.stores i).globalFile = some path
  /-- The file is read as the map. -/
  reads : Store.readGlobal w.files path = .ok m

variable {w : Workers ι} {path : String} {m : Globals} {c : ι × GlobalCall}

/-- **What a call leaves**: the file and the calling store have what the call makes of the
map, and the answer is the one for the map before. The files of the other stores stay where
they are, since a call does not change where a store keeps its tiers. -/
theorem Share.next (h : Share path m w) (hparse : (c.2.apply m).Parses) {a : Option Bool}
    (hok : w.result c = .ok a) :
    a = c.2.answer m ∧ Share path (c.2.apply m) (w.next c)
      ∧ ((w.next c).stores c.1).global = c.2.apply m := by
  have hyields : Yields c.2.perform (w.stores c.1, w.files) (.ok a)
      (c.2.perform.run (w.stores c.1, w.files)).2 :=
    Prod.ext hok rfl
  obtain ⟨ha, hreads, hstore⟩ := GlobalCall.of_perform (h.file c.1) h.reads hparse hyields
  have mine : (w.next c).stores c.1 = { w.stores c.1 with global := c.2.apply m } :=
    (Function.update_self c.1 _ w.stores).trans hstore
  have others : ∀ i ≠ c.1, (w.next c).stores i = w.stores i := fun i hi =>
    Function.update_of_ne hi _ w.stores
  refine ⟨ha, ⟨fun i => ?_, hreads⟩, by rw [mine]⟩
  by_cases hi : i = c.1
  · rw [hi, mine]
    exact h.file c.1
  · rw [others i hi]
    exact h.file i

/-- **After so many calls the stores share what these make of the map.** By induction on
the number of calls. -/
theorem Share.after (h : Share path m w) {calls : List (ι × GlobalCall)}
    (hparse : ∀ n < calls.length, (GlobalCall.applyAll (calls.take (n + 1)) m).Parses)
    (hok : ∀ n (hn : n < calls.length), ∃ a, (w.after (calls.take n)).result calls[n] = .ok a)
    {n : Nat} (hn : n ≤ calls.length) :
    Share path (GlobalCall.applyAll (calls.take n) m) (w.after (calls.take n)) := by
  induction n with
  | zero => exact h
  | succ n ih =>
    obtain ⟨a, ha⟩ := hok n hn
    have parses := hparse n hn
    rw [← List.take_append_getElem hn, after_concat, GlobalCall.applyAll_concat] at *
    exact ((ih (Nat.le_of_succ_le hn)).next parses ha).2.1

/-- **Nothing is lost between workers.** Stores that keep their global tiers in one file
set and remove global variables, and no call fails. After every call the file is read as
what all calls so far make of the map that it was read as at first, the global tier of the
calling store is that map, and a removal answers whether its key was in the map just
before.

What the calls make of the map is said without stores and files: the calls are applied one
after the other, as if there were only one worker and nothing but the map. -/
theorem nothing_lost (hfile : ∀ i, (w.stores i).globalFile = some path)
    (hread : Store.readGlobal w.files path = .ok m) {calls : List (ι × GlobalCall)}
    (hparse : ∀ n < calls.length, (GlobalCall.applyAll (calls.take (n + 1)) m).Parses)
    (hok : ∀ n (hn : n < calls.length), ∃ a, (w.after (calls.take n)).result calls[n] = .ok a)
    (n : Nat) (hn : n < calls.length) :
    (w.after (calls.take n)).result calls[n] =
        .ok (calls[n].2.answer (GlobalCall.applyAll (calls.take n) m))
      ∧ Store.readGlobal (w.after (calls.take (n + 1))).files path =
          .ok (GlobalCall.applyAll (calls.take (n + 1)) m)
      ∧ ((w.after (calls.take (n + 1))).stores calls[n].1).global =
          GlobalCall.applyAll (calls.take (n + 1)) m := by
  have share := Share.after ⟨hfile, hread⟩ hparse hok (Nat.le_of_lt hn)
  have parses := hparse n hn
  obtain ⟨a, ha⟩ := hok n hn
  rw [← List.take_append_getElem hn, after_concat, GlobalCall.applyAll_concat] at *
  obtain ⟨rfl, hnext, hstore⟩ := share.next parses ha
  exact ⟨ha, hnext.reads, hstore⟩

/-- Two stores that were opened when there was no file yet. -/
def pair : Workers Bool where
  stores := fun _ => { envFile := some "dev.env", globalFile := some "globals.yaml" }
  files := .empty

/-- Calls of the two in turn. -/
def pairCalls : List (Bool × GlobalCall) :=
  [(false, .set 0 "region" "eu" none), (true, .set 0 "zone" "a" none), (false, .delete "zone"),
    (true, .delete "zone")]

/-- The one store removes what the other has set, and the other one sees it. -/
theorem nothing_lost_of_pair :
    (∀ i, Store.open .empty "dev.env" "globals.yaml" = .ok (pair.stores i))
      ∧ (pair.after (pairCalls.take 3)).result (true, .delete "zone") = .ok (some false)
      ∧ Store.readGlobal (pair.after pairCalls).files "globals.yaml" = .ok [("region", "eu")]
      ∧ ((pair.after pairCalls).stores true).global = [("region", "eu")] := by
  have opened : ∀ i, Store.open .empty "dev.env" "globals.yaml" = .ok (pair.stores i) := by
    decide +kernel
  have read : Store.readGlobal pair.files "globals.yaml" = .ok [] := by decide +kernel
  have parses : ∀ n < pairCalls.length,
      (GlobalCall.applyAll (pairCalls.take (n + 1)) []).Parses := by
    decide +kernel
  have answers : ∀ n (hn : n < pairCalls.length),
      (pair.after (pairCalls.take n)).result pairCalls[n] =
        .ok ([none, none, some true, some false].getD n none) := by
    decide +kernel
  exact ⟨opened,
    nothing_lost (fun _ => rfl) read parses (fun n hn => ⟨_, answers n hn⟩) 3 (by decide)⟩

end Workers

end CaseRunner
