import CaseRunner.Document.Basic
import CaseRunner.Text.Search

/-!
# Comparing documents

The comparisons that assertions and conditions are made of. Two numbers are
compared by value, so `200` equals `200.0`; numbers inside lists and mappings
are compared by form. Order is defined between two numbers and between two
texts, membership in texts, lists and mappings.
-/

namespace CaseRunner.Document

/-- Equality, with two numbers compared by value. -/
def equal : Document → Document → Bool
  | .number a, .number b => a.toBinary64.eq b.toBinary64
  | a, b => a.same b

/-- The order of two texts, by their code points. -/
def textOrder (s t : String) : Ordering :=
  if s < t then .lt else if s = t then .eq else .gt

/-- The order of two numbers or two texts. -/
def order? : Document → Document → Option Ordering
  | .number a, .number b => a.toBinary64.order b.toBinary64
  | .text s, .text t => some (textOrder s t)
  | _, _ => none

/-- Is the needle part of the haystack: a piece of a text, an item of a list, a
name of a mapping? -/
def holds? (haystack needle : Document) : Option Bool :=
  match haystack, needle with
  | .text s, .text part => some (Text.contains s.toList part.toList)
  | .list items, d => some (items.any (equal · d))
  | .mapping fields, .text name => some (field? name fields).isSome
  | _, _ => none

end CaseRunner.Document
