import Gatehouse.Permission

/-!
# Grants

A grant on record is a permission that has been read already, or a text that is read only when a
request touches its domain. A text need not be a permission at all: its domain can be told without
reading the rest.
-/

namespace Gatehouse

inductive Grant where
  | parsed (permission : Permission)
  | raw (text : String)
  deriving DecidableEq

namespace Grant

instance : Inhabited Grant := ⟨raw ""⟩

def parsed? : Grant → Option Permission
  | parsed p => some p
  | raw _ => none

def raw? : Grant → Option String
  | parsed _ => none
  | raw text => some text

def text : Grant → String
  | parsed p => p.text
  | raw text => text

/-- The domain tokens under which the grant is filed, those of a text in written order. -/
def domains : Grant → List String
  | parsed p => p.domain.toList
  | raw text => Tokens.read ((text.toList.splitOn ':').headD [])

/-- The permission granted, if the text is one. -/
def resolve : Grant → Except FormatError Permission
  | parsed p => .ok p
  | raw text => Permission.parse text

/-- Permissions come before texts, each in their own order. -/
instance : Ord Grant := ⟨compareLex (compareOn raw?) (compareOn parsed?)⟩

instance : Std.TransOrd Grant :=
  inferInstanceAs (Std.TransCmp (compareLex (compareOn raw?) (compareOn parsed?)))

theorem eq_of_views {g h : Grant} (sameRaw : g.raw? = h.raw?) (sameParsed : g.parsed? = h.parsed?) :
    g = h := by
  cases g <;> cases h <;> simp_all [raw?, parsed?]

instance : Std.LawfulEqOrd Grant where
  compare_self := Std.ReflCmp.compare_self
  eq_of_compare {g h} same := by
    obtain ⟨sameRaw, sameParsed⟩ := Ordering.then_eq_eq.1 same
    exact eq_of_views (Std.LawfulEqOrd.eq_of_compare sameRaw)
      (Std.LawfulEqOrd.eq_of_compare sameParsed)

end Grant

end Gatehouse
