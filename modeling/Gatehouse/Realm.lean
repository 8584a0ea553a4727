import Gatehouse.AccessError
import Gatehouse.Clearance

/-!
# Realms

A realm tells what an identity may do. An account realm knows it from the records of a store, and
remembers the clearances that they amount to in a cache; store and cache are referred to by number. An
outside realm answers from elsewhere, as it likes.

Permissions and roles are asked for alike: `Requestable` is all that tells them apart.
-/

namespace Gatehouse

/-- Each item with the verdict on it. -/
abbrev Verdicts (ι : Type) := List (ι × Bool)

/-- The same verdict on every item. -/
def Verdicts.constant (verdict : Bool) (items : List ι) : Verdicts ι := items.map (·, verdict)

structure AccountRealm where
  label : String
  store : Nat
  cache : Nat
  judge : Clearance → List Permission → Except FormatError (Verdicts Permission) := Clearance.judge
  judgeRoles : Clearance → List String → Verdicts String := Clearance.judgeRoles

structure OutsideRealm where
  label : String
  /-- The realm can be told to forget an identity. -/
  caching : Bool
  judge : Identity → List Permission → Except AccessError (Verdicts Permission)
  judgeRoles : Identity → List String → Except AccessError (Verdicts String)

/-- An outside realm that gives the same answer every time: an outage, or the verdicts set down for it,
or one verdict on every item. -/
def OutsideRealm.fixed (label : String) (caching : Bool) (outage? : Option String) (verdict : Bool)
    (permissions? : Option (Verdicts Permission)) (roles? : Option (Verdicts String)) :
    OutsideRealm :=
  let answer {ι : Type} (fixed? : Option (Verdicts ι)) (items : List ι) :
      Except AccessError (Verdicts ι) :=
    match outage? with
    | some message => .error (.realmFailed label message)
    | none => .ok (fixed?.getD (.constant verdict items))
  { label, caching
    judge := fun _ items => answer permissions? items
    judgeRoles := fun _ items => answer roles? items }

inductive Realm where
  | account (r : AccountRealm)
  | outside (r : OutsideRealm)

namespace Realm

def label : Realm → String
  | account r => r.label
  | outside r => r.label

/-- The realm remembers identities and can be told to forget them. -/
def isCaching : Realm → Bool
  | account _ => true
  | outside r => r.caching

end Realm

/-- A kind of item that can be asked for. -/
class Requestable (ι : Type) where
  kind : ItemKind
  text : ι → String
  /-- The verdicts of an account realm on an identity whose clearance it knows. -/
  judge : AccountRealm → Clearance → List ι → Except AccessError (Verdicts ι)
  /-- The verdicts of an outside realm. -/
  ask : OutsideRealm → Identity → List ι → Except AccessError (Verdicts ι)

instance : Requestable Permission where
  kind := .permission
  text := Permission.text
  judge realm clearance items := (realm.judge clearance items).mapError .invalidFormat
  ask := OutsideRealm.judge

instance : Requestable String where
  kind := .role
  text := id
  judge realm clearance items := .ok (realm.judgeRoles clearance items)
  ask := OutsideRealm.judgeRoles

end Gatehouse
