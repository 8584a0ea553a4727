import Gatehouse.Scenario.Step

/-!
# Reading a step and answering it

What the steps for all kinds of objects share: finding what a name refers to, reading texts before
anything else is done, and turning what comes out into an answer.
-/

namespace Gatehouse

namespace Site

/-- Goes on with what a name refers to. -/
def withNamed (find? : Names → Option α) (act : α → Action σ Answer) : Action σ Answer := do
  match find? (← get).names with
  | some a => act a
  | none => return .unknown

end Site

/-- What a check comes to, where `f` tells a success. -/
def Check.answer (f : α → Answer) (check : Check σ α) : Action σ Answer := do
  return .ofExcept f (← check.run)

/-- What an attempt to read comes to: the operation goes on, or the fault is the answer. -/
def Answer.orElse (attempt : Except FormatError α) (act : α → Action σ Answer) : Action σ Answer :=
  match attempt with
  | .ok a => act a
  | .error e => return .ofFault (AccessError.invalidFormat e)

def Answer.ofVerdicts [Requestable ι] (verdicts : Verdicts ι) : Answer :=
  .verdicts (verdicts.map fun verdict => (Requestable.text verdict.1, verdict.2))

/-- The grant that is written down. -/
def GrantText.grant : GrantText → Except FormatError Grant
  | raw text => .ok (.raw text)
  | parsed text => (Permission.parse text).map .parsed

/-- Goes on with the items of a request, once their texts have been read. -/
def Request.reading (request : Request)
    (act : {ι : Type} → [Requestable ι] → [DecidableEq ι] → List ι → Action σ Answer) :
    Action σ Answer :=
  match request with
  | permissions texts => Answer.orElse (texts.mapM Permission.parse) act
  | roles l => act l

end Gatehouse
