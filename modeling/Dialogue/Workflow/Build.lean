import Dialogue.Workflow.Record

namespace Dialogue

namespace Rule

def ofKind (kind : RuleKind) : Rule := { kind }

def withLength (r : Rule) (min max : Nat) : Rule :=
  { r with minLength := some min, maxLength := some max }

def withRange (r : Rule) (min max : Extended) : Rule := { r with min := some min, max := some max }

def withPattern (r : Rule) (pattern : String) : Rule := { r with pattern := some pattern }

def asOptional (r : Rule) : Rule := { r with required := false }

end Rule

namespace Step

def input (id promptKey : String) : Step := { id, promptKey, kind := some .input }

def choice (id promptKey : String) (choices : List Choice) : Step :=
  { id, promptKey, choices, kind := some .choice }

def message (id promptKey : String) : Step := { id, promptKey, kind := some .message }

def service (id action : String) : Step := { id, action := some action, kind := some .service }

def withValidation (s : Step) (r : Rule) : Step := { s with validation := some r }

def withAction (s : Step) (action : String) : Step := { s with action := some action }

def withParam (s : Step) (name text : String) : Step :=
  { s with params := putParam name (.parse text) s.params }

def withNext (s : Step) (t : Transition) : Step := { s with next := some t }

def followedBy (s : Step) (target : String) : Step := s.withNext (.fixed target)

def withOnError (s : Step) (t : Transition) : Step := { s with onError := some t }

def withoutBack (s : Step) : Step := { s with allowBack := false }

def paused (s : Step) : Step := { s with pause := true }

end Step

namespace Workflow

def withProgress (w : Workflow) : Workflow := { w with showProgress := true }

def withOnComplete (w : Workflow) (action : String) : Workflow :=
  { w with onComplete := some action }

def withCompletionPrompt (w : Workflow) (key : String) : Workflow :=
  { w with completionPromptKey := some key }

end Workflow

end Dialogue
