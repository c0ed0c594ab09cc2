import Dialogue.Conversation.Basic

namespace Dialogue

/-- The counts so far; each list is in the order of its labels. -/
structure Tally where
  turns : List ((String × String) × Nat) := []
  commands : List (String × Nat) := []
  conflicts : Nat := 0
deriving DecidableEq

namespace Tally

def count {α : Type} [DecidableEq α] (before : α → α → Bool) (label : α) :
    List (α × Nat) → List (α × Nat)
  | [] => [(label, 1)]
  | (l, n) :: rest =>
    if label = l then (l, n + 1) :: rest
    else if before label l then (label, 1) :: (l, n) :: rest
    else (l, n) :: count before label rest

/-- The order of turns: by result, then by workflow. -/
def turnBefore (a b : String × String) : Bool :=
  decide (a.1 < b.1) || (a.1 = b.1 && decide (a.2 < b.2))

def note (t : Tally) : Note → Tally
  | .turn workflowId result =>
    { t with turns := count turnBefore (result, workflowId) t.turns }
  | .command c => { t with commands := count (fun a b => decide (a < b)) c.word t.commands }
  | .conflict => { t with conflicts := t.conflicts + 1 }

def labelText (s : String) : String :=
  String.ofList ('"' :: s.toList.flatMap (fun c =>
    if c = '\\' then ['\\', '\\']
    else if c = '"' then ['\\', '"']
    else if c = '\n' then ['\\', 'n']
    else [c]) ++ ['"'])

def header (name help : String) : List String :=
  ["# HELP " ++ name ++ " " ++ help, "# TYPE " ++ name ++ " counter"]

def family (name help : String) (samples : List (String × Nat)) : List String :=
  if samples.isEmpty then []
  else header name help ++ samples.map fun s => name ++ s.1 ++ " " ++ toString s.2

def turnLabel (label : String × String) : String :=
  "\x7bresult=" ++ labelText label.1 ++ ",workflow=" ++ labelText label.2 ++ "\x7d"

def commandLabel (word : String) : String := "\x7bcommand=" ++ labelText word ++ "\x7d"

def render (t : Tally) : String :=
  String.join ((
    family "onboarding_system_commands_total" "Back, cancel and restart commands handled."
      (t.commands.map fun c => (commandLabel c.1, c.2)) ++
    family "onboarding_turns_total" "Workflow turns processed, by workflow and result."
      (t.turns.map fun c => (turnLabel c.1, c.2)) ++
    family "onboarding_version_conflicts_total"
      "Session saves rejected because another writer got there first."
      [("", t.conflicts)]).map (· ++ "\n"))

end Tally

end Dialogue
