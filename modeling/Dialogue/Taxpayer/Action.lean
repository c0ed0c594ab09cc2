import Dialogue.Taxpayer.Basic
import Dialogue.Action
import Dialogue.Value.Path
import Dialogue.Text.Blank

namespace Dialogue

/-- The steps to go to after a search, by the number of taxpayers found; without one the step's own
transition decides. -/
structure SearchRoutes where
  none : Option String := Option.none
  single : Option String := Option.none
  multiple : Option String := Option.none
deriving DecidableEq

inductive TaxpayerAction where
  | search (routes : SearchRoutes)
  | verify
deriving DecidableEq

def SearchRoutes.route (routes : SearchRoutes) (found : List Taxpayer) : Option String :=
  match found with
  | [] => routes.none
  | [_] => routes.single
  | _ => routes.multiple

namespace TaxpayerAction

abbrev Outcome := Except String Report

def searchName (r : Request) : String := Text.trim ((r.paramText? "name").getD r.rawInput)

/-- The identifier to verify: the parameter if it is a text, else that of the taxpayer found. -/
def identifier? (r : Request) : Option String :=
  (((r.paramText? "nif").or ((r.vars.lookup? "dgi.match.nif").bind Value.text?)).map
    Text.trim).filter fun nif => !nif.isEmpty

def match? : List Taxpayer → Option Taxpayer
  | [t] => some t
  | _ => none

def searchReport (routes : SearchRoutes) (found : List Taxpayer) : Report :=
  { success := true
    nextStepOverride := routes.route found
    data := some [("dgi", .object [
      ("count", .number (.integer found.length)),
      ("match", ((match? found).map Taxpayer.toValue).getD .null),
      ("results", .list (found.map Taxpayer.toValue))])] }

def verifyReport (v : Verdict) : Report :=
  { success := true, data := some [("verification", v.toValue)] }

def run (a : TaxpayerAction) (r : Request) : Inquiring Outcome :=
  match a with
  | .search routes =>
    if (searchName r).isEmpty then .done (.error "no name to search for")
    else .ask (.search (searchName r)) fun answer => .done (answer.map (searchReport routes))
  | .verify =>
    match identifier? r with
    | none => .done (.error "no taxpayer identifier to verify")
    | some nif => .ask (.verify nif) fun answer => .done (answer.map verifyReport)

def ending : Outcome → Ending
  | .ok report => .reported report
  | .error message => .failed message

def registerAll {H : Type} (handler : TaxpayerAction → H) (routes : SearchRoutes)
    (actions : Actions H) : Actions H :=
  (actions.registerShared "search_dgi" (handler (.search routes))).registerShared "verify_dgi"
    (handler .verify)

end TaxpayerAction

end Dialogue
