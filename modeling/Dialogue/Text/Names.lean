namespace Dialogue.Text

def insertName (name : String) : List String → List String
  | [] => [name]
  | n :: rest =>
    if name = n then n :: rest
    else if name < n then name :: n :: rest
    else n :: insertName name rest

def sortNames (names : List String) : List String := names.foldr insertName []

end Dialogue.Text
