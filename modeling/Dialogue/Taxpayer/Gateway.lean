import Dialogue.Taxpayer.Basic
import Dialogue.Url
import Dialogue.Value.Reader

namespace Dialogue

structure FetchRequest where
  url : Url
  authorization : Option String := none
deriving DecidableEq

structure FetchResponse where
  status : Nat
  body : String
deriving DecidableEq

/-- A computation that fetches; a request without a response has failed for some reason. -/
abbrev Fetching := Interaction FetchRequest (fun _ => Except String FetchResponse)

/-- A gateway: its address without slashes at the end, and the token it wants to see. -/
structure Gateway where
  baseUrl : String
  token : Option String := none
deriving DecidableEq

namespace FetchResponse

def reasons : List (Nat × String) := [
  (100, "Continue"), (101, "Switching Protocols"), (102, "Processing"),
  (200, "OK"), (201, "Created"), (202, "Accepted"), (203, "Non Authoritative Information"),
  (204, "No Content"), (205, "Reset Content"), (206, "Partial Content"), (207, "Multi-Status"),
  (208, "Already Reported"), (226, "IM Used"),
  (300, "Multiple Choices"), (301, "Moved Permanently"), (302, "Found"), (303, "See Other"),
  (304, "Not Modified"), (305, "Use Proxy"), (307, "Temporary Redirect"),
  (308, "Permanent Redirect"),
  (400, "Bad Request"), (401, "Unauthorized"), (402, "Payment Required"), (403, "Forbidden"),
  (404, "Not Found"), (405, "Method Not Allowed"), (406, "Not Acceptable"),
  (407, "Proxy Authentication Required"), (408, "Request Timeout"), (409, "Conflict"),
  (410, "Gone"), (411, "Length Required"), (412, "Precondition Failed"),
  (413, "Payload Too Large"), (414, "URI Too Long"), (415, "Unsupported Media Type"),
  (416, "Range Not Satisfiable"), (417, "Expectation Failed"), (418, "I'm a teapot"),
  (421, "Misdirected Request"), (422, "Unprocessable Entity"), (423, "Locked"),
  (424, "Failed Dependency"), (426, "Upgrade Required"), (428, "Precondition Required"),
  (429, "Too Many Requests"), (431, "Request Header Fields Too Large"),
  (451, "Unavailable For Legal Reasons"),
  (500, "Internal Server Error"), (501, "Not Implemented"), (502, "Bad Gateway"),
  (503, "Service Unavailable"), (504, "Gateway Timeout"), (505, "HTTP Version Not Supported"),
  (506, "Variant Also Negotiates"), (507, "Insufficient Storage"), (508, "Loop Detected"),
  (510, "Not Extended"), (511, "Network Authentication Required")]

def statusText (r : FetchResponse) : String :=
  toString r.status ++ " " ++ (reasons.lookup r.status).getD "<unknown status code>"

def isSuccess (r : FetchResponse) : Bool := 200 ≤ r.status && r.status < 300

def read {α : Type} (r : FetchResponse) (decode : Document → Option α) : Except String α :=
  match (Value.ofText? r.body).bind fun v => decode (.ofValue v) with
  | some a => .ok a
  | none => .error "error decoding response body"

end FetchResponse

namespace Gateway

def make (url : String) (token : Option String) : Gateway where
  baseUrl := String.ofList (url.toList.reverse.dropWhile (· = '/')).reverse
  token := token

def endpoint [UrlLibrary] (g : Gateway) (segments : List String) : Except String Url :=
  match UrlLibrary.parse? g.baseUrl with
  | none => .error "invalid address"
  | some base =>
    match base.extend? segments with
    | some u => .ok u
    | none => .error ("Gateway URL " ++ g.baseUrl ++ " cannot take a path")

def isSendable (token : String) : Bool :=
  token.toList.all fun c => c = '\t' || (0x20 ≤ c.toNat && c.toNat ≠ 0x7F)

def fetch (g : Gateway) (u : Url) : Fetching (Except String FetchResponse) :=
  match g.token with
  | none => Interaction.request ⟨u, none⟩
  | some token =>
    if isSendable token then Interaction.request ⟨u, some ("Bearer " ++ token)⟩
    else .done (.error "invalid token")

def results? (d : Document) : Option (List Taxpayer) := do
  let fs ← Fields.of? ["results"] d
  fs.withDefault "results" [] (Document.listOf? Taxpayer.ofDocument?)

def searchAnswer (r : FetchResponse) : Except String (List Taxpayer) :=
  if r.isSuccess then r.read results?
  else .error ("Taxpayer search failed (" ++ r.statusText ++ "): " ++ r.body)

/-- The verdict a response states; nothing at the address means that nobody has the identifier. -/
def verifyAnswer (r : FetchResponse) : Except String Verdict :=
  if r.status = 404 then .ok .notFound
  else if r.isSuccess then r.read Verdict.ofDocument?
  else .error ("Taxpayer verification failed (" ++ r.statusText ++ "): " ++ r.body)

def search [UrlLibrary] (g : Gateway) (name : String) : Fetching (Except String (List Taxpayer)) :=
  match g.endpoint ["taxpayers", "search"] with
  | .error e => .done (.error e)
  | .ok u => (g.fetch (u.addPair "name" name)).bind fun r => .done (r.bind searchAnswer)

def verify [UrlLibrary] (g : Gateway) (nif : String) : Fetching (Except String Verdict) :=
  match g.endpoint ["taxpayers", nif, "verify"] with
  | .error e => .done (.error e)
  | .ok u => (g.fetch u).bind fun r => .done (r.bind verifyAnswer)

def inquire [UrlLibrary] (g : Gateway) : (q : Inquiry) → Fetching q.Answer
  | .search name => g.search name
  | .verify nif => g.verify nif

end Gateway

end Dialogue
