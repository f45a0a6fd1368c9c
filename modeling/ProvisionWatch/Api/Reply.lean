import ProvisionWatch.Json.Decoder

/-!
# Replies of the cluster

A reply has a code and a body.  A code from 400 on refuses the request; the body
then says why, and if it does not, its text stands for the reason.
-/

namespace ProvisionWatch
namespace Api

/-! ## Refusals -/

/-- Why a request was refused. -/
structure Refusal where
  status : String
  message : String
  reason : String
  code : Nat
deriving DecidableEq, Repr

namespace Refusal

/-- Refusals as the cluster writes them. -/
def decoder : Json.Decoder Refusal :=
  .record "ErrorResponse"
    (mk <$> .required "status" .text <*> .orElse "message" "" .text <*>
      .orElse "reason" "" .text <*> .required "code" .natural16)

/-- The refusal in words. -/
def text (r : Refusal) : String :=
  r.message ++ ": " ++ r.reason

/-- The refusal with all its parts. -/
def details (r : Refusal) : String :=
  "ErrorResponse \x7b status: " ++ Text.shown r.status ++ ", message: " ++ Text.shown r.message ++
    ", reason: " ++ Text.shown r.reason ++ ", code: " ++ Text.natText r.code ++ " \x7d"

end Refusal

/-! ## Errors -/

/-- Why a request has no answer. -/
inductive Error where
  | refused (refusal : Refusal)
  /-- An object without a name cannot be asked for. -/
  | namelessRequest
  /-- The path holds a character that it cannot hold. -/
  | unsoundPath
  /-- The answer is not what it should be. -/
  | unreadable (fault : Json.Fault)
  /-- There is no connection to the cluster. -/
  | unreachable
deriving DecidableEq, Repr

/-- The error in words. -/
def Error.text : Error → String
  | refused r => "ApiError: " ++ r.text ++ " (" ++ r.details ++ ")"
  | namelessRequest =>
      "Failed to build request: failed to validate request: A non-empty name is required"
  | unsoundPath => "Failed to build request: failed to build request: invalid uri character"
  | unreadable fault => "Error deserializing response: " ++ fault.text
  | unreachable => "ServiceError: client error (Connect)"

/-! ## Codes -/

/-- The phrases that belong to codes. -/
def phrases : List (Nat × String) :=
  [ (400, "Bad Request"), (401, "Unauthorized"), (402, "Payment Required"), (403, "Forbidden"),
    (404, "Not Found"), (405, "Method Not Allowed"), (406, "Not Acceptable"),
    (407, "Proxy Authentication Required"), (408, "Request Timeout"), (409, "Conflict"),
    (410, "Gone"), (411, "Length Required"), (412, "Precondition Failed"),
    (413, "Payload Too Large"), (414, "URI Too Long"), (415, "Unsupported Media Type"),
    (416, "Range Not Satisfiable"), (417, "Expectation Failed"), (418, "I'm a teapot"),
    (421, "Misdirected Request"), (422, "Unprocessable Entity"), (423, "Locked"),
    (424, "Failed Dependency"), (425, "Too Early"), (426, "Upgrade Required"),
    (428, "Precondition Required"),
    (429, "Too Many Requests"), (431, "Request Header Fields Too Large"),
    (451, "Unavailable For Legal Reasons"), (500, "Internal Server Error"),
    (501, "Not Implemented"), (502, "Bad Gateway"), (503, "Service Unavailable"),
    (504, "Gateway Timeout"), (505, "HTTP Version Not Supported"),
    (506, "Variant Also Negotiates"), (507, "Insufficient Storage"), (508, "Loop Detected"),
    (510, "Not Extended"), (511, "Network Authentication Required") ]

/-- A code with its phrase. -/
def codeText (code : Nat) : String :=
  Text.natText code ++ " " ++ (phrases.lookup code).getD "<unknown status code>"

/-! ## Replies -/

/-- The body of a reply. -/
inductive Body where
  | json (value : Json)
  | raw (text : String)

/-- The text of a body. -/
def Body.text : Body → String
  | json v => v.compact
  | raw s => s

/-- A reply. -/
structure Reply where
  code : Nat
  body : Body

namespace Reply

/-- Whether a reply refuses the request. -/
def isRefusal (r : Reply) : Bool :=
  400 ≤ r.code && r.code ≤ 599

/-- Why a reply refuses the request. -/
def refusal (r : Reply) : Refusal :=
  match Refusal.decoder.read r.body.text with
  | .ok refusal => refusal
  | .error _ =>
      { status := codeText r.code
        message := Text.shown r.body.text
        reason := "Failed to parse error data"
        code := r.code }

/-- Read the body of a reply. -/
def read (r : Reply) (d : Json.Decoder α) : Except Error α :=
  if r.isRefusal then .error (.refused r.refusal)
  else
    match d.read r.body.text with
    | .ok a => .ok a
    | .error fault => .error (.unreadable fault)

end Reply
end Api
end ProvisionWatch
