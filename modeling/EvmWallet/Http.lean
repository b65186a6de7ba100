/-!
# Answers of a server

What comes back for a request: a status with a body, if anything does.
-/

namespace EvmWallet.Http

/-- An answer. -/
structure Response where
  status : Nat
  body : List UInt8
  deriving DecidableEq, Repr

namespace Response

/-- The names of the statuses that refuse a request. -/
def reasons : List (Nat × String) := [
  (400, "Bad Request"), (401, "Unauthorized"), (402, "Payment Required"), (403, "Forbidden"),
  (404, "Not Found"), (405, "Method Not Allowed"), (406, "Not Acceptable"),
  (407, "Proxy Authentication Required"), (408, "Request Timeout"), (409, "Conflict"),
  (410, "Gone"), (411, "Length Required"), (412, "Precondition Failed"),
  (413, "Payload Too Large"), (414, "URI Too Long"), (415, "Unsupported Media Type"),
  (416, "Range Not Satisfiable"), (417, "Expectation Failed"), (418, "I'm a teapot"),
  (421, "Misdirected Request"), (422, "Unprocessable Entity"), (423, "Locked"),
  (424, "Failed Dependency"), (426, "Upgrade Required"), (428, "Precondition Required"),
  (429, "Too Many Requests"), (431, "Request Header Fields Too Large"),
  (451, "Unavailable For Legal Reasons"), (500, "Internal Server Error"),
  (501, "Not Implemented"), (502, "Bad Gateway"), (503, "Service Unavailable"),
  (504, "Gateway Timeout"), (505, "HTTP Version Not Supported"),
  (506, "Variant Also Negotiates"), (507, "Insufficient Storage"), (508, "Loop Detected"),
  (510, "Not Extended"), (511, "Network Authentication Required")]

/-- The status with its name. -/
def statusText (r : Response) : String :=
  toString r.status ++ " " ++ ((reasons.lookup r.status).getD "<unknown status code>")

/-- Whose fault a refusal is, if the status is one. -/
def fault? (r : Response) : Option String :=
  if 400 ≤ r.status ∧ r.status < 500 then some "client"
  else if 500 ≤ r.status ∧ r.status < 600 then some "server"
  else none

/-- The body, which two statuses do not have. -/
def content (r : Response) : List UInt8 := if r.status = 204 ∨ r.status = 304 then [] else r.body

end Response

end EvmWallet.Http
