import MailboxKeeper.Text.Utf8

/-!
# HTTP requests and replies

A request is sent and comes back with a response, or with none if the connection breaks before
one. The body of a response may break off; some statuses have no body at all.
-/

namespace MailboxKeeper.Http

inductive Method where
  | get
  | post
  | delete
  deriving DecidableEq, Repr

def Method.name : Method → String
  | get => "GET"
  | post => "POST"
  | delete => "DELETE"

/-- A request. Its URL has no fragment. -/
structure Request where
  method : Method
  url : String
  authorization : Option String
  contentType : Option String
  body : String
  deriving DecidableEq, Repr

/-- The body of a response. -/
inductive Body where
  | complete (bytes : List UInt8)
  /-- The connection closed before the end that was announced. -/
  | truncated
  deriving DecidableEq, Repr

/-- What a request is answered by. -/
inductive Reply where
  | response (status : Nat) (body : Body)
  /-- The connection closed, or was never made, before a response came. -/
  | noConnection
  deriving DecidableEq, Repr

/-- A status that has no body. -/
def isBodiless (status : Nat) : Bool := status == 204 || status == 304

/-- The bytes of a body, if it can be read to its end. -/
def bodyBytes? (status : Nat) (body : Body) : Option (List UInt8) :=
  if isBodiless status then some []
  else
    match body with
    | .complete bytes => some bytes
    | .truncated => none

/-- A status of success. -/
def isSuccess (status : Nat) : Bool := 200 ≤ status && status ≤ 299

/-- The registered phrases for statuses. -/
def reasonPhrases : List (Nat × String) :=
  [(100, "Continue"), (101, "Switching Protocols"), (102, "Processing"), (103, "Early Hints"),
   (200, "OK"), (201, "Created"), (202, "Accepted"), (203, "Non Authoritative Information"),
   (204, "No Content"), (205, "Reset Content"), (206, "Partial Content"), (207, "Multi-Status"),
   (208, "Already Reported"), (226, "IM Used"), (300, "Multiple Choices"),
   (301, "Moved Permanently"), (302, "Found"), (303, "See Other"), (304, "Not Modified"),
   (305, "Use Proxy"), (307, "Temporary Redirect"), (308, "Permanent Redirect"),
   (400, "Bad Request"), (401, "Unauthorized"), (402, "Payment Required"), (403, "Forbidden"),
   (404, "Not Found"), (405, "Method Not Allowed"), (406, "Not Acceptable"),
   (407, "Proxy Authentication Required"), (408, "Request Timeout"), (409, "Conflict"),
   (410, "Gone"), (411, "Length Required"), (412, "Precondition Failed"),
   (413, "Payload Too Large"), (414, "URI Too Long"), (415, "Unsupported Media Type"),
   (416, "Range Not Satisfiable"), (417, "Expectation Failed"), (418, "I'm a teapot"),
   (421, "Misdirected Request"), (422, "Unprocessable Entity"), (423, "Locked"),
   (424, "Failed Dependency"), (425, "Too Early"), (426, "Upgrade Required"),
   (428, "Precondition Required"), (429, "Too Many Requests"),
   (431, "Request Header Fields Too Large"), (451, "Unavailable For Legal Reasons"),
   (500, "Internal Server Error"), (501, "Not Implemented"), (502, "Bad Gateway"),
   (503, "Service Unavailable"), (504, "Gateway Timeout"), (505, "HTTP Version Not Supported"),
   (506, "Variant Also Negotiates"), (507, "Insufficient Storage"), (508, "Loop Detected"),
   (510, "Not Extended"), (511, "Network Authentication Required")]

/-- The registered phrase for a status. -/
def reasonPhrase? (status : Nat) : Option String :=
  (reasonPhrases.find? fun p => p.1 == status).map Prod.snd

end MailboxKeeper.Http
