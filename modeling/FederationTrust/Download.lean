import FederationTrust.Bytes

/-!
# Downloads

What is asked of a web server, what it answers, and how its status is told. Requests are
carried by a client, which has to be made first; it follows redirections by itself.
-/

namespace FederationTrust

/-- What a client tells every server, and after how many seconds it gives up. -/
structure HttpClient where
  userAgent : String
  accept : String
  timeoutSeconds : UInt64
  deriving DecidableEq, Repr

structure DownloadRequest where
  url : String
  client : HttpClient
  deriving DecidableEq, Repr

structure DownloadFault where
  timedOut : Bool
  message : String
  deriving DecidableEq, Repr

def DownloadFault.text (f : DownloadFault) : String :=
  if f.timedOut then "request timed out: " ++ f.message else f.message

/-- An answer: its status, and its body, unless that broke off. -/
structure DownloadResponse where
  status : Nat
  body : Except DownloadFault Bytes
  deriving Repr

namespace DownloadResponse

def isSuccess (r : DownloadResponse) : Bool :=
  200 ≤ r.status && r.status < 300

end DownloadResponse

def statusPhrases : List (Nat × String) :=
  [(100, "Continue"), (101, "Switching Protocols"), (102, "Processing"), (200, "OK"),
    (201, "Created"), (202, "Accepted"), (203, "Non Authoritative Information"),
    (204, "No Content"), (205, "Reset Content"), (206, "Partial Content"), (207, "Multi-Status"),
    (208, "Already Reported"), (226, "IM Used"), (300, "Multiple Choices"),
    (301, "Moved Permanently"), (302, "Found"), (303, "See Other"), (304, "Not Modified"),
    (305, "Use Proxy"), (307, "Temporary Redirect"), (308, "Permanent Redirect"),
    (400, "Bad Request"), (401, "Unauthorized"), (402, "Payment Required"), (403, "Forbidden"),
    (404, "Not Found"), (405, "Method Not Allowed"), (406, "Not Acceptable"),
    (407, "Proxy Authentication Required"), (408, "Request Timeout"), (409, "Conflict"),
    (410, "Gone"), (411, "Length Required"), (412, "Precondition Failed"),
    (413, "Payload Too Large"), (414, "URI Too Long"), (415, "Unsupported Media Type"),
    (416, "Range Not Satisfiable"), (417, "Expectation Failed"), (418, "I'm a teapot"),
    (421, "Misdirected Request"), (422, "Unprocessable Entity"), (423, "Locked"),
    (424, "Failed Dependency"), (425, "Too Early"), (426, "Upgrade Required"),
    (428, "Precondition Required"), (429, "Too Many Requests"),
    (431, "Request Header Fields Too Large"), (451, "Unavailable For Legal Reasons"),
    (500, "Internal Server Error"), (501, "Not Implemented"), (502, "Bad Gateway"),
    (503, "Service Unavailable"), (504, "Gateway Timeout"), (505, "HTTP Version Not Supported"),
    (506, "Variant Also Negotiates"), (507, "Insufficient Storage"), (508, "Loop Detected"),
    (510, "Not Extended"), (511, "Network Authentication Required")]

def statusText (status : Nat) : String :=
  toString status ++ " " ++ (statusPhrases.lookup status).getD "<unknown status code>"

end FederationTrust
