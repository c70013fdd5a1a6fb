/-!
# Status codes

The number that a reply begins with, and the reason that goes with it. The reason depends on the
number alone: what a service sends in its place is not looked at.
-/

namespace ProcTrace.Http

/-- The number of a reply's status. -/
abbrev Status := Nat

namespace Status

/-- The numbers that have a standard reason. -/
def reasons : List (Status × String) :=
  [(100, "Continue"), (101, "Switching Protocols"), (102, "Processing"), (103, "Early Hints"),
    (200, "OK"), (201, "Created"), (202, "Accepted"), (203, "Non Authoritative Information"),
    (204, "No Content"), (205, "Reset Content"), (206, "Partial Content"), (207, "Multi-Status"),
    (208, "Already Reported"), (226, "IM Used"),
    (300, "Multiple Choices"), (301, "Moved Permanently"), (302, "Found"), (303, "See Other"),
    (304, "Not Modified"), (305, "Use Proxy"), (307, "Temporary Redirect"),
    (308, "Permanent Redirect"),
    (400, "Bad Request"), (401, "Unauthorized"), (402, "Payment Required"), (403, "Forbidden"),
    (404, "Not Found"), (405, "Method Not Allowed"), (406, "Not Acceptable"),
    (407, "Proxy Authentication Required"), (408, "Request Timeout"), (409, "Conflict"),
    (410, "Gone"), (411, "Length Required"), (412, "Precondition Failed"),
    (413, "Payload Too Large"), (414, "URI Too Long"), (415, "Unsupported Media Type"),
    (416, "Range Not Satisfiable"), (417, "Expectation Failed"), (418, "I'm a teapot"),
    (421, "Misdirected Request"), (422, "Unprocessable Entity"), (423, "Locked"),
    (424, "Failed Dependency"), (425, "Too Early"), (426, "Upgrade Required"),
    (428, "Precondition Required"), (429, "Too Many Requests"),
    (431, "Request Header Fields Too Large"), (451, "Unavailable For Legal Reasons"),
    (500, "Internal Server Error"), (501, "Not Implemented"), (502, "Bad Gateway"),
    (503, "Service Unavailable"), (504, "Gateway Timeout"), (505, "HTTP Version Not Supported"),
    (506, "Variant Also Negotiates"), (507, "Insufficient Storage"), (508, "Loop Detected"),
    (510, "Not Extended"), (511, "Network Authentication Required")]

/-- The standard reason of a number. -/
def reason? (s : Status) : Option String :=
  reasons.lookup s

/-- The number with its reason. -/
def describe (s : Status) : String :=
  s!"{s} " ++ s.reason?.getD "<unknown status code>"

/-- The service did what it was asked to do. -/
def isSuccess (s : Status) : Bool :=
  200 ≤ s && s < 300

/-- A reply with this status has no body. -/
def isBodiless (s : Status) : Bool :=
  s = 204 || s = 304

/-- The number that says that there is no such thing. -/
def notFound : Status := 404

/-- Every standard reason says something. -/
theorem reason?_ne_empty {s : Status} {r : String} (h : s.reason? = some r) : r ≠ "" := by
  have all : ∀ p ∈ reasons, p.2 ≠ "" := by decide
  obtain ⟨p, hp, rfl⟩ : ∃ p ∈ reasons, p.2 = r := by
    unfold reason? at h
    generalize reasons = l at h
    induction l with
    | nil => simp at h
    | cons p l ih =>
      obtain ⟨a, b⟩ := p
      rw [List.lookup_cons] at h
      split at h
      · exact ⟨(a, b), by simp, by simpa using h⟩
      · obtain ⟨p, hp, e⟩ := ih h
        exact ⟨p, by simp [hp], e⟩
  exact all p hp

end Status

end ProcTrace.Http
