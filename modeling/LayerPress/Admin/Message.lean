import LayerPress.Json.Basic

/-!
# Requests and answers

A request of the administration interface as it arrives, and an answer as it leaves. Header names
are compared without regard to ASCII case.
-/

namespace LayerPress.Admin

/-- Header fields in order. -/
abbrev Headers := List (String × String)

/-- A text with its ASCII capitals made small. -/
def lowerAscii (s : String) : String :=
  String.ofList (s.toList.map fun c => if 'A' ≤ c ∧ c ≤ 'Z' then Char.ofNat (c.toNat + 32) else c)

/-- The first value of a header. -/
def Headers.value? (h : Headers) (name : String) : Option String :=
  (h.find? fun field => lowerAscii field.1 == name).map (·.2)

/-- A request. -/
structure Request where
  method : String
  uri : String
  headers : Headers
  body : String
  deriving Repr, Inhabited

/-- What an answer carries: nothing, a document, a text of the framework, or the events that a
receiver gets. -/
inductive Body where
  | empty
  | document (value : Json)
  | text (value : String)
  | events (receiver : Nat)
  deriving Repr, Inhabited

/-- An answer. -/
structure Response where
  status : Nat
  headers : Headers
  body : Body
  deriving Repr, Inhabited

namespace Response

/-- An answer without a body. -/
def bare (status : Nat) : Response :=
  ⟨status, [], .empty⟩

/-- An answer with a document. -/
def json (status : Nat) (document : Json) : Response :=
  ⟨status, [("content-type", "application/json")], .document document⟩

/-- An answer that tells an error. -/
def error (status : Nat) (message : String) : Response :=
  json status (.object [("error", .string message)])

/-- An answer that refuses a request before it is handled. -/
def refusal (status : Nat) (text : String) : Response :=
  ⟨status, [("content-type", "text/plain; charset=utf-8")], .text text⟩

/-- An answer that stays open for the events of a receiver. -/
def stream (receiver : Nat) : Response :=
  ⟨200, [("content-type", "text/event-stream"), ("cache-control", "no-cache")], .events receiver⟩

/-- The answer with one more header. -/
def withHeader (r : Response) (name value : String) : Response :=
  { r with headers := r.headers ++ [(name, value)] }

/-- The answer without its body. -/
def withoutBody (r : Response) : Response :=
  { r with body := .empty }

end Response

end LayerPress.Admin
