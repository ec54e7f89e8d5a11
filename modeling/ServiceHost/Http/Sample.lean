import ServiceHost.Http.Router

/-! A small application with a route for each kind of handler. -/

namespace ServiceHost.Http.Sample

def text (e : Envelope String) : Response := e.response Format.text

def word (e : Envelope UInt64) : Response := e.response Format.word

def hello : Route :=
  { pattern := [.exact "hello"], verb := .get, handler := .constant (text (.success "world")) }

/-- Gives the body back. -/
def echo : Route :=
  { pattern := [.exact "echo"], verb := .post
    handler := .ofText fun s => { response := text (.success s) } }

/-- Counts the bytes of the body. -/
def len : Route :=
  { pattern := [.exact "len"], verb := .post
    handler := .ofBytes fun bytes => { response := word (.success (UInt64.ofNat bytes.length)) } }

/-- Answers after as many milliseconds as the path says. -/
def slow : Route :=
  { pattern := [.exact "slow", .parameter "ms"], verb := .get
    handler := .ofNumber "ms" "u64" (UInt64.size - 1) fun ms =>
      { response := word (.success (UInt64.ofNat ms)), delay := .ofMillis ms } }

def fail : Route :=
  { pattern := [.exact "fail"], verb := .get, handler := .constant (text (.failure .error)) }

def invalid : Route :=
  { pattern := [.exact "invalid"], verb := .get
    handler := .constant (text (.failureWith .invalidParams "missing id")) }

/-- Answers with the code that the path says. -/
def code : Route :=
  { pattern := [.exact "code", .parameter "code"], verb := .get
    handler := .ofNumber "code" "u16" (UInt16.size - 1) fun n =>
      { response := text ⟨UInt16.ofNat n, "custom", none⟩ } }

def routes : List Route := [hello, echo, len, slow, fail, invalid, code]

/-- An application that claims a path of the service itself. -/
def overlapping : List Route := [{ hello with pattern := [.exact "ping"] }]

end ServiceHost.Http.Sample
