import ServiceHost.Net.SocketAddress

/-! What the surroundings answer when a service binds or dials an address. -/

namespace ServiceHost.Net

/-- Why the surroundings refused. -/
structure Failure where
  text : String
  /-- The other side was already gone. -/
  peerGone : Bool := false

/-- An answer after some milliseconds, or none at all. -/
inductive Answer where
  | after (ms : Nat) (result : Except Failure Unit)
  | never

structure Network where
  /-- The address bound. -/
  bind : String → Except Failure Ip
  /-- The answer to the `n`-th dial of the process. -/
  dial : (n : Nat) → String → Answer
  /-- The answer to closing a connection to this endpoint. -/
  hangUp : String → Answer

/-- The address behind a text; a name stands before the last colon. -/
def resolve (s : String) : Except String SocketAddress :=
  match SocketAddress.ofString? s with
  | some a => .ok a
  | none =>
    match splitLastColon s.toList with
    | none => .error "invalid socket address"
    | some (host, port) =>
      match port? port with
      | none => .error "invalid port value"
      | some port =>
        if host = "localhost".toList then .ok ⟨.v4 [127, 0, 0, 1], port⟩
        else .error "failed to lookup address information: Temporary failure in name resolution"

/-- Addresses of the host itself: the loopback ones and the unspecified ones. -/
def Ip.isLocal : Ip → Bool
  | .v4 octets => octets.head? == some 127 || octets == [0, 0, 0, 0]
  | .v6 groups => groups == [0, 0, 0, 0, 0, 0, 0, 0] || groups == [0, 0, 0, 0, 0, 0, 0, 1]

/-- The lowest port that an unprivileged process may bind. -/
def firstOpenPort : Nat := 1024

/-- Names are looked up, which takes a moment; addresses are not. -/
def lookupMillis (s : String) : Nat := if (SocketAddress.ofString? s).isSome then 0 else 1

/-- A host without a route to anywhere: its own addresses can be bound, nothing can be dialed. -/
def Network.isolated : Network where
  bind s :=
    match resolve s with
    | .error e => .error ⟨e, false⟩
    | .ok a =>
      if a.port ≠ 0 && a.port < firstOpenPort then .error ⟨"Permission denied (os error 13)", false⟩
      else if !a.ip.isLocal then .error ⟨"Cannot assign requested address (os error 99)", false⟩
      else .ok a.ip
  dial _ s :=
    .after (lookupMillis s)
      (.error ⟨
        match resolve s with
        | .error e => e
        | .ok _ => "Network is unreachable (os error 101)", false⟩)
  hangUp _ := .after 0 (.ok ())

end ServiceHost.Net
