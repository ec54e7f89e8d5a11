import ServiceHost.Text.Digit

/-! How much a message matters, and how much of what is reported is shown. -/

namespace ServiceHost.Logging

inductive Level where
  | error | warn | info | debug | trace
deriving DecidableEq

namespace Level

def text : Level → String
  | error => "ERROR"
  | warn => "WARN"
  | info => "INFO"
  | debug => "DEBUG"
  | trace => "TRACE"

def rank : Level → Nat
  | error => 1
  | warn => 2
  | info => 3
  | debug => 4
  | trace => 5

end Level

/-- The most verbose level that is shown, `none` when nothing is. -/
abbrev Verbosity := Option Level

namespace Verbosity

def text : Verbosity → String
  | none => "off"
  | some .error => "error"
  | some .warn => "warn"
  | some .info => "info"
  | some .debug => "debug"
  | some .trace => "trace"

def rank : Verbosity → Nat
  | none => 0
  | some l => l.rank

def all : List Verbosity :=
  [none, some .error, some .warn, some .info, some .debug, some .trace]

def max (a b : Verbosity) : Verbosity := if rank a < rank b then b else a

/-- A name in any case or a rank. -/
def ofChars? (s : List Char) : Option Verbosity :=
  match Text.unsigned? (UInt64.size - 1) s with
  | some n => all[n]?
  | none => all.find? fun v => (text v).toList == s.map Char.toLower

end Verbosity

end ServiceHost.Logging
