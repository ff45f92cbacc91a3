/-!
# Log settings

What is logged, and how, is set by three texts that may be absent: a flag, a level
and a format.  Letter case does not matter in ASCII.

* A known level decides by itself;
* an unknown level stands for `debug` if the flag is set and for `warn` otherwise;
* without a level there is only `debug`, if the flag is set.
-/

namespace FilterQuery.Logging

/-- How much is logged. -/
inductive Level where
  | trace
  | debug
  | info
  | warn
  | error
  deriving DecidableEq, Repr

namespace Level

/-- Every level, the most talkative first. -/
def all : List Level := [.trace, .debug, .info, .warn, .error]

def name : Level → String
  | .trace => "trace"
  | .debug => "debug"
  | .info => "info"
  | .warn => "warn"
  | .error => "error"

def ofName? (shown : String) : Option Level :=
  all.find? fun level => level.name == shown

end Level

/-- How an event is written. -/
inductive Format where
  | json
  | pretty
  | compact
  deriving DecidableEq, Repr

/-- Put ASCII letters into lower case. -/
def asciiLowercase (text : String) : String :=
  String.ofList (text.toList.map Char.toLower)

def isSet (flag : Option String) : Bool :=
  match flag with
  | none => false
  | some text => ["true", "1", "yes"].contains (asciiLowercase text)

/-- The level to log at; without one nothing is logged. -/
def resolveLevel (flag level : Option String) : Option Level :=
  let fallback := if isSet flag then Level.debug else Level.warn
  match level with
  | some text => some ((Level.ofName? (asciiLowercase text)).getD fallback)
  | none => if isSet flag then some fallback else none

/-- The format of events, JSON unless another one is asked for. -/
def resolveFormat (format : Option String) : Format :=
  match format.map asciiLowercase with
  | some "pretty" => .pretty
  | some "compact" => .compact
  | _ => .json

end FilterQuery.Logging
