import GraphGateway.Fault
import GraphGateway.Loading.Dotted
import GraphGateway.Number.Integer

/-!
# Defaults

What a gateway does unless it is told otherwise. The variables of the process may set it: the scope of
packages, the level of the log, and two limits. A limit that is blank counts as not set.
-/

namespace GraphGateway

structure Defaults where
  scope : String
  logLevel : String
  /-- How many subscribers there may be; any number of them if it is not set. -/
  maxSubscribers : Option Int
  cacheMaxSize : Int
  deriving Repr, DecidableEq

namespace Defaults

def readLimit (text : String) : Except Fault (Option Int) :=
  if text.toList.all Text.isBlank then .ok none
  else
    match Number.readInt text.toList with
    | .ok n => .ok (some n)
    | .error .malformed => .error (.notANumeral text)
    | .error (.tooLong digits) => .error (.numeralTooLong digits)

def limit (vars : List (String × String)) (name : String) : Except Fault (Option Int) :=
  (vars.lookup name).elim (.ok none) readLimit

/-- How many entries a cache has for a limit. Zero counts as not set. -/
def cacheSize : Option Int → Int
  | none | some 0 => 1024
  | some n => n

def scopeVariable : String := "MESHWIRE_PACKAGE_SCOPE"
def logLevelVariable : String := "MESHWIRE_LOG_LEVEL"
def maxSubscribersVariable : String := "MESHWIRE_PUBSUB_MAX_SUBSCRIBERS"
def cacheMaxSizeVariable : String := "MESHWIRE_CACHE_MAX_SIZE"

def ofVariables (vars : List (String × String)) : Except Fault Defaults := do
  let maxSubscribers ← limit vars maxSubscribersVariable
  let cacheMaxSize ← limit vars cacheMaxSizeVariable
  pure { scope := (vars.lookup scopeVariable).getD Dotted.gateway
         logLevel := (vars.lookup logLevelVariable).getD "INFO"
         maxSubscribers
         cacheMaxSize := cacheSize cacheMaxSize }

def standard : Defaults :=
  ⟨Dotted.gateway, "INFO", none, 1024⟩

theorem ofVariables_nil : ofVariables [] = .ok standard := rfl

end Defaults

end GraphGateway
