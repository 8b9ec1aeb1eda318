import Scaffold.Config.File
import Scaffold.Files.Tree
import Scaffold.Shape.OfNode

/-!
Why a run fails: what was being done, from the outside in, and the cause underneath.
-/
namespace Scaffold

inductive Cause where
  | file (fault : FileFault)
  | json (error : TextError)
  | yaml
  | config (fault : Config.Fault)
  deriving DecidableEq, Repr

def Cause.message : Cause → String
  | file fault => fault.message
  | json (.fault .ended) => "unexpected end of the JSON text"
  | json (.fault .malformed) => "malformed JSON text"
  | json (.mismatch mismatch) => mismatch.message
  | yaml => "no YAML document of a backend"
  | config .malformed => "malformed TOML text"
  | config .misfit => "unknown setting, or a value of the wrong kind"

structure Failure where
  contexts : List String
  cause : Option Cause := none
  deriving DecidableEq, Repr

namespace Failure

def ofCause (context : String) (cause : Cause) : Failure :=
  ⟨[context], some cause⟩

def within (context : String) (failure : Failure) : Failure :=
  { failure with contexts := context :: failure.contexts }

def chain (causeText : Cause → String) (failure : Failure) : List String :=
  failure.contexts ++ (failure.cause.map causeText).toList

def report (failure : Failure) : List String :=
  match failure.chain Cause.message with
  | [] => []
  | [outer] => ["Error: " ++ outer]
  | [outer, cause] => ["Error: " ++ outer, "", "Caused by:", "    " ++ cause]
  | outer :: causes =>
    ["Error: " ++ outer, "", "Caused by:"] ++
      causes.zipIdx.map fun (cause, i) => "    " ++ toString i ++ ": " ++ cause

end Failure
end Scaffold
