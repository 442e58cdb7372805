import Backtracking.Error
import Backtracking.Search.Candidate
import Backtracking.Tool.Request
import Backtracking.Tool.Settings

/-!
# Outcomes

What a run of the tool prints and how it ends.
-/

namespace Backtracking

namespace Tool

/-- Why a run fails. -/
inductive Failure where
  | usage (error : UsageError)
  | settings (path : String) (error : SettingsError)
  | pattern (text : String) (error : CompileError)
  | directory (path : String)
  | reading (path : String) (error : FileError)
  | searching (path? : Option String) (error : MatchError)
  | testing (error : MatchError)
deriving DecidableEq

namespace Failure

private def ticked (text : String) : String := "`" ++ text ++ "`"

/-- What failed. -/
def headline : Failure → String
  | .usage error => error.message
  | .settings path _ => "invalid config file " ++ ticked path
  | .pattern text _ => "invalid pattern " ++ ticked text
  | .directory path => ticked path ++ " is a directory, use --recursive for searching it"
  | .reading path _ => "can not read " ++ ticked path
  | .searching (some path) _ => "error searching " ++ ticked path
  | .searching none error => error.message
  | .testing _ => "search aborted"

/-- Why it failed, where the headline does not tell. -/
def cause? : Failure → Option String
  | .usage _ | .directory _ | .searching none _ => none
  | .settings _ error => some error.message
  | .pattern _ error => some error.message
  | .reading _ error => some error.message
  | .searching (some _) error => some error.message
  | .testing error => some error.message

def message (failure : Failure) : String :=
  "error: " ++ failure.headline ++ ((failure.cause?.map (": " ++ ·)).getD "")

def exitCode : Failure → Nat
  | .usage _ => 2
  | _ => 1

end Failure

/-- The text that a run prints, and its failure, if it fails. -/
structure Outcome where
  output : String
  failure? : Option Failure := none
deriving DecidableEq

namespace Outcome

def ofLines (lines : List String) : Outcome := ⟨String.join (lines.map (· ++ "\n")), none⟩

def ofFailure (failure : Failure) : Outcome := ⟨"", some failure⟩

/-- One outcome after another, which counts only if the first one is no failure. -/
def andThen (first : Outcome) (second : Unit → Except Overflow Outcome) :
    Except Overflow Outcome :=
  match first.failure? with
  | some _ => .ok first
  | none => do
      let second ← second ()
      return { second with output := first.output ++ second.output }

def exitCode (outcome : Outcome) : Nat := (outcome.failure?.map (·.exitCode)).getD 0

end Outcome

end Tool

end Backtracking
