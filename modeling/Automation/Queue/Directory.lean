import Automation.Failure

namespace Automation

/-- How the members of a class of faults say what they were told. -/
inductive Telling where
  | plain
  | quoting
  | numbered (counts : Bool)
  | located
  | positioned
  | coding
  | decoding
  | mapping
  | listed (name : String)
  | rejecting
  | retrying
  | failure (kind : FailureKind)
  | nothing
  deriving DecidableEq, Repr

namespace Directory

inductive Meaning where
  | faults (name : String) (t : Telling)
  | other
  deriving DecidableEq, Repr

def commonNames : List String := [
  "__class__", "__dict__", "__doc__", "__loader__", "__name__", "__package__", "__spec__"]

/-- By module, names in use that stand for something else than classes of faults. -/
def otherNames : List (String × String) := [
  ("builtins",
    "abs aiter all anext any ascii bin bool breakpoint bytearray bytes callable chr " ++
    "classmethod compile complex copyright credits delattr dict dir divmod enumerate eval " ++
    "exec exit filter float format frozenset getattr globals hasattr hash help hex id input " ++
    "int isinstance issubclass iter len license list locals map max memoryview min next " ++
    "object oct open ord pow print property quit range repr reversed round set setattr slice " ++
    "sorted staticmethod str sum super tuple type vars zip Ellipsis NotImplemented None True " ++
    "False __build_class__ __debug__ __import__"),

  ("os",
    "abort chdir chmod chown close environ execv execve fork getcwd getenv getpid kill link " ++
    "listdir makedirs mkdir name open path popen putenv read remove removedirs rename replace " ++
    "rmdir scandir sep spawnl spawnv stat symlink sys system times truncate umask uname unlink " ++
    "urandom wait walk write"),

  ("subprocess",
    "CompletedProcess DEVNULL PIPE Popen STDOUT call check_call check_output getoutput " ++
    "getstatusoutput run"),

  ("sys", "argv executable exit modules path platform stderr stdin stdout version"),

  ("json", "JSONDecoder JSONEncoder dump dumps load loads"),

  ("logging", "Formatter Handler LogRecord Logger StreamHandler basicConfig getLogger"),

  ("autoflow.core.exceptions",
    "Optional")]

def numberedClasses : List (String × List String) := [
  ("builtins", ["OSError", "EnvironmentError", "IOError", "ChildProcessError", "ConnectionError",
    "BrokenPipeError", "ConnectionAbortedError", "ConnectionRefusedError", "ConnectionResetError",
    "FileExistsError", "FileNotFoundError", "InterruptedError", "IsADirectoryError",
    "NotADirectoryError", "PermissionError", "ProcessLookupError", "TimeoutError"]),
  ("asyncio", ["TimeoutError"]),
  ("asyncio.exceptions", ["TimeoutError"]),
  ("concurrent.futures", ["TimeoutError"]),
  ("io", ["UnsupportedOperation"]),
  ("os", ["error"]),
  ("select", ["error"]),
  ("shutil", ["Error", "SameFileError", "SpecialFileError", "ExecError", "ReadError"]),
  ("socket", ["error", "timeout", "gaierror", "herror"])]

def failureHome : String := "autoflow.core.exceptions"

def failureModules : List (String × List FailureKind) := [
  ("autoflow.config", [.configuration]),
  ("autoflow.api.main", [.configuration]),
  ("autoflow.workers.celery_app", [.configuration]),
  ("autoflow.core.mutations", [.execution]),
  ("autoflow.core.nodes", [.definition]),
  ("autoflow.core.validation", [.definition]),
  ("autoflow.core.engine", [.general, .definition])]

def failure? (home name : String) : Option Meaning := do
  let kind ← FailureKind.ofName? name
  if home = failureHome ∨ ((failureModules.lookup home).getD []).contains kind then
    return .faults (failureHome ++ "." ++ name) (.failure kind)
  else none

def own? (home name : String) : Option Meaning :=
  match home, name with
  | "builtins", "KeyError" => some (.faults name .quoting)
  | "builtins", "BlockingIOError" | "io", "BlockingIOError" => some (.faults name (.numbered true))
  | "builtins", "SyntaxError" | "builtins", "IndentationError" | "builtins", "TabError" =>
    some (.faults name .located)
  | "builtins", "UnicodeEncodeError" => some (.faults name .coding)
  | "builtins", "UnicodeTranslateError" => some (.faults name .mapping)
  | "builtins", "UnicodeDecodeError" => some (.faults name .decoding)
  | "builtins", "ExceptionGroup" | "builtins", "BaseExceptionGroup" => some (.faults name .nothing)
  | "json", "JSONDecodeError" | "json.decoder", "JSONDecodeError" =>
    some (.faults "json.decoder.JSONDecodeError" .positioned)
  | "pydantic_core._pydantic_core", "ValidationError" | "pydantic_core", "ValidationError"
  | "pydantic", "ValidationError" =>
    some (.faults "pydantic_core._pydantic_core.ValidationError" .nothing)
  | "celery.exceptions", "NotRegistered" => some (.faults (home ++ "." ++ name) .quoting)
  | "celery.exceptions", "Reject" => some (.faults (home ++ "." ++ name) .rejecting)
  | "celery.exceptions", "Retry" => some (.faults (home ++ "." ++ name) .retrying)
  | "celery.exceptions", "SoftTimeLimitExceeded" | "celery.exceptions", "TimeLimitExceeded"
  | "billiard.exceptions", "SoftTimeLimitExceeded" | "billiard.exceptions", "TimeLimitExceeded" =>
    some (.faults ("billiard.exceptions." ++ name) (.listed name))
  | _, _ => failure? home name

def findIn? (home name : String) : Option Meaning :=
  match own? home name with
  | some m => some m
  | none =>
    if ((numberedClasses.lookup home).getD []).contains name then
      some (.faults name (.numbered false))
    else match otherNames.lookup home with
      | some names =>
        if commonNames.contains name || (names.splitOn " ").contains name then some .other else none
      | none => none

def find? (home name : String) : Option Meaning :=
  let path := (home ++ "." ++ name).toList.reverse
  let last := path.takeWhile (· ≠ '.')
  findIn? (.ofList (path.drop (last.length + 1)).reverse) (.ofList last.reverse)

end Directory

end Automation
