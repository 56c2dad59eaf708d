/-
# The environment

The variables of the process as they were when it started, in their order. A
name may occur more than once; looking a name up finds its first value.
-/

import EditorClient.Text.Utf8

namespace EditorClient

/-- Names and values in the order in which the process was given them. -/
structure Environment where
  bindings : List (Bytes × Bytes) := []
  deriving DecidableEq, Repr

namespace Environment

/-- The value of a variable. -/
def get? (env : Environment) (name : String) : Option Bytes :=
  env.bindings.lookup (Bytes.ofText name)

/-- The value of a variable as text. -/
def getText? (env : Environment) (name : String) : Option String :=
  (env.get? name).map Utf8.lossy

/-- Every variable as its name, an equals sign and its value. -/
def entries (env : Environment) : List Bytes :=
  env.bindings.map fun v => v.1 ++ Bytes.equals :: v.2

end Environment

end EditorClient
