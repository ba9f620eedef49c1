/-!
# Entries of the function table

The functions that a host's table offers for references and local frames.
-/

namespace DurableRefs.FunctionTable

/-- A function of the table. -/
inductive Entry where
  /-- Makes a strong reference to an object. -/
  | newGlobalRef
  /-- Makes a weak reference to an object. -/
  | newWeakGlobalRef
  /-- Makes a local from a reference. -/
  | newLocalRef
  /-- Deletes a strong reference. -/
  | deleteGlobalRef
  /-- Deletes a weak reference. -/
  | deleteWeakGlobalRef
  /-- Tells the class of a reference. -/
  | getObjectRefType
  /-- Opens a local frame. -/
  | pushLocalFrame
  /-- Closes the innermost local frame. -/
  | popLocalFrame
  /-- Ends the host. -/
  | fatalError
  deriving DecidableEq, Repr

namespace Entry

/-- The name of a function in the table. -/
def name : Entry → String
  | newGlobalRef => "NewGlobalRef"
  | newWeakGlobalRef => "NewWeakGlobalRef"
  | newLocalRef => "NewLocalRef"
  | deleteGlobalRef => "DeleteGlobalRef"
  | deleteWeakGlobalRef => "DeleteWeakGlobalRef"
  | getObjectRefType => "GetObjectRefType"
  | pushLocalFrame => "PushLocalFrame"
  | popLocalFrame => "PopLocalFrame"
  | fatalError => "FatalError"

/-- All functions of the table. -/
def all : List Entry :=
  [newGlobalRef, newWeakGlobalRef, newLocalRef, deleteGlobalRef, deleteWeakGlobalRef,
    getObjectRefType, pushLocalFrame, popLocalFrame, fatalError]

/-- The function with a given name. -/
def ofName? (spec : String) : Option Entry :=
  all.find? fun entry => entry.name = spec

/-- A function is found again under its name. -/
theorem ofName?_name (entry : Entry) : ofName? entry.name = some entry := by
  cases entry <;> decide

end Entry

end DurableRefs.FunctionTable
