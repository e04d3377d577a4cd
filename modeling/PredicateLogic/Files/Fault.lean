/-!
# Faults of file operations
-/

namespace PredicateLogic

/-- Why an operation on files fails. -/
inductive Fault where
  | notFound
  | alreadyPresent
  | notFolder
  | isFolder
  | busy
  | nameTooLong
  /-- The content of a file is not UTF-8. -/
  | notText
  /-- A path holds the character that ends texts of the system. -/
  | nulInPath
  | other (text : String)
deriving DecidableEq, Repr

/-- The wording of a fault, with the number that the system gives it. -/
def Fault.message : Fault → String
  | .notFound => "No such file or directory (os error 2)"
  | .alreadyPresent => "File exists (os error 17)"
  | .notFolder => "Not a directory (os error 20)"
  | .isFolder => "Is a directory (os error 21)"
  | .busy => "Device or resource busy (os error 16)"
  | .nameTooLong => "File name too long (os error 36)"
  | .notText => "stream did not contain valid UTF-8"
  | .nulInPath => "file name contained an unexpected NUL byte"
  | .other text => text

/-- A fault that tells at which path it arose. -/
def Fault.withPath (fault : Fault) (path : String) : Fault :=
  .other s!"{fault.message} at path \"{path}\""

end PredicateLogic
