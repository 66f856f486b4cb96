/-!
Errors of the operating system and their texts.
-/

namespace SurfaceGate

inductive SystemError where
  | notPermitted
  | noEntry
  | tryAgain
  | noMemory
  | notADirectory
  | isADirectory
  | nameTooLong
  /-- A name with a null character never reaches the system. -/
  | nullInName
  | other (text : String)
  deriving DecidableEq, Repr

namespace SystemError

def numbered (text : String) (code : Nat) : String :=
  s!"{text} (os error {code})"

def message : SystemError → String
  | notPermitted => numbered "Operation not permitted" 1
  | noEntry => numbered "No such file or directory" 2
  | tryAgain => numbered "Resource temporarily unavailable" 11
  | noMemory => numbered "Cannot allocate memory" 12
  | notADirectory => numbered "Not a directory" 20
  | isADirectory => numbered "Is a directory" 21
  | nameTooLong => numbered "File name too long" 36
  | nullInName => "file name contained an unexpected NUL byte"
  | other text => text

def ofCode (code : Nat) : SystemError :=
  match code with
  | 1 => notPermitted
  | 2 => noEntry
  | 11 => tryAgain
  | 12 => noMemory
  | 20 => notADirectory
  | 21 => isADirectory
  | 36 => nameTooLong
  | code => other (numbered s!"Unknown error {code}" code)

end SystemError
end SurfaceGate
