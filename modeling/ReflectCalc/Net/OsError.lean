import ReflectCalc.Number.Numeral

/-!
# Errors of the system

What the system says when a file or a socket cannot be had: a number, a kind and a message.
-/

namespace ReflectCalc

/-- An error of the system. -/
structure OsError where
  code : Nat
  kind : Text
  message : Text
deriving DecidableEq, Repr

namespace OsError

/-- There is no such file. -/
def noSuchFile : OsError := ⟨2, "NotFound", "No such file or directory"⟩

/-- The caller lacks a right. -/
def permissionDenied : OsError := ⟨13, "PermissionDenied", "Permission denied"⟩

/-- A part of a path is no directory. -/
def notDirectory : OsError := ⟨20, "NotADirectory", "Not a directory"⟩

/-- The path is a directory. -/
def isDirectory : OsError := ⟨21, "IsADirectory", "Is a directory"⟩

/-- Another socket has the address. -/
def addressInUse : OsError := ⟨98, "AddrInUse", "Address already in use"⟩

/-- The machine does not have the address. -/
def addressNotAvailable : OsError := ⟨99, "AddrNotAvailable", "Cannot assign requested address"⟩

/-- No interface leads to the address. -/
def networkUnreachable : OsError := ⟨101, "NetworkUnreachable", "Network is unreachable"⟩

/-- Nobody listens at the address. -/
def connectionRefused : OsError := ⟨111, "ConnectionRefused", "Connection refused"⟩

/-- The errors that are known by name. -/
def known : List OsError :=
  [noSuchFile, permissionDenied, notDirectory, isDirectory, addressInUse, addressNotAvailable,
    networkUnreachable, connectionRefused]

/-- The error of a number. One that is not known by name keeps the message that came with it. -/
def ofCode (code : Nat) (message : Text) : OsError :=
  (known.find? fun e => e.code = code).getD ⟨code, "Other", message⟩

/-- The wording of an error. -/
def text (e : OsError) : Text := e.message ++ " (os error " ++ Numeral.ofNat e.code ++ ")"

/-- An error with all its parts. -/
def detail (e : OsError) : Text :=
  "Os \x7b code: " ++ Numeral.ofNat e.code ++ ", kind: " ++ e.kind ++ ", message: \"" ++
    e.message ++ "\" \x7d"

end OsError

end ReflectCalc
