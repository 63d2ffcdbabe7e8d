import Wordbook.Importer

/-!
# Scripts

What a command does to the world around it, as a value: the files that it loads
and stores, and the lines that it shows. A script can be run for real, or in a
folder that is itself a value.

* `Command.toScript`: a command that may fail, with the exit code it ends in.
-/

namespace Wordbook

inductive Script (α : Type) where
  | done (a : α)
  /-- Shows a line to the user. -/
  | tell (line : String) (next : Script α)
  /-- Puts out a line of the result. -/
  | put (line : String) (next : Script α)
  | environment (name : String) (next : Option String → Script α)
  | load (path : String) (next : FileResult → Script α)
  | store (path : String) (bytes : List UInt8) (next : Except String Unit → Script α)
  /-- The time. -/
  | clock (next : String → Script α)
  /-- An id that no other run has. -/
  | freshId (next : String → Script α)

namespace Script

variable {α β : Type}

def bind : Script α → (α → Script β) → Script β
  | done a, f => f a
  | tell line next, f => tell line (bind next f)
  | put line next, f => put line (bind next f)
  | environment name next, f => environment name fun v => bind (next v) f
  | load path next, f => load path fun r => bind (next r) f
  | store path bytes next, f => store path bytes fun r => bind (next r) f
  | clock next, f => clock fun t => bind (next t) f
  | freshId next, f => freshId fun t => bind (next t) f

instance : Monad Script where
  pure := done
  bind := bind

end Script

/-- Why a command fails. -/
inductive Failure where
  /-- What it was given is of no use, for the reason that is shown. -/
  | refused (message : String)
  /-- The program itself is at fault. -/
  | broken (fault : Fault)
  deriving DecidableEq, Repr

namespace Failure

variable {α ε : Type}

/-- A result, or a refusal with the message of the error. -/
def ofError (message : ε → String) : Except ε α → Except Failure α :=
  Except.mapError fun error => refused (message error)

/-- A result, unless the program itself is at fault. -/
def ofFault : Except Fault α → Except Failure α := Except.mapError broken

end Failure

/-- A script that may fail. -/
abbrev Command := ExceptT Failure Script

namespace Command

variable {α : Type}

def tell (line : String) : Command Unit := ExceptT.lift (.tell line (.done ()))

def put (line : String) : Command Unit := ExceptT.lift (.put line (.done ()))

def load (path : String) : Command FileResult := ExceptT.lift (.load path .done)

def clock : Command String := ExceptT.lift (.clock .done)

def freshId : Command String := ExceptT.lift (.freshId .done)

/-- Goes on with a result. -/
def attempt (r : Except Failure α) : Command α := ExceptT.mk (.done r)

def store (path : String) (bytes : List UInt8) : Command Unit := do
  attempt (Failure.ofError id (← ExceptT.lift (.store path bytes .done)))

/-- The exit code of a command that is refused. -/
def refusedCode : Nat := 1

/-- The exit code of a command that cannot be understood. -/
def misuseCode : Nat := 2

/-- The exit code of a program that is at fault. -/
def brokenCode : Nat := 101

/-- The script of a command, which shows its failure and ends in an exit code. -/
def toScript (c : Command Nat) : Script Nat :=
  Script.bind c fun
    | .ok code => .done code
    | .error (.refused message) => .tell s!"❌ Error: {message}" (.done refusedCode)
    | .error (.broken fault) => .tell fault.message (.done brokenCode)

end Command

end Wordbook
