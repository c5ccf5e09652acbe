import ConfigRegistry.Settings.Environment

set_option autoImplicit false

/-!
Command-line options, which win over the environment.
-/
namespace ConfigRegistry.Settings

inductive Flag where
  | bindAddress
  | redisUrl
  | logLevel
deriving DecidableEq, Repr

def Flag.find? (name : String) : Option Flag :=
  if name = "bind-addr" then some .bindAddress
  else if name = "redis-url" then some .redisUrl
  else if name = "log-level" then some .logLevel
  else none

inductive Refusal where
  | invalidValue
  | valueValidation
  | unknownArgument
  | argumentConflict
  | tooManyValues
  | displayHelp
  | displayVersion
deriving DecidableEq, Repr

def Refusal.name : Refusal → String
  | .invalidValue => "InvalidValue"
  | .valueValidation => "ValueValidation"
  | .unknownArgument => "UnknownArgument"
  | .argumentConflict => "ArgumentConflict"
  | .tooManyValues => "TooManyValues"
  | .displayHelp => "DisplayHelp"
  | .displayVersion => "DisplayVersion"

structure Overrides where
  bindAddress : Option Net.Address := none
  redisUrl : Option String := none
  logLevel : Option String := none
deriving DecidableEq, Repr

structure Pending where
  flag : Flag
  value : Option String
deriving DecidableEq, Repr

namespace Overrides

def has (overrides : Overrides) : Flag → Bool
  | .bindAddress => overrides.bindAddress.isSome
  | .redisUrl => overrides.redisUrl.isSome
  | .logLevel => overrides.logLevel.isSome

def set (overrides : Overrides) (flag : Flag) (value : Option String) : Except Refusal Overrides :=
  -- A missing value is reported before a repeated option, and that before a value that cannot be read.
  match value with
  | none => .error .invalidValue
  | some value =>
      if overrides.has flag then .error .argumentConflict
      else match flag with
        | .redisUrl => .ok { overrides with redisUrl := some value }
        | .logLevel => .ok { overrides with logLevel := some value }
        | .bindAddress => match Net.Address.parse? value with
            | some address => .ok { overrides with bindAddress := some address }
            | none => .error .valueValidation

def settle (overrides : Overrides) : Option Pending → Except Refusal Overrides
  | none => .ok overrides
  | some pending => overrides.set pending.flag pending.value

def nameOf (chars : List Char) : String := String.ofList (chars.takeWhile fun c => c ≠ '=')

def attached? (chars : List Char) : Option String :=
  match chars.dropWhile fun c => c ≠ '=' with
  | [] => none
  | _ :: value => some (String.ofList value)

-- A value is looked at when the next option is met or the arguments end; an argument that is not known is refused
-- before that. After `--` nothing is an option, and there is nothing that takes other arguments.
def readOn (overrides : Overrides) (pending : Option Pending) : List (List Char) → Except Refusal Overrides
  | [] => overrides.settle pending
  | ['-', '-'] :: [] => overrides.settle pending
  | ['-', '-'] :: _ => .error .unknownArgument
  | ('-' :: '-' :: long) :: rest => do
      match Flag.find? (nameOf long), attached? long with
      | some flag, some value =>
          let settled ← overrides.settle pending
          let next ← settled.set flag (some value)
          readOn next none rest
      | some flag, none =>
          let settled ← overrides.settle pending
          readOn settled (some ⟨flag, none⟩) rest
      | none, value =>
          if nameOf long = "help" || nameOf long = "version" then
            if value.isSome then .error .tooManyValues
            else
              let _ ← overrides.settle pending
              .error (if nameOf long = "help" then .displayHelp else .displayVersion)
          else .error .unknownArgument
  | ('-' :: 'h' :: _) :: _ => do
      let _ ← overrides.settle pending
      .error .displayHelp
  | ('-' :: 'V' :: _) :: _ => do
      let _ ← overrides.settle pending
      .error .displayVersion
  | ('-' :: _ :: _) :: _ => .error .unknownArgument
  | value :: rest =>
      match pending with
      | some ⟨flag, none⟩ => readOn overrides (some ⟨flag, some (String.ofList value)⟩) rest
      | _ => .error .unknownArgument

def parse (arguments : List String) : Except Refusal Overrides := readOn {} none (arguments.map String.toList)

end Overrides

def override (settings : Settings) (overrides : Overrides) : Settings :=
  { settings with
    bindAddress := overrides.bindAddress.getD settings.bindAddress
    redisUrl := overrides.redisUrl.getD settings.redisUrl
    logLevel := overrides.logLevel.getD settings.logLevel }

inductive LoadFailure where
  | environment (name : String)
  | arguments (refusal : Refusal)
deriving DecidableEq, Repr

def LoadFailure.message : LoadFailure → String
  | .environment name => "Failed to parse environment variable " ++ name
  | .arguments refusal => refusal.name

def load (environment : String → Option String) (arguments : List String) : Except LoadFailure Settings := do
  -- The environment is read whole before any argument is.
  let settings ← (ofEnvironment environment).mapError .environment
  let overrides ← (Overrides.parse arguments).mapError .arguments
  return settings.override overrides

end ConfigRegistry.Settings
