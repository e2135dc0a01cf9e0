import BrokerRpc.Settings.Basic

/-! # Where settings come from

The standard values are overlaid by a file, and the result by an environment. A file that was
asked for by name must be there; the one in its usual place may be missing. Overrides are applied
in the order of the settings up to the first one that cannot be read.
-/
namespace BrokerRpc

/-- A variable whose text is no value of its setting. -/
structure BadVariable where
  name : String
  value : String
  deriving DecidableEq, Repr

def BadVariable.message (b : BadVariable) : String :=
  "Invalid value for " ++ b.name ++ ": " ++ Text.quoted b.value

inductive SettingsFault where
  | unreadable
  | unparseable (fault : Json.Fault)
  | badVariable (bad : BadVariable)
  deriving Repr

namespace Settings

/-! ## Files -/

def fields : List Json.Field := Setting.all.map fun k => ⟨k.name, k.content.shape, false⟩

def takeFrom (r : Json.Record) (s : Settings) (k : Setting) : Settings :=
  match r.get? k.name with
  | some v => s.set k (k.content.ofJson v)
  | none => s

def ofRecord (r : Json.Record) : Settings := Setting.all.foldl (takeFrom r) standard

def parse (b : Bytes) : Except Json.Fault Settings := return ofRecord (← Json.Record.parse fields b)

/-- Reads the file with the given content, which has to be text; `none` stands for no file. -/
def ofFile (content : Option Bytes) : Except SettingsFault Settings :=
  match content with
  | none => .error .unreadable
  | some b =>
    if (Bytes.toText? b).isNone then .error .unreadable
    else
      match parse b with
      | .ok s => .ok s
      | .error fault => .error (.unparseable fault)

def toJson (s : Settings) : Json :=
  .obj (Setting.all.map fun k => (k.name, k.content.toJson (s.get k)))

/-! ## Environments -/

abbrev Environment := String → Option String

def overrideEach (env : Environment) (s : Settings) :
    List Setting → Settings × Option BadVariable
  | [] => (s, none)
  | k :: rest =>
    match env k.variableName with
    | none => overrideEach env s rest
    | some value =>
      match k.content.read? value with
      | some x => overrideEach env (s.set k x) rest
      | none => (s, some ⟨k.variableName, value⟩)

/-- Applies all overrides. With a variable that cannot be read, the overrides before it remain. -/
def overrideFrom (s : Settings) (env : Environment) : Settings × Option BadVariable :=
  overrideEach env s Setting.all

/-! ## Loading -/

def fileVariable : String := "STOMP_JSONRPC_CONFIG"

/-- Loads settings. `named` is the content of the file that was asked for, by the caller or else by
the environment, and `usual` the content of the file in its usual place. -/
def load (named : Option (Option Bytes)) (usual : Option Bytes) (env : Environment) :
    Except SettingsFault Settings := do
  let s ←
    match named, usual with
    | some content, _ => ofFile content
    | none, some content => ofFile (some content)
    | none, none => pure standard
  match s.overrideFrom env with
  | (s, none) => return s
  | (_, some bad) => throw (.badVariable bad)

end Settings
end BrokerRpc
