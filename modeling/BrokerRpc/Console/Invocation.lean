import BrokerRpc.Event.Id
import BrokerRpc.Text.Numeral

/-! # Invocations

The program is invoked with a command and its arguments. Options may stand anywhere behind the
command that they belong to, those of every command also before it; a value follows its option, or
is joined to it. Behind two dashes nothing is an option any more.
-/
namespace BrokerRpc.Console

inductive Verb where
  | call
  | events
  deriving DecidableEq, Repr

def Verb.name : Verb → String
  | call => "call"
  | events => "events"

inductive Switch where
  | config
  | url
  | id
  | notify
  | count
  | duration
  | help
  | version
  deriving DecidableEq, Repr

namespace Switch

def all : List Switch := [config, url, id, notify, count, duration, help, version]

def long : Switch → String
  | config => "config"
  | url => "url"
  | id => "id"
  | notify => "notify"
  | count => "count"
  | duration => "duration"
  | help => "help"
  | version => "version"

def short? : Switch → Option Char
  | config => some 'c'
  | url => some 'u'
  | count => some 'n'
  | duration => some 'd'
  | help => some 'h'
  | version => some 'V'
  | id | notify => none

def takesValue : Switch → Bool
  | notify | help | version => false
  | _ => true

def fits (verb : Option Verb) : Switch → Bool
  | config | url | help => true
  | version => verb = none
  | id | notify => verb = some .call
  | count | duration => verb = some .events

def text (s : Switch) : String :=
  "--" ++ s.long ++
    (if s.takesValue then " <" ++ String.ofList (s.long.toList.map Char.toUpper) ++ ">" else "")

end Switch

inductive Task where
  | call (method params : String) (id : Option String)
  | notify (method params : String)
  | events (filter : String) (count duration : Option Nat)
  deriving DecidableEq, Repr

structure Invocation where
  config : Option String
  url : Option String
  task : Task
  deriving DecidableEq, Repr

inductive Unusable where
  | help
  | version
  | noCommand
  | unknownCommand (name : String)
  | unexpected (argument : String)
  | missingMethod
  | missingValue (s : Switch)
  | repeated (s : Switch)
  | badNumber (s : Switch) (value : String)
  deriving DecidableEq, Repr

def helpText : String :=
  "JSON-RPC 2.0 over STOMP\n\n" ++
  "Usage: stomp-jsonrpc [OPTIONS] <COMMAND>\n\n" ++
  "Commands:\n" ++
  "  call <METHOD> [PARAMS]  Send one request and print the response\n" ++
  "      --id <ID>               Request id (a fresh one is generated when omitted)\n" ++
  "      --notify                Send as a notification and do not wait for a response\n" ++
  "  events [FILTER]         Print events matching a subscription id\n" ++
  "      -n, --count <COUNT>     Stop after this many events\n" ++
  "      -d, --duration <SECS>   Stop after this many seconds\n\n" ++
  "Options:\n" ++
  "  -c, --config <CONFIG>   Configuration file\n" ++
  "  -u, --url <URL>         Broker URL, e.g. stomp://localhost:61613\n" ++
  "  -h, --help              Print help\n" ++
  "  -V, --version           Print version"

namespace Unusable

/-- Whether the reader got what was asked for. -/
def isAnswer : Unusable → Bool
  | help | version => true
  | _ => false

def message : Unusable → String
  | help | noCommand => helpText
  | version => "stomp-jsonrpc 0.2.0"
  | unknownCommand name => "error: unrecognized subcommand '" ++ name ++ "'"
  | unexpected argument => "error: unexpected argument '" ++ argument ++ "' found"
  | missingMethod => "error: the following required arguments were not provided:\n  <METHOD>"
  | missingValue s => "error: a value is required for '" ++ s.text ++ "' but none was supplied"
  | repeated s => "error: the argument '" ++ s.text ++ "' cannot be used multiple times"
  | badNumber s value => "error: invalid value '" ++ value ++ "' for '" ++ s.text ++ "'"

end Unusable

/-- What has been read so far: the command, the switches with their values, and the arguments that
are no switches. -/
structure Draft where
  verb : Option Verb := none
  switches : List (Switch × String) := []
  arguments : List String := []
  deriving DecidableEq, Repr

namespace Draft

def value? (d : Draft) (s : Switch) : Option String :=
  (d.switches.find? fun entry => entry.1 = s).map Prod.snd

def add (d : Draft) (shown : String) (s : Switch) (value : String) : Except Unusable Draft :=
  if !s.fits d.verb then .error (.unexpected shown)
  else if s = .help then .error .help
  else if s = .version then .error .version
  else if (d.value? s).isSome then .error (.repeated s)
  else .ok { d with switches := d.switches ++ [(s, value)] }

def maxArguments : Verb → Nat
  | .call => 2
  | .events => 1

def addPlain (d : Draft) (argument : String) : Except Unusable Draft :=
  match d.verb with
  | none =>
    if argument = Verb.call.name then .ok { d with verb := some .call }
    else if argument = Verb.events.name then .ok { d with verb := some .events }
    else .error (.unknownCommand argument)
  | some verb =>
    if d.arguments.length < maxArguments verb then
      .ok { d with arguments := d.arguments ++ [argument] }
    else .error (.unexpected argument)

end Draft

inductive Spelling where
  | plain
  | rest
  | switch (s : Switch) (joined : Option String)
  | unknown
  deriving DecidableEq, Repr

def Spelling.ofArgument (argument : String) : Spelling :=
  match argument.toList with
  | ['-', '-'] => .rest
  | '-' :: '-' :: name =>
    let front := String.ofList (name.takeWhile (· != '='))
    match Switch.all.find? fun s => s.long = front with
    | none => .unknown
    | some s =>
      match name.dropWhile (· != '=') with
      | [] => .switch s none
      | _ :: value => .switch s (some (String.ofList value))
  | '-' :: letter :: joined =>
    match Switch.all.find? fun s => s.short? = some letter with
    | none => .unknown
    | some s =>
      match joined with
      | [] => .switch s none
      | '=' :: value => .switch s (some (String.ofList value))
      | value => .switch s (some (String.ofList value))
  | _ => .plain

def Draft.read (d : Draft) : List String → Except Unusable Draft
  | [] => .ok d
  | argument :: rest =>
    match Spelling.ofArgument argument with
    | .plain => d.addPlain argument >>= fun d => d.read rest
    | .rest => rest.foldlM addPlain d
    | .unknown => .error (.unexpected argument)
    | .switch s (some value) =>
      if s.takesValue then d.add argument s value >>= fun d => d.read rest
      else .error (.unexpected argument)
    | .switch s none =>
      if s.takesValue then
        match rest with
        | value :: rest => d.add argument s value >>= fun d => d.read rest
        | [] => .error (.missingValue s)
      else d.add argument s "" >>= fun d => d.read rest

def Draft.number? (d : Draft) (s : Switch) : Except Unusable (Option Nat) :=
  match d.value? s with
  | none => .ok none
  | some value =>
    match Text.below? Text.wordBound value with
    | some n => .ok (some n)
    | none => .error (.badNumber s value)

/-- What the reading amounts to. Parameters are an empty object by default, and the filter wants
every event. -/
def Draft.task (d : Draft) : Except Unusable Task :=
  match d.verb, d.arguments with
  | none, _ => .error .noCommand
  | some .call, [] => .error .missingMethod
  | some .call, method :: rest =>
    let params := rest.head?.getD "\x7b\x7d"
    if (d.value? .notify).isSome then .ok (.notify method params)
    else .ok (.call method params (d.value? .id))
  | some .events, arguments => do
    return .events (arguments.head?.getD EventId.all.text) (← d.number? .count)
      (← d.number? .duration)

def Invocation.parse (arguments : List String) : Except Unusable Invocation := do
  let d ← Draft.read {} arguments
  return { config := d.value? .config, url := d.value? .url, task := ← d.task }

end BrokerRpc.Console
