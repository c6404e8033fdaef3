import SemanticLayer.Evaluation.Threshold
import SemanticLayer.Report.Basic
/-!
The command line: options for all commands, a command, and its own options and arguments. An option
is given once; its value follows it or is joined to it by an equals sign. A value that starts with a
hyphen must be joined.
-/
namespace SemanticLayer.Cli

/-- What is to be done. -/
inductive Command where
  | validate (document : String)
  | normalize (document : String)
  | diff (old new : String)
  | evaluate (document : String) (profile : Option Profile) (version : Int)
  | compile (document : String) (view out : Option String) (zip : Bool) (version : Option Int)
  | promote (document : String) (out : Option String) (zip : Bool) (version : Option Int)
  | drift (document : String) (snapshotDir : Option String) (semanticView : Bool)
  | config (init display : Bool)
  deriving DecidableEq, Repr

/-- A command line. -/
structure Invocation where
  config : Option String
  format : Format
  database : Option String
  schema : Option String
  command : Command
  deriving DecidableEq, Repr

/-- An option that may be given: its name, its letter and whether it has a value. -/
structure OptionSpec where
  name : String
  letter : Option Char
  hasValue : Bool

/-- What was given: options with their values, and arguments. -/
structure Given where
  options : List (String × String)
  arguments : List String
  deriving Repr

namespace Given

/-- The value of an option. -/
def option? (g : Given) (name : String) : Option String := Keyed.get? name g.options

/-- Whether an option was given. -/
def has (g : Given) (name : String) : Bool := (g.option? name).isSome

end Given

/-- Whether a word is an option and no argument: it starts with a hyphen and has more than that. -/
def isOption (word : String) : Bool :=
  match word.toList with
  | '-' :: _ :: _ => true
  | _ => false

/-- The option that a word stands for and the value that is joined to it. -/
def optionOf? (specs : List OptionSpec) (word : String) : Option (OptionSpec × Option String) :=
  match word.toList with
  | '-' :: '-' :: rest =>
    let name := String.ofList (rest.takeWhile (· ≠ '='))
    (specs.find? (·.name = name)).map fun spec =>
      match rest.dropWhile (· ≠ '=') with
      | '=' :: value => (spec, some (String.ofList value))
      | _ => (spec, none)
  | '-' :: letter :: rest =>
    (specs.find? (·.letter = some letter)).map fun spec =>
      match rest with
      | [] => (spec, none)
      | '=' :: value => (spec, some (String.ofList value))
      | value => (spec, some (String.ofList value))
  | _ => none

/-- Reads words up to the first argument, if the words behind it are not wanted, or all of them.
Gives what was given and the words that are left. -/
def readWords (specs : List OptionSpec) (stopAtArgument : Bool) :
    List String → Option (Given × List String)
  | [] => some (⟨[], []⟩, [])
  | [word] => lastWord word
  | word :: next :: rest =>
    if word = "--" then some (⟨[], next :: rest⟩, [])
    else if isOption word then
      match optionOf? specs word with
      | none => none
      | some (spec, some value) =>
        if spec.hasValue then (readWords specs stopAtArgument (next :: rest)).bind
          (withOption spec value)
        else none
      | some (spec, none) =>
        if spec.hasValue then
          if isOption next then none
          else (readWords specs stopAtArgument rest).bind (withOption spec next)
        else (readWords specs stopAtArgument (next :: rest)).bind (withOption spec "")
    else if stopAtArgument then some (⟨[], []⟩, word :: next :: rest)
    else (readWords specs stopAtArgument (next :: rest)).map (withArgument word)
where
  /-- Adds an option, which must not be given twice. -/
  withOption (spec : OptionSpec) (value : String) (read : Given × List String) :
      Option (Given × List String) :=
    if read.1.has spec.name then none
    else some ({ read.1 with options := (spec.name, value) :: read.1.options }, read.2)
  /-- Adds an argument. -/
  withArgument (word : String) (read : Given × List String) : Given × List String :=
    ({ read.1 with arguments := word :: read.1.arguments }, read.2)
  /-- Reads the last word. -/
  lastWord (word : String) : Option (Given × List String) :=
    if word = "--" then some (⟨[], []⟩, [])
    else if isOption word then
      match optionOf? specs word with
      | none => none
      | some (spec, some value) =>
        if spec.hasValue then some (⟨[(spec.name, value)], []⟩, []) else none
      | some (spec, none) =>
        if spec.hasValue then none else some (⟨[(spec.name, "")], []⟩, [])
    else if stopAtArgument then some (⟨[], []⟩, [word])
    else some (⟨[], [word]⟩, [])

/-- The options for all commands. -/
def commonOptions : List OptionSpec :=
  [⟨"config", some 'c', true⟩, ⟨"output", some 'o', true⟩, ⟨"database", none, true⟩,
    ⟨"schema", none, true⟩]

/-- An option of a command with a value. -/
def valued (name : String) : OptionSpec := ⟨name, none, true⟩

/-- An option of a command without a value. -/
def switch (name : String) : OptionSpec := ⟨name, none, false⟩

/-- A path, which must not be empty. -/
def path? (text : String) : Option String := Text.unlessEmpty text

/-- The number that digits stand for. -/
def digits? (cs : List Char) : Option Nat :=
  if cs.isEmpty || !cs.all Char.isDigit then none
  else some (cs.foldl (fun n c => n * 10 + (c.toNat - 48)) 0)

/-- A signed integer of 64 bits with an optional sign. -/
def version? (text : String) : Option Int := do
  let n : Int ← match text.toList with
    | '-' :: rest => (digits? rest).map fun n => -(n : Int)
    | '+' :: rest => (digits? rest).map fun n => (n : Int)
    | cs => (digits? cs).map fun n => (n : Int)
  if -(Nat.pow 2 63 : Int) ≤ n ∧ n < Nat.pow 2 63 then some n else none

/-- The value of an option that must be readable if it is given. -/
def readOption (g : Given) (name : String) (read : String → Option α) : Option (Option α) :=
  match g.option? name with
  | none => some none
  | some text => (read text).map some

/-- Reads the words of a command whose options are given. -/
def commandWords (specs : List OptionSpec) (words : List String) : Option Given :=
  (readWords specs false words).map (·.1)

/-- The only argument of a command. -/
def onlyArgument (g : Given) : Option String :=
  match g.arguments with
  | [argument] => path? argument
  | _ => none

/-- Reads a command by its name. -/
def command? (name : String) (words : List String) : Option Command :=
  if name = "validate" then do
    return .validate (← onlyArgument (← commandWords [] words))
  else if name = "normalize" then do
    return .normalize (← onlyArgument (← commandWords [] words))
  else if name = "diff" then do
    match (← commandWords [] words).arguments with
    | [old, new] => return .diff (← path? old) (← path? new)
    | _ => none
  else if name = "evaluate" then do
    let g ← commandWords [valued "profile", valued "version-id"] words
    let version ← readOption g "version-id" version?
    return .evaluate (← onlyArgument g) (← readOption g "profile" Profile.parse?)
      (version.getD 1)
  else if name = "compile" then do
    let g ← commandWords [valued "view", valued "out", switch "zip", valued "version-id"] words
    return .compile (← onlyArgument g) (g.option? "view") (g.option? "out") (g.has "zip")
      (← readOption g "version-id" version?)
  else if name = "promote" then do
    let g ← commandWords [valued "out", switch "zip", valued "version-id"] words
    return .promote (← onlyArgument g) (g.option? "out") (g.has "zip")
      (← readOption g "version-id" version?)
  else if name = "drift" then do
    let g ← commandWords [valued "snapshot-dir", switch "semantic-view"] words
    return .drift (← onlyArgument g) (g.option? "snapshot-dir") (g.has "semantic-view")
  else if name = "config" then do
    let g ← commandWords [switch "init", switch "show"] words
    if g.arguments.isEmpty then return .config (g.has "init") (g.has "show") else none
  else none

/-- The form that a word names. -/
def format? (word : String) : Option Format :=
  Keyed.get? word [("table", .table), ("json", .json), ("csv", .csv)]

/-- What is shown for words that are no command line. -/
def usage : String :=
  "usage: odlc [--config PATH] [--output table|json|csv] [--database NAME] [--schema NAME] " ++
  "validate|normalize|diff|evaluate|compile|promote|drift|config ..."

/-- Reads a command line, or nothing if it is not one. -/
def parse? (words : List String) : Option Invocation := do
  let (common, rest) ← readWords commonOptions true words
  match rest with
  | [] => none
  | name :: words =>
    return {
      config := ← readOption common "config" path?
      format := (← readOption common "output" format?).getD .table
      database := common.option? "database"
      schema := common.option? "schema"
      command := ← command? name words }

end SemanticLayer.Cli
