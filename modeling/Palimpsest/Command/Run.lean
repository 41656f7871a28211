import Palimpsest.Analysis.Finding
import Palimpsest.Command.Arguments
import Palimpsest.Json.Printer
import Palimpsest.Mapping.Wording
import Palimpsest.Settings.Load
import Palimpsest.Url.Strict
import Palimpsest.Wire.Analysis

/-!
# Running commands

Each command reads files through a `Files m` and ends in an `Outcome`: the exit code and what is
written to the two streams. The order in which files are read is part of the behaviour, since the
first failure is the one reported.

What the texts of files mean is left to `Libraries`, which are handed in. They have words of their
own for what they refuse, and so has a crash; those words are no part of the program.

Correspondence (utsushi ↔ here):
* `UtsushiError` ↔ `Failure`
* a crash over a sum ↔ `Stop.crash`
-/

namespace Palimpsest.Command

open Mapping (Mapper Fault)
open Text (LineMap)

/-- What the program has from elsewhere: readers of expansions and of settings files, a compiler of
patterns, and what is said of a sum that does not fit. -/
structure Libraries where
  readOutput : String → Except String Expander.Output
  readSettings : Settings.Reader
  compile : Pattern.Compiler
  crashText : Overflow → String

/-- Why a command fails. -/
inductive Failure where
  | unreadable (error : FileError)
  | notOutput (reason : String)
  | badLayout (fault : Fault)
  | settings (error : Settings.LoadError)
  /-- The offset lies in made-up text. -/
  | madeUp (offset : Offset) (producer : String)
  /-- The offset does not lie in made-up text, but the span does not end outside of it. -/
  | endsInMadeUp (offset : Offset)
  | noUri (path : String)
deriving DecidableEq

def Failure.message : Failure → String
  | unreadable error => "IO error: " ++ error.message
  | notOutput reason => "Invalid expansion output: " ++ reason
  | badLayout fault => fault.report
  | settings error => error.message
  | madeUp offset producer =>
    "Invalid input: offset " ++ offset.val.repr ++ " is inside code generated by '" ++ producer ++
      "'"
  | endsInMadeUp offset =>
    "Invalid input: span at offset " ++ offset.val.repr ++ " ends inside generated code"
  | noUri path => "Invalid input: cannot build a URI for " ++ path

/-- Why a command does not come to its end: it fails, or a sum does not fit and it crashes. -/
inductive Stop where
  | failure (cause : Failure)
  | crash (error : Overflow)
deriving DecidableEq

/-- How a run ends. -/
structure Outcome where
  exit : Nat
  output : String
  errors : String
deriving DecidableEq

def versionLine : String := "utsushi 0.1.0\n"

def usageText : String :=
  "Usage: utsushi check <EXPANSION>\n" ++
  "       utsushi map <EXPANSION> <to-expanded|to-original> <OFFSET> [--length <LENGTH>]\n" ++
  "       utsushi range <EXPANSION> <SOURCE> <START_LINE> <START_CHARACTER> <END_LINE> " ++
    "<END_CHARACTER>\n" ++
  "       utsushi diagnostics <EXPANSION> <SOURCE> [--config <CONFIG>]\n"

def Refusal.outcome : Refusal → Outcome
  | usage => ⟨2, "", usageText⟩
  | help => ⟨0, usageText, ""⟩
  | version => ⟨0, versionLine, ""⟩

/-- The outcome of a command: one line more on one of the two streams. A crash is not told in words
of the program. -/
def Outcome.ofResult (crashText : Overflow → String) : Except Stop String → Outcome
  | .ok text => ⟨0, text ++ "\n", ""⟩
  | .error (.failure cause) => ⟨1, "", "Error: " ++ cause.message ++ "\n"⟩
  | .error (.crash error) => ⟨101, "", crashText error⟩

/-- A computation on offsets as a step of a command. -/
def arithmetic {α : Type} : Except Overflow α → Except Stop α := Except.mapError .crash

def mapperOf (output : Expander.Output) : Except Stop Mapper :=
  (Mapper.ofLayout? output.layout).mapError fun fault => .failure (.badLayout fault)

/-- Why an expanded offset, or a span that starts there, has no place in the source. -/
def whyUnmapped (mapper : Mapper) (offset : Offset) : Failure :=
  match mapper.producerAt? offset with
  | some producer => .madeUp offset producer
  | none => .endsInMadeUp offset

def spanText (span : Span) : String := span.start.val.repr ++ " " ++ span.length.val.repr

def checkOutput (output : Expander.Output) : Except Stop String := do
  match ← mapperOf output with
  | .identity => return "No segment mapping; positions map by identity"
  | .segments map =>
    return "OK: " ++ map.segments.size.repr ++ " segment(s), " ++ map.regions.size.repr ++
      " generated region(s)"

def mapOffset (mapper : Mapper) (direction : Direction) (offset : Offset)
    (length : Option Offset) : Except Stop String := do
  match direction, length with
  | .toExpanded, none => return (← arithmetic (mapper.pointToExpanded offset)).val.repr
  | .toExpanded, some length =>
    return spanText (← arithmetic (mapper.spanToExpanded ⟨offset, length⟩))
  | .toSource, none =>
    match ← arithmetic (mapper.pointToSource offset) with
    | some carried => return carried.val.repr
    | none => throw (.failure (whyUnmapped mapper offset))
  | .toSource, some length =>
    match ← arithmetic (mapper.spanToSource ⟨offset, length⟩) with
    | some carried => return spanText carried
    | none => throw (.failure (whyUnmapped mapper offset))

/-- The source span of a range of the expanded text. -/
def sourceSpan (output : Expander.Output) (range : Text.Range) : Except Stop Span := do
  let span ← arithmetic ((LineMap.ofText output.code).span range)
  let mapper ← mapperOf output
  match ← arithmetic (mapper.spanToSource span) with
  | some carried => return carried
  | none => throw (.failure (whyUnmapped mapper span.start))

/-- The remarks of an expansion as an editor gets them for a file. -/
def writeDiagnostics (uri : Url) (source : String) (text : String) (output : Expander.Output) :
    Json :=
  let lines := LineMap.ofText text
  .object
    [("uri", .string uri.render),
     ("diagnostics",
       .array (output.diagnostics.map fun remark =>
         Wire.writeShown ((Analysis.Diagnostic.ofExpander source remark).shown lines)))]

/-- The address of a file, where it can be written as one. -/
def uriOf (path : String) (names : List String) : Except Stop Url :=
  let url := Url.ofFile names
  if url.isStrict then .ok url else .error (.failure (.noUri path))

variable {m : Type → Type} [Monad m]

/-- A result with its own causes as a step of a command. -/
def step {ε α : Type} (cause : ε → Failure) (result : m (Except ε α)) : ExceptT Stop m α :=
  ExceptT.mk (Except.mapError (fun error => .failure (cause error)) <$> result)

def pureStep {α : Type} (result : Except Stop α) : ExceptT Stop m α :=
  ExceptT.mk (pure result)

def readText (files : Files m) (path : String) : ExceptT Stop m String :=
  step .unreadable (files.read path)

def readOutput (libraries : Libraries) (files : Files m) (path : String) :
    ExceptT Stop m Expander.Output := do
  let text ← readText files path
  pureStep ((libraries.readOutput text).mapError fun reason => .failure (.notOutput reason))

/-- The text that a request asks for. `user` is the path of the user's settings. -/
def answer (libraries : Libraries) (files : Files m) (user : String) :
    Request → ExceptT Stop m String
  | .check path => do
    let output ← readOutput libraries files path
    pureStep (checkOutput output)
  | .map path direction offset length => do
    let output ← readOutput libraries files path
    let mapper ← pureStep (mapperOf output)
    pureStep (mapOffset mapper direction offset length)
  | .range path source range => do
    let output ← readOutput libraries files path
    let span ← pureStep (sourceSpan output range)
    let text ← readText files source
    return (Wire.writeRange ((LineMap.ofText text).range span)).compress
  | .diagnostics path source config => do
    let settings ← step .settings
      (Settings.load libraries.readSettings libraries.compile files user config)
    let output ← readOutput libraries files path
    let text ← readText files source
    let names ← step .unreadable (files.locate source)
    let uri ← pureStep (uriOf source names)
    return (writeDiagnostics uri settings.diagnosticSource text output).pretty

def run (libraries : Libraries) (files : Files m) (user : String) (words : List String) :
    m Outcome :=
  match Request.read words with
  | .error refusal => pure refusal.outcome
  | .ok request =>
    Outcome.ofResult libraries.crashText <$> (answer libraries files user request).run

end Palimpsest.Command
