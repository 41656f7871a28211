import Palimpsest.Expander.Output
import Palimpsest.Mapping.Mapper
import Palimpsest.Mapping.Wording
import Palimpsest.Text.Blank
import Palimpsest.Version

/-!
# Entries

An `Entry` is what is known about the expansion of one version of a file. Whatever an expander
does, there is an entry: where it fails, crashes, or gives an account of its layout that cannot be
true, the entry passes the source text through unchanged.

Correspondence (utsushi ↔ here):
* `ExpansionEntry`, `ExpansionOutcome`, `MappingState` ↔ `Entry`, `Outcome`, `State`
* the end of `expand`, from the expander's reply on ↔ `judge`
-/

namespace Palimpsest.Expansion

open Mapping (Mapper Fault)

/-- How an entry came about. -/
inductive Outcome where
  /-- The expander's output was taken over. -/
  | expanded
  /-- There was nothing to expand. -/
  | skipped
  | failed (message : String)
  /-- The file was being expanded already. -/
  | reentrant
deriving DecidableEq

inductive State where
  /-- There is no entry. -/
  | unmapped
  /-- The expander is at work on the file. -/
  | expanding
  /-- The layout of the expansion is known. -/
  | mapped
  /-- Nothing is known about the layout. -/
  | degraded
deriving DecidableEq

/-- The expansion of one version of a file. -/
structure Entry where
  version : Version
  code : String
  declarations : Option String
  diagnostics : List Expander.Diagnostic
  mapper : Mapper
  outcome : Outcome
deriving DecidableEq

namespace Entry

/-- The entry that passes the source text through. -/
def passThrough (content : String) (version : Version) (outcome : Outcome) : Entry :=
  ⟨version, content, none, [], .identity, outcome⟩

def state (e : Entry) : State := if e.mapper.isIdentity then .degraded else .mapped

end Entry

/-- Why the reply of an expander is not taken over. -/
inductive Rejection where
  | failed (message : String)
  | crashed (message : String)
  | badLayout (fault : Fault)
deriving DecidableEq

def Rejection.message : Rejection → String
  | failed text | crashed text => text
  | badLayout fault => fault.message

def usableDeclarations (declarations : Option String) : Option String :=
  declarations.filter fun text => !Text.isBlankText text

/-- The entry of an expander's reply, or why it is not taken over. -/
def judge (version : Version) : Expander.Reply → Except Rejection Entry
  | .failed text => .error (.failed text)
  | .crashed text => .error (.crashed (text.getD "expander panicked"))
  | .output output =>
    match Mapper.ofLayout? output.layout with
    | .error fault => .error (.badLayout fault)
    | .ok mapper =>
      .ok
        { version
          code := output.code
          declarations := usableDeclarations output.declarations
          diagnostics := output.diagnostics
          mapper
          outcome := .expanded }

/-- The entry that results from an expander's reply. -/
def Entry.ofReply (content : String) (version : Version) (reply : Expander.Reply) : Entry :=
  match judge version reply with
  | .ok entry => entry
  | .error rejection => .passThrough content version (.failed rejection.message)

end Palimpsest.Expansion
