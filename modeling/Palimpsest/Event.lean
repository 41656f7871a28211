import Palimpsest.Mapping.Wording
import Palimpsest.Url.Basic
import Palimpsest.Version

/-!
# Events

What happens inside, as it is written to a journal: each event has a level, a part of the program
that it belongs to, and a message.
-/

namespace Palimpsest

inductive Level where
  | error
  | warn
  | info
  | debug
deriving DecidableEq

inductive Event where
  /-- An expansion was asked for that is there already. -/
  | hit (file : Url) (version : Version)
  /-- An expansion was asked for that has to be made. -/
  | miss (file : Url) (version : Version)
  /-- An expansion was asked for while the file is being expanded. -/
  | reentered (file : Url) (version : Version)
  | expanderFailed (file : Url) (message : String)
  | expanderCrashed (file : Url) (message : String)
  /-- The expander's account of its layout cannot be true. -/
  | layoutRefused (file : Url) (fault : Mapping.Fault)
  | optionsChanged (dropped : Nat)
  /-- A file has no directives any more. -/
  | expansionDropped (file : Url)
  | unitRegistered (name owner : Url)
  | unitUnregistered (name owner : Url)
  /-- A directive is offered a second time. -/
  | directiveClash (directive owner claimant : String)
  /-- A directive was asked for whose provider cannot be reached. -/
  | directiveUnbound (provider directive entryPoint : String)
  /-- A session begins with a provider that cannot be reached. -/
  | providerUnbound (provider entryPoint : String)
  | providersChanged
  | settingsReloaded (dropped : Nat)
  /-- Results lie in made-up text and are not passed on. -/
  | resultsDropped (count : Nat) (kind : String) (file : Url)
deriving DecidableEq

def Level.name : Level → String
  | error => "ERROR"
  | warn => "WARN"
  | info => "INFO"
  | debug => "DEBUG"

namespace Event

def level : Event → Level
  | expanderCrashed .. => .error
  | reentered .. | expanderFailed .. | layoutRefused .. | directiveClash .. | providerUnbound ..
  | providersChanged => .warn
  | optionsChanged .. | settingsReloaded .. => .info
  | hit .. | miss .. | expansionDropped .. | unitRegistered .. | unitUnregistered ..
  | directiveUnbound .. | resultsDropped .. => .debug

/-- The part of the program that an event belongs to. -/
def topic : Event → String
  | hit .. | miss .. | reentered .. | expanderFailed .. | expanderCrashed .. | layoutRefused ..
  | optionsChanged .. | expansionDropped .. => "utsushi::cache"
  | unitRegistered .. | unitUnregistered .. => "utsushi::registry"
  | directiveClash .. | directiveUnbound .. | providerUnbound .. => "utsushi::providers"
  | providersChanged | settingsReloaded .. => "utsushi::config"
  | resultsDropped .. => "utsushi::remap"

def message : Event → String
  | hit file version => "Cache HIT: " ++ file.render ++ " at version " ++ version.token
  | miss file version =>
    "Cache MISS: expanding " ++ file.render ++ " at version " ++ version.token
  | reentered file version =>
    "Reentrant expansion of " ++ file.render ++ " at version " ++ version.token ++
      " short-circuited to original content"
  | expanderFailed file text => "Expansion of " ++ file.render ++ " failed: " ++ text
  | expanderCrashed file text => "Expander panicked on " ++ file.render ++ ": " ++ text
  | layoutRefused file fault =>
    "Discarding expansion of " ++ file.render ++ ": invalid segment mapping: " ++ fault.message
  | optionsChanged dropped =>
    "Expand options changed; dropped " ++ dropped.repr ++ " cached expansions"
  | expansionDropped file => "Dropped expansion of " ++ file.render ++ ": no directives left"
  | unitRegistered name owner =>
    "Registered declaration unit " ++ name.render ++ " for " ++ owner.render
  | unitUnregistered name owner =>
    "Unregistered declaration unit " ++ name.render ++ " for " ++ owner.render
  | directiveClash directive owner claimant =>
    "Directive '" ++ directive ++ "' is claimed by both '" ++ owner ++ "' and '" ++ claimant ++
      "'; keeping '" ++ owner ++ "'"
  | directiveUnbound provider directive entryPoint =>
    "Provider '" ++ provider ++ "' for directive '" ++ directive ++
      "' has no bound entry point '" ++ entryPoint ++ "'"
  | providerUnbound provider entryPoint =>
    "Provider '" ++ provider ++ "' has no bound entry point '" ++ entryPoint ++ "'"
  | providersChanged => "Provider manifests changed; they take effect in a new session"
  | settingsReloaded dropped =>
    "Settings reloaded; " ++ dropped.repr ++ " cached expansions dropped"
  | resultsDropped count kind file =>
    "Dropped " ++ count.repr ++ " " ++ kind ++ " result(s) in generated code of " ++ file.render

def line (e : Event) : String := e.level.name ++ " " ++ e.topic ++ ": " ++ e.message

end Event

end Palimpsest
