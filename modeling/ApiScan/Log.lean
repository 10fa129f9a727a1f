import ApiScan.Text.Basic

set_option autoImplicit false

/-! # Log events

What is worth telling about a run apart from its result. Events at the level of a warning are always
shown; those at the level of debugging explain why something was left out. -/

namespace ApiScan

/-- How much an event matters. -/
inductive Level where
  | debug
  | warning
  deriving DecidableEq, Repr

/-- Something that happened on the way to a result. -/
inductive Event where
  | unbalancedSchema
  | noModelName
  | noTableName
  | unbalancedTable
  | otherBlock
  | routerNotMounted
  | routerUnavailable
  | noRouteSegment
  | mainFileFound
  | noDialect
  | noSchemaFound
  | configWritten
  | fileWritten
  | malformedDocBlock
  | docBlockNotMapping
  | ormConfigUnreadable
  | fileUnreadable
  | configMissing
  | docsFileSkipped
  | noGitignore
  deriving DecidableEq, Repr

namespace Event

/-- The level of an event. -/
def level : Event → Level
  | .malformedDocBlock | .docBlockNotMapping | .ormConfigUnreadable | .fileUnreadable
  | .configMissing | .docsFileSkipped | .noGitignore => .warning
  | _ => .debug

/-- The wording of an event. -/
def message : Event → String
  | .unbalancedSchema => "unbalanced schema block"
  | .noModelName => "no mongoose.model() name"
  | .noTableName => "no table name literal"
  | .unbalancedTable => "unbalanced table block"
  | .otherBlock => "skipping non-model block"
  | .routerNotMounted => "router not mounted"
  | .routerUnavailable => "router file unavailable"
  | .noRouteSegment => "no route segment"
  | .mainFileFound => "main file detected"
  | .noDialect => "no schema dialect configured"
  | .noSchemaFound => "no schema found"
  | .configWritten => "config written"
  | .fileWritten => "file written"
  | .malformedDocBlock => "invalid @swagger block"
  | .docBlockNotMapping => "@swagger block is not a mapping"
  | .ormConfigUnreadable => "could not read ORM config file"
  | .fileUnreadable => "could not read file"
  | .configMissing => "config file not found"
  | .docsFileSkipped => "skipping docs file"
  | .noGitignore => "could not find .gitignore file"

end Event

/-- The events of a run, in order. -/
abbrev Log := List Event

/-- What a scan of a source text found, and the events on the way. -/
structure Findings (α : Type) where
  found : List α
  log : Log := []

namespace Findings

variable {α : Type}

/-- Nothing found, for a reason. -/
def skipped (event : Event) : Findings α := ⟨[], [event]⟩

/-- The findings of several scans, in order. -/
def join (parts : List (Findings α)) : Findings α :=
  ⟨parts.flatMap Findings.found, parts.flatMap Findings.log⟩

end Findings

end ApiScan
