import EarlyBreak.Config.Basic
import EarlyBreak.Text.Ascii
import EarlyBreak.Text.Blank
import EarlyBreak.Unicode.Alphanumeric

/-! Which log lines are kept: levels for targets, the most specific target deciding. -/

namespace EarlyBreak

/-- The levels of log lines, the least talkative first. -/
inductive LogLevel where
  | off
  | error
  | warn
  | info
  | debug
  | trace
  deriving DecidableEq, Repr

namespace LogLevel

/-- All levels in order. -/
def all : List LogLevel := [off, error, warn, info, debug, trace]

/-- The name of a level. -/
def name : LogLevel → String
  | off => "off"
  | error => "error"
  | warn => "warn"
  | info => "info"
  | debug => "debug"
  | trace => "trace"

/-- The level with a name in any case, or with its number, which may have a plus sign. -/
def ofText? (s : List Char) : Option LogLevel :=
  match all.find? fun level => Text.sameIgnoringAsciiCase level.name.toList s with
  | some level => some level
  | none =>
      let digits :=
        match s with
        | '+' :: rest => rest
        | s => s
      (Text.decimal? digits).bind (all[·]?)

end LogLevel

/-- A level for one target, or for all others. -/
structure LogDirective where
  target : Option String
  level : LogLevel
  deriving DecidableEq, Repr

namespace LogDirective

/-- Whether a character may be the first of a directive, blanks aside. -/
def isFirst (c : Char) : Bool := ['-', ':', '_'].contains c || Unicode.isAlphanumeric c

/-- The directive that a text spells: a level, a target, or both.  A target alone lets everything
through.  Blanks belong to the target or level they stand at, so no level has any; with a level
behind it, a target has none in front.
-/
def parse? (s : List Char) : Option LogDirective :=
  if !(Text.trimStart Text.isBlank s).head?.any isFirst then none
  else
    match Text.splitFirst '=' s with
    | (word, none) =>
        match LogLevel.ofText? word with
        | some level => some ⟨none, level⟩
        | none => some ⟨some (String.ofList word), .trace⟩
    | (target, some level) =>
        if s.head?.any Text.isBlank then none
        else if level.isEmpty then some ⟨some (String.ofList target), .trace⟩
        else (LogLevel.ofText? level).map (⟨some (String.ofList target), ·⟩)

/-- The text of a directive. -/
def text (directive : LogDirective) : String :=
  match directive.target with
  | some target => target ++ "=" ++ directive.level.name
  | none => directive.level.name

/-- The bytes of the target; a directive without one is the least specific. -/
def specificity (directive : LogDirective) : Nat :=
  match directive.target with
  | some target => target.utf8ByteSize + 1
  | none => 0

/-- Whether a directive is consulted before another: longer targets first, and of two equally long
ones the later in the alphabet.
-/
def precedes (a b : LogDirective) : Bool :=
  if a.specificity = b.specificity then decide (b.target.getD "" < a.target.getD "")
  else decide (b.specificity < a.specificity)

end LogDirective

/-- Directives in the order in which they are consulted, one for each target. -/
structure LogFilter where
  directives : List LogDirective
  deriving DecidableEq, Repr

namespace LogFilter

/-- Puts a directive in its place, instead of the one that its target had. -/
def insertInto (directive : LogDirective) : List LogDirective → List LogDirective
  | [] => [directive]
  | other :: rest =>
      if directive.target = other.target then directive :: rest
      else if directive.precedes other then directive :: other :: rest
      else other :: insertInto directive rest

/-- The filter of directives, the last of each target counting; errors only if there are none. -/
def ofDirectives (directives : List LogDirective) : LogFilter :=
  match directives with
  | [] => ⟨[⟨none, .error⟩]⟩
  | directives => ⟨directives.foldl (fun sorted d => insertInto d sorted) []⟩

/-- The filter that a list of directives with commas spells. -/
def parse? (s : String) : Option LogFilter := do
  let words := (s.toList.splitOn ',').filter (!·.isEmpty)
  return ofDirectives (← words.mapM LogDirective.parse?)

/-- The text of a filter. -/
def text (filter : LogFilter) : String := ",".intercalate (filter.directives.map (·.text))

/-- The directives that a configured level stands for: a level in any case, no text for `info`,
and any other text for itself.
-/
def levelText (level : String) : String :=
  let trimmed := Text.trim level
  if trimmed.isEmpty then "info"
  else
    let folded := String.ofList (trimmed.toList.map Text.lowerAscii)
    if folded = "warning" then "warn"
    else if ["trace", "debug", "info", "warn", "error"].contains folded then folded
    else trimmed

/-- The filter for a configured level; `info` if it spells none. -/
def ofLevel (level : String) : LogFilter := (parse? (levelText level)).getD ⟨[⟨none, .info⟩]⟩

/-- The filter of a configuration, with the directives of the environment after its own.  What
does not parse is left out, first the configuration.
-/
def ofConfig (config : LoggingConfig) (environment : Option String) : LogFilter :=
  let directives := (environment.map Text.trim).filter (!·.isEmpty)
  match directives with
  | none => ofLevel config.level
  | some directives =>
      ((parse? (levelText config.level ++ "," ++ directives)).or (parse? directives)).getD
        (ofLevel config.level)

end LogFilter

end EarlyBreak
