import ClassTypings.Outline
/-!
# Typings

From a source text to the interface of its class and to the declaration of that interface. What can
be chosen comes from defaults, then from variables of the environment, then from options of the
command line.
-/
namespace ClassTypings

def toolName : Text := "php2ts".toList

/-- The choices of a conversion. -/
structure Config where
  /-- What follows the name of an interface and the names of its parents. -/
  suffix : Text := []
  /-- The name of the tool in the heading of a declaration. -/
  banner : Text := toolName
  /-- How often a collection is marked. -/
  marks : CollectionMarks := .once
  deriving DecidableEq, Repr

/-- The values of the variables that are set. -/
abbrev Environment := Text → Option Text

namespace Environment

def ofList (vars : List (Text × Text)) : Environment := fun name => vars.lookup name

def suffixVariable : Text := "PHP2TS_SUFFIX".toList

def bannerVariable : Text := "PHP2TS_BANNER".toList

/-- The variable that asks to mark a collection after each property. -/
def marksVariable : Text := "PHP2TS_LEGACY_COLLECTION".toList

/-- Whether a value says yes. Blanks around it and the case of its letters do not matter. -/
def saysYes (value : Text) : Bool :=
  ["1".toList, "true".toList, "yes".toList, "on".toList].contains
    (Text.asciiLower (Text.trim isBlank value))

end Environment

/-- What a command line puts in the place of the configuration. -/
structure Overrides where
  suffix : Option Text := none
  banner : Option Text := none
  markEach : Bool := false
  deriving DecidableEq, Repr

namespace Config

/-- The configuration that an environment asks for. A blank banner is no banner. -/
def ofEnvironment (env : Environment) : Config where
  suffix := (env Environment.suffixVariable).getD []
  banner := ((env Environment.bannerVariable).filter fun banner => !banner.all isBlank).getD
    toolName
  marks :=
    if (env Environment.marksVariable).any Environment.saysYes then .each
    else .once

def override (c : Config) (o : Overrides) : Config where
  suffix := o.suffix.getD c.suffix
  banner := o.banner.getD c.banner
  marks := if o.markEach then .each else c.marks

end Config

/-- The interface of the class that a text declares. -/
def interfaceOf (config : Config) (source : Text) : Interface :=
  (Outline.ofSource source config.suffix).toInterface config.marks

/-- The declaration of the interface of the class that a text declares. -/
def declarationOf (config : Config) (source : Text) : Text :=
  (interfaceOf config source).render config.banner

/-- The log of reading a source text. -/
def outlineLog (config : Config) (source : Text) : List LogEntry :=
  let outline := Outline.ofSource source config.suffix
  outline.entry :: outline.droppedEntries

end ClassTypings
