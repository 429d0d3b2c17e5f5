import ClassTypings.Log.Basic
import ClassTypings.Pattern.Reader
/-!
# Log filters

How much of a log is shown. A filter has rules for topics, of which the one with the longest name
decides, and it may have a pattern that a message has to contain.
-/
namespace ClassTypings

/-- How much of a log is shown: entries up to a level, or nothing. -/
abbrev Verbosity := Option Level

/-- Whether entries of a level are shown. -/
def Verbosity.admits (verbosity : Verbosity) (level : Level) : Bool :=
  verbosity.any fun most => level.detail ≤ most.detail

/-- The verbosity that a word names. The case of its letters does not matter. -/
def Verbosity.ofName? (word : Text) : Option Verbosity :=
  let word := Text.asciiLower word
  if word = "off".toList then some none
  else (Level.all.find? fun level => Text.asciiLower level.name = word).map some

def Verbosity.full : Verbosity := some .trace

/-- A rule for the topics whose names begin in some way, `none` being all topics. -/
structure LogRule where
  topic : Option Text := none
  verbosity : Verbosity
  deriving DecidableEq, Repr

def LogRule.covers (rule : LogRule) (topic : Topic) : Bool :=
  rule.topic.all fun front => (Text.after? front topic.name).isSome

/-- How closely the rule names its topics. -/
def LogRule.weight (rule : LogRule) : Nat := (rule.topic.map List.length).getD 0

/-- Why a part of the text of a filter does not count. -/
inductive FilterFlaw where
  | slashes (source : Text)
  | rule (source : Text)
  | pattern (source : Text) (flaw : PatternFlaw)
  deriving DecidableEq, Repr

def FilterFlaw.warning (f : FilterFlaw) : Text :=
  let reason := match f with
    | .slashes source =>
      "invalid logging spec '".toList ++ source ++ "' (too many '/'s)".toList
    | .rule source => "invalid logging spec '".toList ++ source ++ "'".toList
    | .pattern source flaw => "invalid regex filter - ".toList ++ flaw.report source
  "warning: ".toList ++ reason ++ ", ignoring it\n".toList

structure LogFilter where
  rules : List LogRule
  pattern : Option Pattern := none
  flaws : List FilterFlaw := []

namespace LogFilter

/-- The rule that decides about a topic: the weightiest one, and of several the last. -/
def rule? (f : LogFilter) (topic : Topic) : Option LogRule :=
  (f.rules.filter (·.covers topic)).foldl
    (fun best rule => if best.any (rule.weight < ·.weight) then best else some rule) none

def shows (f : LogFilter) (entry : LogEntry) : Bool :=
  (f.rule? entry.topic).any (·.verbosity.admits entry.level) &&
    f.pattern.all (·.occursIn entry.message)

/-- The filter with a rule more. It takes the place of an earlier rule about the same topics. -/
def addRule (f : LogFilter) (rule : LogRule) : LogFilter :=
  { f with
    rules := if f.rules.any (·.topic = rule.topic) then
        f.rules.map fun earlier => if earlier.topic = rule.topic then rule else earlier
      else f.rules ++ [rule] }

def addFlaw (f : LogFilter) (flaw : FilterFlaw) : LogFilter :=
  { f with flaws := f.flaws ++ [flaw] }

/-- The filter with the rule that a text between two commas states: a verbosity, a topic, or both
with an equals sign between them. -/
def readRule (f : LogFilter) (source : Text) : LogFilter :=
  let source := Text.trim isBlank source
  if source.isEmpty then f
  else
    match source.splitOn '=' with
    | [word] =>
      match Verbosity.ofName? word with
      | some verbosity => f.addRule { verbosity }
      | none => f.addRule ⟨some word, .full⟩
    | [topic, word] =>
      let word := Text.trim isBlank word
      if word.isEmpty then f.addRule ⟨some topic, .full⟩
      else
        match Verbosity.ofName? word with
        | some verbosity => f.addRule ⟨some topic, verbosity⟩
        | none => f.addFlaw (.rule word)
    | _ => f.addFlaw (.rule source)

def readPattern (f : LogFilter) (source : Text) : LogFilter :=
  match Pattern.ofText source with
  | .ok pattern => { f with pattern := some pattern }
  | .error flaw => f.addFlaw (.pattern source flaw)

/-- The filter with what a text states: rules between commas and, after a slash, a pattern. -/
def read (f : LogFilter) (source : Text) : LogFilter :=
  match source.splitOn '/' with
  | [rules] => (rules.splitOn ',').foldl readRule f
  | [rules, pattern] => ((rules.splitOn ',').foldl readRule f).readPattern pattern
  | _ => f.addFlaw (.slashes source)

end LogFilter
end ClassTypings
