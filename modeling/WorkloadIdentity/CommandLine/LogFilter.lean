namespace WorkloadIdentity

/-- Levels by number: the higher the level, the more detailed its events. -/
abbrev LogLevel := Nat

namespace LogLevel

def error : LogLevel := 1

def info : LogLevel := 3

def trace : LogLevel := 5

def names : List (String × LogLevel) :=
  [("off", 0), ("error", 1), ("warn", 2), ("info", 3), ("debug", 4), ("trace", 5),
    ("0", 0), ("1", 1), ("2", 2), ("3", 3), ("4", 4), ("5", 5)]

def ofText? (text : String) : Option LogLevel := names.lookup text.toLower

end LogLevel

/-- A level, or a target with a level. The most specific directive that concerns the target of an
event decides about it. -/
inductive Directive where
  /-- The level of all events whose target starts with a text. -/
  | target (start : String) (level : LogLevel)
  /-- A level for events inside certain spans. -/
  | span
deriving DecidableEq, Repr

abbrev LogFilter := List Directive

namespace LogFilter

def isTargetChar (c : Char) : Bool := c.isAlphanum || c = '_' || c = ':' || c = '-' || 127 < c.toNat

/-- A target and a level, which may be left out. -/
def readTarget? (text : String) : Option Directive :=
  match text.splitOn "=" with
  | [start] => if start ≠ "" && start.all isTargetChar then some (.target start .trace) else none
  | [start, level] =>
    if start ≠ "" && start.all isTargetChar then
      if level = "" then some (.target start .trace)
      else (LogLevel.ofText? level).map (.target start)
    else none
  | _ => none

def readDirective? (text : String) : Option Directive :=
  match LogLevel.ofText? text with
  | some level => some (.target "" level)
  | none => if text.contains '[' then some .span else readTarget? text

/-- Reads a filter that holds no bad directive. -/
def read? (text : String) : Option LogFilter :=
  if text = "" then some [] else (text.splitOn ",").mapM readDirective?

/-- Reads the good directives of a filter, and the text of each bad one. -/
def readLeniently (text : String) : LogFilter × List String :=
  let parts := (text.splitOn ",").filter (· ≠ "")
  (parts.filterMap readDirective?, parts.filter (fun p => (readDirective? p).isNone))

/-- What an empty filter stands for. -/
def orErrors (f : LogFilter) : LogFilter := if f.isEmpty then [.target "" .error] else f

/-- The more specific of two directives that concern a target; of two equally specific ones, the
later. -/
def refine (target : String) (best : Option (Nat × LogLevel)) (d : Directive) :
    Option (Nat × LogLevel) :=
  match d with
  | .span => best
  | .target start level =>
    if target.startsWith start then
      if best.all (fun b => b.1 ≤ start.length) then some (start.length, level) else best
    else best

/-- Whether an event of a level is let through. -/
def allows (f : LogFilter) (target : String) (level : LogLevel) : Bool :=
  (f.orErrors.foldl (refine target) none).any (fun best => level ≤ best.2)

end LogFilter

end WorkloadIdentity
