import SurfaceGate.Log.Level
import SurfaceGate.Text.Blank

/-!
Which log records are wanted.

A filter is a list of directives, each a level for all targets that begin with its name. The text of
a filter separates directives by commas: a level alone holds for every target, a target alone wants
everything, `target=level` is both. A directive that cannot be read is skipped with a warning. A
later directive with the same name replaces an earlier one, and the directive with the longest name
that fits decides about a record.
-/

namespace SurfaceGate.Log

/-- The most detailed level wanted; `off` wants nothing. -/
inductive Threshold where
  | off
  | upTo (level : Level)
  deriving DecidableEq, Repr

def Threshold.admits : Threshold → Level → Bool
  | .off, _ => false
  | .upTo wanted, level => wanted.admits level

/-- A level by its name, in any mix of cases. -/
def Threshold.ofText? (text : String) : Option Threshold :=
  match text.map Char.toLower with
  | "off" => some .off
  | "error" => some (.upTo .error)
  | "warn" => some (.upTo .warn)
  | "info" => some (.upTo .info)
  | "debug" => some (.upTo .debug)
  | "trace" => some (.upTo .trace)
  | _ => none

structure Directive where
  /-- How a target begins; without one it is every target. -/
  target : Option String
  threshold : Threshold
  deriving DecidableEq, Repr

/-- Directives in the order in which they were given, names distinct. -/
abbrev Filter := List Directive

inductive Part where
  | directive (d : Directive)
  /-- A part that cannot be read, with the words to complain about. -/
  | invalid (spec : String)
  deriving DecidableEq, Repr

def Part.ofText (part : String) : Part :=
  match (Text.cutAt '=' part.toList).map String.ofList with
  | [only] =>
      match Threshold.ofText? only with
      | some threshold => .directive ⟨none, threshold⟩
      | none => .directive ⟨some only, .upTo .trace⟩
  | [target, level] =>
      let level := Text.trim level
      if level = "" then .directive ⟨some target, .upTo .trace⟩
      else
        match Threshold.ofText? level with
        | some threshold => .directive ⟨some target, threshold⟩
        | none => .invalid level
  | _ => .invalid part

def partsOf (text : String) : List Part :=
  let pieces := (Text.cutAt ',' text.toList).map fun cs => Text.trim (String.ofList cs)
  (pieces.filter (· ≠ "")).map Part.ofText

namespace Directive

/-- Bytes of the name. -/
def weight (d : Directive) : Nat :=
  (d.target.map String.utf8ByteSize).getD 0

def fits (d : Directive) (target : String) : Bool :=
  d.target.all fun start => start.toList.isPrefixOf target.toList

end Directive

namespace Filter

/-- Replaces the directive of the same name, or adds one. -/
def add (d : Directive) : Filter → Filter
  | [] => [d]
  | other :: rest => if other.target = d.target then d :: rest else other :: add d rest

def ofParts (parts : List Part) : Filter :=
  parts.foldl (fun filter part =>
    match part with
    | .directive d => add d filter
    | .invalid _ => filter) []

def errorsOnly : Filter := [⟨none, .upTo .error⟩]

/-- Of two directives that fit, the one with the longer name, the later one of equally long. -/
def closer (best : Option Directive) (d : Directive) : Option Directive :=
  match best with
  | none => some d
  | some other =>
      if other.weight ≤ d.weight then some d else some other

/-- The directives to go by. -/
def directives (filter : Filter) : List Directive :=
  if filter.isEmpty then errorsOnly else filter

/-- The directive that decides about records with this target. -/
def closest? (filter : Filter) (target : String) : Option Directive :=
  (filter.directives.filter (·.fits target)).foldl closer none

def admits (filter : Filter) (target : String) (level : Level) : Bool :=
  (filter.closest? target).any (·.threshold.admits level)

end Filter

def invalidPart (spec : String) : String :=
  s!"warning: invalid logging spec '{spec}', ignoring it"

end SurfaceGate.Log
