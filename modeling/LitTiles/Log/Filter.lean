import LitTiles.Log
import LitTiles.Pattern.Read
import LitTiles.Pattern.Search

/-!
# Filters of the log

A filter is a text of directives with commas in between. A directive names a part of the program and
the most verbose severity that is shown of it; without a part it speaks for all of them, and without
a severity everything is shown. A part is meant by every name that starts with the directive's, and
of several directives for it the longest decides; records that no directive speaks for are not
shown. The last directive for a name replaces the earlier ones. A text without directives shows
errors.

After a slash a pattern may follow; then only records are shown in whose texts it occurs. A second
slash makes the whole text unreadable.
-/

namespace LitTiles

/-- What is shown of a part of the program. -/
structure Directive where
  /-- How the names of the part start; all parts are meant if there is no name. -/
  name : Option String
  /-- The most verbose severity that is shown; nothing is shown if there is none. -/
  most : Option Severity
  deriving DecidableEq, Inhabited

namespace Directive

/-- Length of the name in bytes. -/
def reach (d : Directive) : Nat := (d.name.map (·.utf8ByteSize)).getD 0

/-- Whether a directive speaks for a part. -/
def matchesTarget (d : Directive) (target : String) : Bool :=
  match d.name with
  | none => true
  | some n => n.toList.isPrefixOf target.toList

end Directive

/-- Reads a severity, or the word for none, in small or capital letters. -/
def Severity.parse? (s : String) : Option (Option Severity) :=
  match s.toLower with
  | "off" => some none
  | "error" => some (some error)
  | "warn" => some (some warn)
  | "info" => some (some info)
  | "debug" => some (some debug)
  | "trace" => some (some trace)
  | _ => none

/-- A filter: its directives, each name once, in the order they were first given. -/
structure LogFilter where
  /-- The directives. -/
  directives : List Directive
  /-- What occurs in the texts that are shown, if that matters. -/
  pattern : Option Pattern := none
  deriving Inhabited

/-- What is wrong with the text of a filter. -/
inductive FilterError where
  /-- A directive or a severity is not known. -/
  | directive (text : String)
  /-- There is more than one slash. -/
  | slashes (text : String)
  /-- The pattern cannot be read. -/
  | pattern (message : String)
  deriving DecidableEq, Inhabited

/-- The text of an error. -/
def FilterError.message : FilterError → String
  | directive text => "invalid logging spec '" ++ text ++ "'"
  | slashes text => "invalid logging spec '" ++ text ++ "' (too many '/'s)"
  | pattern message => "invalid regex filter - " ++ message

namespace LogFilter

/-- Reads one directive; an error is the text that could not be read. -/
def readDirective (cs : List Char) : Except String Directive :=
  match parts '=' cs with
  | [name] =>
    match Severity.parse? (String.ofList name) with
    | some most => .ok ⟨none, most⟩
    | none => .ok ⟨some (String.ofList name), some .trace⟩
  | [name, severity] =>
    let severity := String.ofList (trim severity)
    if severity = "" then .ok ⟨some (String.ofList name), some .trace⟩
    else
      match Severity.parse? severity with
      | some most => .ok ⟨some (String.ofList name), most⟩
      | none => .error severity
  | _ => .error (String.ofList cs)

/-- Adds a directive, or replaces the one of the same name. -/
def insert (d : Directive) : List Directive → List Directive
  | [] => [d]
  | e :: es => if e.name = d.name then d :: es else e :: insert d es

/-- Reads directives with commas in between, and the texts that could not be read. -/
def readDirectives (text : List Char) : List Directive × List String :=
  ((parts ',' text).map trim).foldl
    (fun (ds, bad) cs =>
      if cs.isEmpty then (ds, bad)
      else
        match readDirective cs with
        | .ok d => (insert d ds, bad)
        | .error e => (ds, bad ++ [e]))
    ([], [])

/-- The filter of directives and a pattern; errors are shown if there are no directives. -/
def ofDirectives (ds : List Directive) (pattern : Option Pattern) : LogFilter where
  directives := if ds.isEmpty then [⟨none, some .error⟩] else ds
  pattern := pattern

/-- Reads a filter. Also answers what was wrong with the text; what is wrong is left out. -/
def read (text : String) : LogFilter × List FilterError :=
  match parts '/' text.toList with
  | [directives] =>
    let (ds, bad) := readDirectives directives
    (ofDirectives ds none, bad.map .directive)
  | [directives, pattern] =>
    let (ds, bad) := readDirectives directives
    match Pattern.read (String.ofList pattern) with
    | .ok p => (ofDirectives ds (some p), bad.map .directive)
    | .error e => (ofDirectives ds none, bad.map .directive ++ [.pattern e])
  | _ => (ofDirectives [] none, [.slashes text])

/-- The directive that decides about a part: a longest one, and of those the last. -/
def decisive? (f : LogFilter) (target : String) : Option Directive :=
  (f.directives.filter (·.matchesTarget target)).foldl
    (fun best d =>
      match best with
      | some b => if b.reach ≤ d.reach then some d else some b
      | none => some d)
    none

/-- Whether a record is shown. -/
def passes (f : LogFilter) (r : Record) : Bool :=
  match f.decisive? r.speaker.target with
  | some d => r.severity.passes d.most && f.pattern.all (·.occursIn r.text)
  | none => false

/-- The most verbose severity that is shown of any part. -/
def most (f : LogFilter) : Option Severity :=
  f.directives.foldl
    (fun best d =>
      match best, d.most with
      | some b, some s => if b.rank < s.rank then some s else some b
      | none, s => s
      | b, none => b)
    none

end LogFilter

end LitTiles
