import KeyDirectory.Settings.ValuePattern
import KeyDirectory.Text.Alphanumeric
import KeyDirectory.Text.Blank
import KeyDirectory.Text.Number
import KeyDirectory.Text.Split
import KeyDirectory.Text.Utf8

/-!
# Log filters

Which log lines are shown: a level for everything, and levels for targets whose names start in
a given way, of which the longest counts.  A rule may also ask for a span or for fields.
-/

namespace KeyDirectory

/-- How important a log line is. -/
inductive LogLevel where
  | error
  | warn
  | info
  | debug
  | trace
  deriving DecidableEq, Repr

namespace LogLevel

/-- The position in the order of levels, the most important first. -/
def rank : LogLevel → Nat
  | error => 1
  | warn => 2
  | info => 3
  | debug => 4
  | trace => 5

/-- The word that log lines show. -/
def text : LogLevel → String
  | error => "ERROR"
  | warn => "WARN"
  | info => "INFO"
  | debug => "DEBUG"
  | trace => "TRACE"

end LogLevel

/-- What a rule says about a field of a line: its name and perhaps a value that is asked for. -/
structure LogField where
  name : String
  value : Option String
  deriving DecidableEq, Repr

/-- A rule of a filter: up to which rank some lines are shown. -/
structure LogRule where
  /-- What the names of the targets start with. -/
  target : String
  /-- The span within which lines are meant, when there is one. -/
  span : Option String
  /-- The fields that lines must have. -/
  fields : List LogField
  rank : Nat
  deriving DecidableEq, Repr

/-- The rule that shows every line. -/
def LogRule.everything : LogRule := ⟨"", none, [], LogLevel.trace.rank⟩

/-- The rules of a filter. -/
structure LogFilter where
  rules : List LogRule
  deriving DecidableEq, Repr

namespace LogFilter

/-- Why a rule cannot be read. -/
inductive RuleFault where
  /-- It has not the form of a rule. -/
  | badRule
  /-- The level after the equals sign is none. -/
  | badLevel
  /-- The value of a field is no pattern. -/
  | badValue (fault : Settings.ValuePattern.Fault)
  deriving DecidableEq, Repr

/-- The wording of a fault. -/
def RuleFault.text : RuleFault → String
  | badRule => "invalid filter directive"
  | badLevel =>
    "error parsing level filter: expected one of \"off\", \"error\", \"warn\", \"info\", " ++
      "\"debug\", \"trace\", or a number 0-5"
  | badValue fault => "invalid field filter: " ++ fault.text

/-- The rank up to which a level shows lines: a word in any case, or a number. -/
def rankOf? (level : String) : Option Nat :=
  match Text.readNatural? 5 level.toList, String.ofList (level.toList.map Char.toLower) with
  | some rank, _ => some rank
  | none, "off" => some 0
  | none, "error" => some 1
  | none, "warn" => some 2
  | none, "info" => some 3
  | none, "debug" => some 4
  | none, "trace" => some 5
  | none, _ => none

/-! ## Rules

A rule is a level, or a target, spans in brackets with fields in braces, and a level after an
equals sign, of which each part may be missing. -/

/-- The characters that a rule without brackets in front may start with. -/
def isTargetChar (c : Char) : Bool :=
  Text.isAlphanumeric c || c = '_' || c = ':' || c = '-'

/-- Where in a rule the reader stands; the numbers are the positions at which a part begins. -/
inductive Place where
  | start
  /-- In a level or a target. -/
  | opening (first : Nat)
  | span (first : Nat)
  | field (first : Nat)
  /-- After the brace that ends a field. -/
  | afterField
  /-- After a bracket that ends a span. -/
  | afterSpan
  | level (first : Nat)
  deriving DecidableEq, Repr

/-- A field as a rule names it; a value must be a pattern. -/
def readField (s : String) : Except RuleFault LogField :=
  match Text.splitText '=' s with
  | name :: value :: _ =>
    match Settings.ValuePattern.fault? value.toList with
    | some fault => .error (.badValue fault)
    | none => .ok ⟨name, some value⟩
  | _ => if s.isEmpty then .error .badRule else .ok ⟨s, none⟩

/-- The rule with a level; an empty level is the least important one. -/
def withLevel (r : LogRule) (level : String) : Except RuleFault LogRule :=
  if level.isEmpty then .ok { r with rank := LogLevel.trace.rank }
  else
    match rankOf? level with
    | some rank => .ok { r with rank := rank }
    | none => .error .badLevel

/-- The rule that is a level or else a target. -/
def ofWord (word : String) : LogRule :=
  match rankOf? word with
  | some rank => { LogRule.everything with rank := rank }
  | none => { LogRule.everything with target := word }

/-- Takes the character at the position `here`; `part` gives the text between two positions. -/
def take (part : Nat → Nat → String) (r : LogRule) (p : Place) (here : Nat) (c : Char) :
    Except RuleFault (LogRule × Place) :=
  match p with
  | .start =>
    if c = '[' then .ok (r, .span (here + 1))
    else if isTargetChar c then .ok (r, .opening here)
    else .error .badRule
  | .opening first =>
    if c = '=' then .ok ({ r with target := part first here }, .level (here + 1))
    else if c = '[' then .ok ({ r with target := part first here }, .span (here + 1))
    else .ok (r, p)
  | .span first =>
    if c = ']' then .ok ({ r with span := some (part first here) }, .afterSpan)
    else if c = '\x7b' then
      let name := part first here
      .ok ({ r with span := if name.isEmpty then none else some name }, .field (here + 1))
    else .ok (r, p)
  | .field first =>
    if c = '\x7d' then do
      let field ← readField (part first here)
      return ({ r with fields := r.fields ++ [field] }, .afterField)
    else .ok (r, p)
  | .afterField => if c = ']' then .ok (r, .afterSpan) else .error .badRule
  | .afterSpan =>
    if c = '=' then .ok (r, .level (here + 1))
    else if c = '[' then .ok (r, .span (here + 1))
    else .ok (r, p)
  | .level _ => .ok (r, p)

/-- Takes characters from the position `here` on, and what is left at the end. -/
def takeAll (part : Nat → Nat → String) (size : Nat) (r : LogRule) (p : Place) (here : Nat) :
    List Char → Except RuleFault LogRule
  | [] =>
    match p with
    | .opening first => .ok (ofWord (part first size))
    | .level first => withLevel r (part first size)
    | .afterSpan => .ok r
    | .start | .span _ | .field _ | .afterField => .error .badRule
  | c :: rest => do
    let (r, p) ← take part r p here c
    takeAll part size r p (here + c.utf8Size) rest

/-- A rule.  Blanks around it are passed over while its form is read, but the positions of its
parts are counted as though they were not there, so that a rule after a blank names other
targets than it shows. -/
def readRule (s : String) : Except RuleFault LogRule :=
  let bytes := Text.Utf8.encode s.toList
  let part (first last : Nat) : String :=
    String.ofList (Text.Utf8.decodeLossy ((bytes.drop first).take (last - first)))
  takeAll part bytes.length .everything .start 0 (Text.trim s.toList)

/-- The texts of the rules of a filter. -/
def ruleTexts (s : String) : List String :=
  (Text.splitText ',' s).filter fun rule => !rule.isEmpty

/-- The filter without rules shows errors. -/
def ofRules (rules : List LogRule) : LogFilter :=
  ⟨if rules.isEmpty then [{ LogRule.everything with rank := LogLevel.error.rank }] else rules⟩

/-- The filter of a text of which every rule can be read. -/
def parse? (s : String) : Option LogFilter :=
  ((ruleTexts s).mapM fun rule => (readRule rule).toOption).map ofRules

/-- The filter of the rules of a text that can be read, and the others with their faults. -/
def parseLossy (s : String) : LogFilter × List (String × RuleFault) :=
  let rules := (ruleTexts s).map fun text => (text, readRule text)
  (ofRules (rules.filterMap fun (_, rule) => rule.toOption),
    rules.filterMap fun (text, rule) =>
      match rule with
      | .error fault => some (text, fault)
      | .ok _ => none)

/-! ## Lines -/

/-- The one field that every line has. -/
def messageField : LogField := ⟨"message", none⟩

/-- Whether a rule is about the lines of a target.  Lines are in no span, and no value of theirs
is looked at. -/
def concerns (r : LogRule) (target : String) : Bool :=
  target.startsWith r.target && r.span.isNone && r.fields.all (· = messageField)

/-- Whether the first of two rules says more about which lines it means. -/
def isNarrower (r s : LogRule) : Bool :=
  s.target.length < r.target.length ||
    (s.target.length = r.target.length && s.fields.length < r.fields.length)

/-- Whether a line of the given target and level is shown: the narrowest rule about it decides,
and of several the last. -/
def shows (f : LogFilter) (target : String) (level : LogLevel) : Bool :=
  let deciding := (f.rules.filter (concerns · target)).foldl (fun best r =>
    match best with
    | some b => if isNarrower b r then some b else some r
    | none => some r) none
  match deciding with
  | some r => level.rank ≤ r.rank
  | none => false

end LogFilter

end KeyDirectory
