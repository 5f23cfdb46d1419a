import Hashgraph.Document.Number
import Hashgraph.Settings.FieldPattern

/-! The grammar of log filters: directives with commas between them, each naming a level, or a target and a
span with fields in braces, perhaps followed by a level.

A directive is walked through without the blanks at its ends, but what it names is cut out of the text with
those blanks, at the same distances in bytes. Such a cut may go through a character. -/

namespace Hashgraph.LogFilter

inductive Verdict where
  | valid
  | invalid
  | torn
deriving DecidableEq

/-! ### Cutting by bytes -/

def drop? : Nat → List Char → Option (List Char)
  | 0, text => some text
  | _ + 1, [] => none
  | count + 1, c :: rest => if c.utf8Size ≤ count + 1 then drop? (count + 1 - c.utf8Size) rest else none
termination_by _ text => text.length

def take? : Nat → List Char → Option (List Char)
  | 0, _ => some []
  | _ + 1, [] => none
  | count + 1, c :: rest =>
      if c.utf8Size ≤ count + 1 then (take? (count + 1 - c.utf8Size) rest).map (c :: ·) else none
termination_by _ text => text.length

def cut? (text : List Char) (first last : Nat) : Option (List Char) := (drop? first text).bind (take? (last - first))

/-! ### Parts of a directive -/

def levelNames : List String := ["off", "error", "warn", "info", "debug", "trace"]

def isLevel (text : List Char) : Bool :=
  text.isEmpty || NumberText.lowerAscii (String.ofList text) ∈ levelNames ||
    (NumberText.word64? (String.ofList text)).any fun number => number ≤ 5

/-- Letters and digits of any script begin a target, and so do a hyphen, a colon and an underscore. -/
def startsTarget (c : Char) : Bool := c = '-' || c = ':' || c = '_' || Unicode.isAlphanumeric c

def isFieldValue (text : List Char) : Bool :=
  String.ofList text = "true" || String.ofList text = "false" || (NumberText.float? (String.ofList text)).isSome ||
    FieldPattern.isValid text

def isField (text : List Char) : Bool :=
  match text.splitOn '=' with
  | _ :: value :: _ => isFieldValue value
  | _ => !text.isEmpty

/-! ### Walking through a directive -/

inductive Part where
  | start
  | target
  | span (first : Nat)
  | field (first : Nat)
  | behindFields
  | behindSpan
  | level (first : Nat)

def close (text : List Char) (first last : Nat) (accepts : List Char → Bool) (next : Part) : Except Verdict Part :=
  match cut? text first last with
  | some part => if accepts part then .ok next else .error .invalid
  | none => .error .torn

def step (text : List Char) (position : Nat) (c : Char) : Part → Except Verdict Part
  | .start => if c = '[' then .ok (.span (position + 1)) else if startsTarget c then .ok .target else .error .invalid
  | .target =>
      if c = '=' then close text 0 position (fun _ => true) (.level (position + 1))
      else if c = '[' then close text 0 position (fun _ => true) (.span (position + 1))
      else .ok .target
  | .span first =>
      if c = ']' then close text first position (fun _ => true) .behindSpan
      else if c = '\x7b' then close text first position (fun _ => true) (.field (position + 1))
      else .ok (.span first)
  | .field first =>
      if c = '\x7d' then close text first position isField .behindFields else .ok (.field first)
  | .behindFields => if c = ']' then .ok .behindSpan else .error .invalid
  | .behindSpan => if c = '=' then .ok (.level (position + 1)) else .error .invalid
  | .level first => .ok (.level first)

def walk (text : List Char) : Nat → Part → List Char → Except Verdict Part
  | _, part, [] => .ok part
  | position, part, c :: rest =>
      match step text position c part with
      | .ok part => walk text (position + c.utf8Size) part rest
      | .error verdict => .error verdict

def directiveVerdict (text : List Char) : Verdict :=
  match walk text 0 .start (Unicode.trim text) with
  | .error verdict => verdict
  | .ok .target => .valid
  | .ok .behindSpan => .valid
  | .ok (.level first) =>
      match drop? first text with
      | some level => if isLevel level then .valid else .invalid
      | none => .torn
  | .ok _ => .invalid

def verdict (text : String) : Verdict :=
  let directives := (text.toList.splitOn ',').filter fun directive => !directive.isEmpty
  ((directives.map directiveVerdict).find? (· ≠ .valid)).getD .valid

end Hashgraph.LogFilter
