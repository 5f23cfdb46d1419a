import Hashgraph.Document.Json
import Hashgraph.Settings.PatternNesting
import Hashgraph.Unicode.Class

/-! Patterns for the values of fields: regular expressions for which no tables of Unicode are at hand. What needs
such a table is refused: classes such as digits or letters of all scripts, and any text whose case does not
matter. Without Unicode such classes are those of ASCII. -/

namespace Hashgraph.FieldPattern

/-- What flags have set: whether case matters, whether a pattern is about Unicode, and whether blanks and
comments do not count. -/
structure Mode where
  caseless : Bool
  unicode : Bool
  spaced : Bool

def Mode.default : Mode := ⟨false, true, false⟩

def skipFiller : Nat → List Char → List Char
  | 0, text => text
  | fuel + 1, text =>
      match text.dropWhile Unicode.isWhiteSpace with
      | '#' :: rest => skipFiller fuel (rest.dropWhile (· ≠ '\n'))
      | text => text

def Mode.skip (mode : Mode) (text : List Char) : List Char :=
  if mode.spaced then skipFiller (text.length + 1) text else text

/-! ### Escapes -/

inductive Escape where
  | literal (c : Char)
  | byte (c : Char)
  | shorthand (negated : Bool)
  | wordEdge
  | textEdge

def hexChar? (count : Nat) (mode : Mode) (text : List Char) : Option (Char × List Char) :=
  go count 0 (mode.skip text)
where
  go : Nat → Nat → List Char → Option (Char × List Char)
    | 0, value, rest => if value.isValidChar then some (Char.ofNat value, rest) else none
    | _ + 1, _, [] => none
    | count + 1, value, c :: rest =>
        match Json.hexValue? c with
        | some digit => go count (value * 16 + digit) (mode.skip rest)
        | none => none

def isEscapable (c : Char) : Bool := c ≤ '\x7f' && !c.isAlphanum && c ≠ '<' && c ≠ '>'

def readEscape (mode : Mode) : List Char → Option (Escape × List Char)
  | [] => none
  | 'x' :: rest => (hexChar? 2 mode rest).map fun (c, rest) => (.byte c, rest)
  | 'u' :: rest => (hexChar? 4 mode rest).map fun (c, rest) => (.literal c, rest)
  | 'U' :: rest => (hexChar? 8 mode rest).map fun (c, rest) => (.literal c, rest)
  | c :: rest =>
      if "dsw".contains c then some (.shorthand false, rest)
      else if "DSW".contains c then some (.shorthand true, rest)
      else if "bB<>".contains c then some (.wordEdge, rest)
      else if "Az".contains c then some (.textEdge, rest)
      else
        match c with
        | 'a' => some (.literal '\x07', rest)
        | 'f' => some (.literal '\x0c', rest)
        | 't' => some (.literal '\t', rest)
        | 'n' => some (.literal '\n', rest)
        | 'r' => some (.literal '\x0d', rest)
        | 'v' => some (.literal '\x0b', rest)
        | _ => if isEscapable c then some (.literal c, rest) else none

/-! ### What a mode admits -/

def Mode.admitsText (mode : Mode) : Bool := !(mode.unicode && mode.caseless)

def Mode.admitsNamed (mode : Mode) (negated : Bool) : Bool := if mode.unicode then !mode.caseless else !negated

def Mode.admits (mode : Mode) : Escape → Bool
  | .literal _ => mode.admitsText
  | .byte c => mode.admitsText && (mode.unicode || c ≤ '\x7f')
  | .shorthand negated => !mode.unicode && !negated
  | .wordEdge => !mode.unicode
  | .textEdge => true

/-! ### Classes in brackets -/

def classNames : List String :=
  ["alnum", "alpha", "ascii", "blank", "cntrl", "digit", "graph", "lower", "print", "punct", "space", "upper",
    "word", "xdigit"]

def readNamed (text : List Char) : Option (Bool × List Char) :=
  match text with
  | ':' :: rest =>
      let (negated, rest) : Bool × List Char :=
        match rest with
        | '^' :: rest => (true, rest)
        | rest => (false, rest)
      let name := rest.takeWhile (· ≠ ':')
      match rest.drop name.length with
      | ':' :: ']' :: rest => if String.ofList name ∈ classNames then some (negated, rest) else none
      | _ => none
  | _ => none

def readMember (mode : Mode) (text : List Char) : Option (Option Char × List Char) :=
  match text with
  | [] => none
  | '\\' :: rest =>
      match readEscape mode rest with
      | some (.literal c, rest) => member? c rest
      | some (.byte c, rest) => member? c rest
      | some (.shorthand negated, rest) => if mode.admits (.shorthand negated) then some (none, rest) else none
      | _ => none
  | c :: rest => member? c rest
where
  member? (c : Char) (rest : List Char) : Option (Option Char × List Char) :=
    if mode.admitsText && (mode.unicode || c ≤ '\x7f') then some (some c, rest) else none

/-- A member, or two with a hyphen between them. A hyphen before a closing bracket or another one is none of
these. -/
def readRange (mode : Mode) (text : List Char) : Option (List Char) :=
  match readMember mode text with
  | none => none
  | some (first, rest) =>
      match mode.skip rest with
      | '-' :: behind =>
          let next := mode.skip behind
          if next.head? = some ']' || next.head? = some '-' then some ('-' :: behind)
          else
            match first, readMember mode next with
            | some first, some (some last, rest) => if first ≤ last then some rest else none
            | _, _ => none
      | rest => some rest

def opened? (nesting : ClassNesting) (text : List Char) : Option (ClassNesting × List Char) :=
  if text.isEmpty then none else some (nesting, text)

def openClass (mode : Mode) (text : List Char) : Option (ClassNesting × List Char) :=
  match mode.skip text with
  | '^' :: rest => if mode.unicode then leading (mode.skip rest) else none
  | rest => leading rest
where
  hyphens : Nat → Nat → List Char → Option (ClassNesting × List Char)
    | fuel + 1, count, '-' :: rest => hyphens fuel (count + 1) (mode.skip rest)
    | _, count, text => opened? (.ofCount count) text
  leading (text : List Char) : Option (ClassNesting × List Char) :=
    match text with
    | '-' :: _ => if mode.admitsText then hyphens text.length 0 text else none
    | ']' :: rest => if mode.admitsText then opened? (.ofCount 1) (mode.skip rest) else none
    | rest => opened? (.ofCount 0) rest

/-- Reads classes, the innermost in front, up to the bracket that closes the outermost one. Returns its depth. -/
def readClass : Nat → Mode → ClassNesting → List ClassNesting → List Char → Option (Nat × List Char)
  | 0, _, _, _, _ => none
  | fuel + 1, mode, inner, outer, text =>
      match mode.skip text with
      | [] => none
      | '[' :: rest =>
          match readNamed rest with
          | some (negated, rest) =>
              if mode.admitsNamed negated then readClass fuel mode (inner.add 0) outer rest else none
          | none => (openClass mode rest).bind fun (opened, rest) => readClass fuel mode opened (inner :: outer) rest
      | ']' :: rest =>
          match outer with
          | [] => some (inner.depth, rest)
          | next :: outer => readClass fuel mode (next.add inner.depth) outer rest
      | '&' :: '&' :: rest => readClass fuel mode inner.operate outer rest
      | '-' :: '-' :: rest => readClass fuel mode inner.operate outer rest
      | '~' :: '~' :: rest => readClass fuel mode inner.operate outer rest
      | text => (readRange mode text).bind (readClass fuel mode (inner.add 0) outer)

/-! ### Groups -/

def Mode.set (mode : Mode) (flag : Char) (value : Bool) : Mode :=
  match flag with
  | 'i' => { mode with caseless := value }
  | 'u' => { mode with unicode := value }
  | 'x' => { mode with spaced := value }
  | _ => mode

/-- Flags up to a colon or a closing bracket, each of them once. A hyphen turns off those behind it. -/
def readFlags (mode : Mode) : List Char → List Char → Option (Mode × Bool × List Char)
  | _, [] => none
  | seen, c :: rest =>
      if c = ':' || c = ')' then if seen.head? = some '-' then none else some (mode, c = ':', rest)
      else if c ∈ seen || !"imsUuRx-".contains c then none
      else readFlags (mode.set c !(seen.contains '-')) (c :: seen) rest

def isGroupNameChar (isFirst : Bool) (c : Char) : Bool :=
  c = '_' || (if isFirst then Unicode.isAlphabetic c else Unicode.isAlphanumeric c || ".[]".contains c)

def readGroupName (names : List String) (text : List Char) : Option (String × List Char) :=
  let name := text.takeWhile (· ≠ '>')
  match name, text.drop name.length with
  | first :: others, _ :: rest =>
      if isGroupNameChar true first && others.all (isGroupNameChar false) && !names.contains (String.ofList name) then
        some (String.ofList name, rest)
      else none
  | _, _ => none

/-- What opens a group behind its bracket: the mode in it, whether it is more than a change of the mode, and
the names known then. -/
def readOpening (mode : Mode) (names : List String) (text : List Char) :
    Option (Mode × Bool × List String × List Char) :=
  match mode.skip text with
  | '?' :: 'P' :: '<' :: rest => named rest
  | '?' :: '<' :: rest => named rest
  | '?' :: ')' :: _ => none
  | '?' :: rest => (readFlags mode [] rest).map fun (mode, isGroup, rest) => (mode, isGroup, names, rest)
  | rest => some (mode, true, names, rest)
where
  named (text : List Char) : Option (Mode × Bool × List String × List Char) :=
    (readGroupName names text).map fun (name, rest) => (mode, true, name :: names, rest)

/-! ### Patterns -/

def nestingLimit : Nat := 250

/-- What is known at some point of a pattern: the mode and what has been read of the innermost group, the same
for the groups around it, whether something stands before that can be repeated, and the names of groups. -/
structure State where
  mode : Mode
  nesting : GroupNesting
  outer : List (Mode × GroupNesting)
  repeatable : Bool
  names : List String

namespace State

def start : State := ⟨.default, .empty, [], false, []⟩

def add (state : State) (depth : Nat) : State := { state with nesting := state.nesting.add depth, repeatable := true }

def repeatLast (state : State) : State := { state with nesting := state.nesting.repeatLast }

def endBranch (state : State) : State := { state with nesting := state.nesting.endBranch, repeatable := false }

def change (state : State) (mode : Mode) : State :=
  { state with mode := mode, nesting := state.nesting.add 0, repeatable := false }

def openGroup (state : State) (mode : Mode) (names : List String) : State :=
  ⟨mode, .empty, (state.mode, state.nesting) :: state.outer, false, names⟩

def closeGroup? (state : State) : Option State :=
  match state.outer with
  | [] => none
  | (mode, nesting) :: outer => some ⟨mode, nesting.add (state.nesting.depth + 1), outer, true, state.names⟩

def isComplete (state : State) : Bool := state.outer.isEmpty && state.nesting.depth ≤ nestingLimit

end State

def readPart (state : State) (text : List Char) : Option (State × List Char) :=
  let mode := state.mode
  match text with
  | [] => none
  | '(' :: rest =>
      (readOpening mode state.names rest).map fun (inner, isGroup, names, rest) =>
        (if isGroup then state.openGroup inner names else state.change inner, rest)
  | ')' :: rest => state.closeGroup?.map fun state => (state, rest)
  | '|' :: rest => some (state.endBranch, rest)
  | '[' :: rest =>
      (openClass mode rest).bind fun (opened, rest) =>
        (readClass (rest.length + 1) mode opened [] rest).map fun (depth, rest) => (state.add depth, rest)
  | '\\' :: rest =>
      (readEscape mode rest).bind fun (escape, rest) => if mode.admits escape then some (state.add 0, rest) else none
  | c :: rest =>
      if "?*+".contains c then
        let rest :=
          match rest with
          | '?' :: rest => rest
          | rest => rest
        if state.repeatable then some (state.repeatLast, rest) else none
      else
        let isAdmitted := if c = '.' then mode.unicode else c = '^' || c = '$' || (c ≠ '\x7b' && mode.admitsText)
        if isAdmitted then some (state.add 0, rest) else none

def isRestValid : Nat → State → List Char → Bool
  | 0, _, _ => false
  | fuel + 1, state, text =>
      match state.mode.skip text with
      | [] => state.isComplete
      | text =>
          match readPart state text with
          | some (state, rest) => isRestValid fuel state rest
          | none => false

def isValid (text : List Char) : Bool := isRestValid (text.length + 1) .start text

end Hashgraph.FieldPattern
