import Inflection.Text.Blank
import Inflection.Pattern.Expr

/-!
# Flags of patterns

Flags change how the rest of a group is read.  A group can set and clear them,
as in `(?i-s:…)`, and a directive such as `(?x)` changes them up to the end of
the group that it stands in.

With the flag `x`, blank characters and comments from `#` to the end of the line
may stand between the parts of a pattern.  They are called layout here.
-/

namespace Inflection.Pattern

open Inflection.Text

/-- The flags that a pattern can set. -/
inductive Flag where
  | ignoreCase
  | multiLine
  | dotMatchesLineEnd
  | swapGreed
  | unicode
  | returns
  | layout
  deriving DecidableEq, Repr

/-- The flag that a letter stands for. -/
def Flag.ofChar? : Char → Option Flag
  | 'i' => some .ignoreCase
  | 'm' => some .multiLine
  | 's' => some .dotMatchesLineEnd
  | 'U' => some .swapGreed
  | 'u' => some .unicode
  | 'R' => some .returns
  | 'x' => some .layout
  | _ => none

/-- Which flags are set. -/
structure Flags where
  ignoreCase : Bool := false
  multiLine : Bool := false
  dotMatchesLineEnd : Bool := false
  swapGreed : Bool := false
  unicode : Bool := true
  returns : Bool := false
  layout : Bool := false
  deriving DecidableEq, Repr

namespace Flags

/-- Sets or clears one flag. -/
def set (flags : Flags) (flag : Flag) (value : Bool) : Flags :=
  match flag with
  | .ignoreCase => { flags with ignoreCase := value }
  | .multiLine => { flags with multiLine := value }
  | .dotMatchesLineEnd => { flags with dotMatchesLineEnd := value }
  | .swapGreed => { flags with swapGreed := value }
  | .unicode => { flags with unicode := value }
  | .returns => { flags with returns := value }
  | .layout => { flags with layout := value }

/-- Sets and clears some flags. -/
def setAll (flags : Flags) (settings : List (Flag × Bool)) : Flags :=
  settings.foldl (fun flags setting => flags.set setting.1 setting.2) flags

end Flags

/-- What a list of flags ends with. -/
inductive FlagsEnd where
  /-- A closing parenthesis: the flags hold for the rest of the group
  around them. -/
  | directive
  /-- A colon: the flags hold in the group that starts with them. -/
  | group
  deriving DecidableEq, Repr

/-- Reads flags up to a colon or a closing parenthesis.  Flags behind a hyphen
are cleared.  There is at most one hyphen, it is not the last sign, and no flag
comes twice. -/
def readFlags :
    (cleared lastIsHyphen : Bool) → List (Flag × Bool) → List Char →
      Option (List (Flag × Bool) × FlagsEnd × List Char)
  | _, _, _, [] => none
  | cleared, lastIsHyphen, settings, char :: rest =>
    if char == ')' || char == ':' then
      if lastIsHyphen then none
      else some (settings.reverse, if char == ')' then .directive
        else .group, rest)
    else if char == '-' then
      if cleared then none else readFlags true true settings rest
    else
      match Flag.ofChar? char with
      | none => none
      | some flag =>
        if settings.any fun setting => setting.1 == flag then none
        else readFlags cleared false ((flag, !cleared) :: settings) rest

/-- Drops layout at the start; the first argument tells whether a
comment is open. -/
def dropLayout : Bool → List Char → List Char
  | _, [] => []
  | true, char :: rest => dropLayout (char != '\n') rest
  | false, char :: rest =>
    if isBlank char then dropLayout false rest
    else if char == '#' then dropLayout true rest
    else char :: rest

/-- Reads a run of accepted characters and skips the layout between and
behind them. -/
def runWithLayout
    (accepts : Char → Bool) :
    Bool → List Char → List Char × List Char
  | _, [] => ([], [])
  | true, char :: rest => runWithLayout accepts (char != '\n') rest
  | false, char :: rest =>
    if isBlank char then runWithLayout accepts false rest
    else if char == '#' then runWithLayout accepts true rest
    else if accepts char then
      let (run, rest) := runWithLayout accepts false rest
      (char :: run, rest)
    else ([], char :: rest)

namespace Flags

/-- Drops layout where it is allowed. -/
def skip (flags : Flags) (chars : List Char) : List Char :=
  if flags.layout then dropLayout false chars else chars

/-- Reads a run of accepted characters, with layout between and behind them
where it is allowed. -/
def run
    (flags : Flags)
    (accepts : Char → Bool)
    (chars : List Char) :
    List Char × List Char :=
  if flags.layout then runWithLayout accepts false chars else chars.span accepts

end Flags

end Inflection.Pattern
