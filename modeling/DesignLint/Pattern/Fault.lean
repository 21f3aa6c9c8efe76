import DesignLint.Text.Quoted

/-! # Faults of patterns -/

namespace DesignLint.Pattern

inductive Cause
  | danglingEscape
  | badEscape (escape : String)
  | incompleteEscape (escape : String)
  | octalRange (escape : String)
  | missingBrace
  | unknownCharacter (name : String)
  | missingName (what : String)
  | unfinishedName (terminator : Char)
  | badName (name : String)
  | unknownName (name : String)
  | repeatedName (name : String) (group earlier : Nat)
  | badGroupNumber
  | unknownGroup (group : Nat)
  | openGroup
  | groupInLookbehind
  | unfinishedSet
  | badRange (first last : String)
  | nothingToRepeat
  | repeatedRepeat
  | emptyRepeat
  | unknownExtension (text : String)
  | unfinishedComment
  | unfinishedGroup
  | strayParenthesis
  | endOfPattern
  | thirdBranch
  | lateFlags
  | unknownFlag
  | missingFlag
  | missingFlagEnd
  | missingColon
  | localeFlag
  | conflictingFlags
  | globalFlagOn
  | globalFlagOff
  | typeFlagOff
  | flagOnAndOff
  | variableLookbehind
  | templateLoop (operator : String)

def Cause.text : Cause → String
  | danglingEscape => "bad escape (end of pattern)"
  | badEscape e => "bad escape " ++ e
  | incompleteEscape e => "incomplete escape " ++ e
  | octalRange e => "octal escape value " ++ e ++ " outside of range 0-0o377"
  | missingBrace => "missing \x7b"
  | unknownCharacter n => "undefined character name " ++ Text.quoted n
  | missingName what => "missing " ++ what
  | unfinishedName t => "missing " ++ t.toString ++ ", unterminated name"
  | badName n => "bad character in group name " ++ Text.quoted n
  | unknownName n => "unknown group name " ++ Text.quoted n
  | repeatedName n group earlier =>
    "redefinition of group name " ++ Text.quoted n ++ " as group " ++ toString group ++
      "; was group " ++ toString earlier
  | badGroupNumber => "bad group number"
  | unknownGroup g => "invalid group reference " ++ toString g
  | openGroup => "cannot refer to an open group"
  | groupInLookbehind => "cannot refer to group defined in the same lookbehind subpattern"
  | unfinishedSet => "unterminated character set"
  | badRange a b => "bad character range " ++ a ++ "-" ++ b
  | nothingToRepeat => "nothing to repeat"
  | repeatedRepeat => "multiple repeat"
  | emptyRepeat => "min repeat greater than max repeat"
  | unknownExtension t => "unknown extension ?" ++ t
  | unfinishedComment => "missing ), unterminated comment"
  | unfinishedGroup => "missing ), unterminated subpattern"
  | strayParenthesis => "unbalanced parenthesis"
  | endOfPattern => "unexpected end of pattern"
  | thirdBranch => "conditional backref with more than two branches"
  | lateFlags => "global flags not at the start of the expression"
  | unknownFlag => "unknown flag"
  | missingFlag => "missing flag"
  | missingFlagEnd => "missing -, : or )"
  | missingColon => "missing :"
  | localeFlag => "bad inline flags: cannot use 'L' flag with a str pattern"
  | conflictingFlags => "bad inline flags: flags 'a', 'u' and 'L' are incompatible"
  | globalFlagOn => "bad inline flags: cannot turn on global flag"
  | globalFlagOff => "bad inline flags: cannot turn off global flag"
  | typeFlagOff => "bad inline flags: cannot turn off flags 'a', 'u' and 'L'"
  | flagOnAndOff => "bad inline flags: flag turned on and off"
  | variableLookbehind => "look-behind requires fixed-width pattern"
  | templateLoop o => "internal: unsupported template operator " ++ o

inductive Fault
  /-- A fault, and its offset unless it concerns the whole pattern. -/
  | broken (cause : Cause) (offset : Option Nat)
  | hugeRepeat

/-- The text of a fault in a pattern. Line and column are named only in a pattern of several
lines. -/
def describe (pattern : String) (cause : Cause) : Option Nat → String
  | none => cause.text
  | some offset =>
    let text := pattern.toList
    let before := text.take offset
    let line := before.count '\n' + 1
    let column := (before.reverse.takeWhile (· ≠ '\n')).length + 1
    cause.text ++ " at position " ++ toString offset ++
      if text.contains '\n' then
        " (line " ++ toString line ++ ", column " ++ toString column ++ ")"
      else ""

end DesignLint.Pattern
