import ScriptSearch.Host.Regex

/-! Scripts of the stream editor: commands, each with the lines that it is for, and what can be
wrong with them. A script is a row of steps; a group of commands is a step that can be jumped
over. -/

namespace ScriptSearch.Host.Editor

/-- An expression to search for; without one, the last that was used counts. -/
structure Search where
  rule : RegexRule
  regex : Option Regex

/-- Where the lines of a command begin. -/
inductive Start
  | line (n : Nat)
  /-- Every so many lines from one on. -/
  | step (first size : Nat)
  | last
  | found (s : Search)

/-- Where the lines of a command end. -/
inductive Finish
  | line (n : Nat)
  | last
  | found (s : Search)
  /-- So many lines behind the first. -/
  | behind (n : Nat)
  /-- At a line whose number a number divides. -/
  | multiple (n : Nat)

/-- For which lines a command is. -/
structure Guard where
  start : Option Start := none
  finish : Option Finish := none
  negated : Bool := false

/-- A change of case in a replacement. -/
inductive Casing
  | upper | lower | asIs | upperNext | lowerNext
  deriving DecidableEq, Repr

/-- A part of a replacement. -/
inductive Part
  | text (s : List Char)
  /-- What a group has matched; the whole match is the group of number zero. -/
  | group (n : Nat)
  | casing (c : Casing)
  deriving Repr

structure Substitution where
  search : Search
  parts : List Part
  every : Bool := false
  /-- The first match that is replaced. -/
  number : Nat := 1
  prints : Bool := false
  evaluates : Bool := false
  file : Option String := none

inductive Action
  /-- Begins a group that ends at a step. -/
  | group (finish : Nat)
  | nothing
  | substitute (s : Substitution)
  | translate (pairs : List (Char × Char))
  | append (text : String)
  | insert (text : String)
  | change (text : String)
  | jump (label : String)
  | jumpIfChanged (label : String)
  | jumpUnlessChanged (label : String)
  | delete | deleteLine | print | printLine | next | nextAppended
  | hold | holdAppended | get | getAppended | exchange
  | number | fileName | clear
  | list (width : Option Nat)
  | quit (status : Nat) (silently : Bool)
  | readFile (name : String)
  | readLine (name : String)
  | writeFile (name : String)
  | writeLine (name : String)
  | evaluate (command : String)

structure Step where
  guard : Guard
  action : Action

structure Script where
  steps : Array Step
  labels : List (String × Nat)
  /-- Whether lines are printed only if a command says so. -/
  silent : Bool := false
  /-- How a message names the end of the script. -/
  place : String := ""

/-- What is wrong with a script. -/
inductive Flaw
  | unknownCommand (c : Char)
  | missingCommand
  | spare
  | unterminated (c : Char)
  | unterminatedSearch
  | unmatchedOpening
  | unexpectedClosing
  | closingAddressed
  | labelMissing
  | labelAddressed
  | commentAddressed
  | tooManyNegations
  | unexpectedComma
  | lineZero
  | oneAddress
  | textExpected
  | fileMissing
  | unknownOption
  | repeatedOption (c : Char)
  | repeatedNumber
  | numberZero
  | lengths
  | reference (n : Nat)
  | regex (f : Regex.Fault)
  | noLabel (name : String)
  | noSearch
  deriving DecidableEq, Repr

def Flaw.message : Flaw → String
  | unknownCommand c => "unknown command: \x60" ++ String.ofList [c] ++ "'"
  | missingCommand => "missing command"
  | spare => "extra characters after command"
  | unterminated c => "unterminated \x60" ++ String.ofList [c] ++ "' command"
  | unterminatedSearch => "unterminated address regex"
  | unmatchedOpening => "unmatched \x60\x7b'"
  | unexpectedClosing => "unexpected \x60\x7d'"
  | closingAddressed => "\x60\x7d' doesn't want any addresses"
  | labelMissing => "\":\" lacks a label"
  | labelAddressed => ": doesn't want any addresses"
  | commentAddressed => "comments don't accept any addresses"
  | tooManyNegations => "multiple \x60!'s"
  | unexpectedComma => "unexpected \x60,'"
  | lineZero => "invalid usage of line address 0"
  | oneAddress => "command only uses one address"
  | textExpected => "expected \\ after \x60a', \x60c' or \x60i'"
  | fileMissing => "missing filename in r/R/w/W commands"
  | unknownOption => "unknown option to \x60s'"
  | repeatedOption c => "multiple \x60" ++ String.ofList [c] ++ "' options to \x60s' command"
  | repeatedNumber => "multiple number options to \x60s' command"
  | numberZero => "number option to \x60s' command may not be zero"
  | lengths => "strings for \x60y' command are different lengths"
  | reference n => "invalid reference \\" ++ toString n ++ " on \x60s' command's RHS"
  | regex f => f.message
  | noSearch => "no previous regular expression"
  | noLabel name => "can't find label for jump to \x60" ++ name ++ "'"

end ScriptSearch.Host.Editor
