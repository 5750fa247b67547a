import NetworkPortal.Text.Percent

/-! # Writing quoted text

The plainest form that holds a text without escapes is taken: a basic string, a literal one, and
then either of them on several lines. What none of them holds is escaped.
-/
namespace NetworkPortal.Toml.Quoted

open Text.Percent (hexDigit)

def longestRun (c : Char) : Nat → List Char → Nat
  | run, [] => run
  | run, d :: rest =>
    if d = c then longestRun c (run + 1) rest else max run (longestRun c 0 rest)

/-- A control character that no form holds as it is. -/
def needsEscape (c : Char) : Bool :=
  (c.toNat < 32 && c != '\t' && c != '\n') || c.toNat == 127

inductive Form where
  | basic
  | literal
  | basicLines
  | literalLines
  deriving DecidableEq

def Form.ofText (text : List Char) : Form :=
  let escapes := text.any needsEscape
  let backslash := text.any (· = '\\')
  let lines := text.any (· = '\n')
  let doubles := longestRun '"' 0 text
  let singles := longestRun '\x27' 0 text
  if !escapes && !backslash && doubles == 0 && !lines then .basic
  else if !escapes && singles == 0 && !lines then .literal
  else if !escapes && !backslash && doubles ≤ 2 then .basicLines
  else if !escapes && singles ≤ 2 then .literalLines
  else if lines then .basicLines
  else .basic

def escaped (c : Char) : List Char :=
  if c.toNat = 8 then ['\\', 'b']
  else if c = '\t' then ['\\', 't']
  else if c = '\n' then ['\\', 'n']
  else if c.toNat = 12 then ['\\', 'f']
  else if c = '\r' then ['\\', 'r']
  else if c = '"' then ['\\', '"']
  else if c = '\\' then ['\\', '\\']
  else if needsEscape c then
    ['\\', 'u', '0', '0', hexDigit (c.toNat / 16), hexDigit (c.toNat % 16)]
  else [c]

/-- The body of a basic string on several lines. Of three quotes in a row the third is escaped;
`run` counts those written before. -/
def escapedLines : Nat → List Char → List Char
  | _, [] => []
  | run, c :: rest =>
    if c = '"' then
      if run = 2 then '\\' :: '"' :: escapedLines 0 rest else '"' :: escapedLines (run + 1) rest
    else if c = '\n' then '\n' :: escapedLines 0 rest
    else escaped c ++ escapedLines 0 rest

/-- A delimiter on several lines is followed by a line end if the text has one. -/
def opening (delimiter text : List Char) : List Char :=
  delimiter ++ if text.any (· = '\n') then ['\n'] else []

def writeAs (form : Form) (text : List Char) : List Char :=
  match form with
  | .basic => '"' :: text.flatMap escaped ++ ['"']
  | .literal => '\x27' :: text ++ ['\x27']
  | .basicLines => opening ['"', '"', '"'] text ++ escapedLines 0 text ++ ['"', '"', '"']
  | .literalLines =>
    opening ['\x27', '\x27', '\x27'] text ++ text ++ ['\x27', '\x27', '\x27']

def write (text : String) : String := .ofList (writeAs (Form.ofText text.toList) text.toList)

end NetworkPortal.Toml.Quoted
