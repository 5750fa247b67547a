import NetworkPortal.Text.Basic

/-! # Options on a command line

A command line is scanned up to its first word. Options are long (`--name value`, `--name=value`)
or short (`-n value`, `-nvalue`, `-n=value`), and short flags may stand together. Every option may
be given once.
-/
namespace NetworkPortal.Command

inductive Refusal where
  | misuse
  | help
  | version
  deriving DecidableEq

inductive Kind where
  | flag
  | text
  /-- A text that is not empty. -/
  | path
  /-- A number below `2 ^ 16`. -/
  | port
  | help
  | version
  deriving DecidableEq

structure Choice where
  name : String
  short : Option Char
  kind : Kind

inductive Given where
  | flag
  | text (content : String)
  | number (value : Nat)
  deriving DecidableEq

abbrev Settled := List (String × Given)

def integer? (text : List Char) : Option Int :=
  let natural? := fun (digits : List Char) =>
    if digits.isEmpty || !digits.all Char.isDigit then none
    else some (Text.ofDigits digits)
  match text with
  | '-' :: digits => (natural? digits).map fun n => -(n : Int)
  | '+' :: digits => (natural? digits).map fun n => (n : Int)
  | digits => (natural? digits).map fun n => (n : Int)

namespace Kind

def takesValue : Kind → Bool
  | .text | .path | .port => true
  | _ => false

def value? (kind : Kind) (text : String) : Option Given :=
  match kind with
  | .text => some (.text text)
  | .path => if text.isEmpty then none else some (.text text)
  | .port => (integer? text.toList).bind fun n =>
      if 0 ≤ n && n < 65536 then some (.number n.toNat) else none
  | _ => none

end Kind

/-- Whether a text cannot be the value of an option before it. -/
def looksLikeOption (text : String) : Bool := Text.startsWith "-" text && text != "-"

variable (choices : List Choice)

def settle (choice : Choice) (given : Option Given) (settled : Settled) :
    Except Refusal Settled :=
  match given with
  | none => .error .misuse
  | some given =>
    if settled.any (·.1 == choice.name) then .error .misuse
    else .ok (settled ++ [(choice.name, given)])

def settleFlag (choice : Choice) (settled : Settled) : Except Refusal Settled :=
  match choice.kind with
  | .flag => settle choice (some .flag) settled
  | .help => .error .help
  | .version => .error .version
  | _ => .error .misuse

/-- An option that still waits for its value, which is the next text. -/
abbrev Pending := Option Choice

/-- Short options in one text, after the hyphen. What follows an option with a value is that
value. -/
def settleShort : List Char → Settled → Except Refusal (Settled × Pending)
  | [], settled => .ok (settled, none)
  | c :: rest, settled =>
    match choices.find? (·.short == some c) with
    | none => .error .misuse
    | some choice =>
      if choice.kind.takesValue then
        match rest with
        | [] => .ok (settled, some choice)
        | '=' :: value => (settle choice (choice.kind.value? (.ofList value)) settled).map (·, none)
        | value => (settle choice (choice.kind.value? (.ofList value)) settled).map (·, none)
      else (settleFlag choice settled).bind (settleShort rest)

def settleLong (text : List Char) (settled : Settled) : Except Refusal (Settled × Pending) :=
  let name := String.ofList (text.takeWhile (· != '='))
  match choices.find? (·.name == name), text.dropWhile (· != '=') with
  | none, _ => .error .misuse
  | some choice, [] =>
    if choice.kind.takesValue then .ok (settled, some choice)
    else (settleFlag choice settled).map (·, none)
  | some choice, _ :: value =>
    if choice.kind.takesValue then
      (settle choice (choice.kind.value? (.ofList value)) settled).map (·, none)
    else .error .misuse

/-- Scans options up to the first word and returns it with what follows. Nothing may follow two
hyphens that stand alone. -/
def scan : Pending → Settled → List String → Except Refusal (Settled × List String)
  | some _, _, [] => .error .misuse
  | none, settled, [] => .ok (settled, [])
  | some choice, settled, text :: rest =>
    if looksLikeOption text then .error .misuse
    else
      match settle choice (choice.kind.value? text) settled with
      | .ok settled => scan none settled rest
      | .error refusal => .error refusal
  | none, settled, text :: rest =>
    match text.toList with
    | ['-', '-'] => if rest.isEmpty then .ok (settled, []) else .error .misuse
    | '-' :: '-' :: long =>
      match settleLong choices long settled with
      | .ok (settled, pending) => scan pending settled rest
      | .error refusal => .error refusal
    | '-' :: c :: short =>
      match settleShort choices (c :: short) settled with
      | .ok (settled, pending) => scan pending settled rest
      | .error refusal => .error refusal
    | _ => .ok (settled, text :: rest)

end NetworkPortal.Command
