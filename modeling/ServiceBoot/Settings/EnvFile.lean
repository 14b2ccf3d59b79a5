import ServiceBoot.Text.Blank

/-!
# Environment files

An environment file gives variables their values, one a line: a name, an equals sign and a value
that may stand between single or double quotes, in which case it may go on over several lines. A
number sign begins a comment. A line that cannot be read is passed over. A name without an equals
sign is mentioned, but has no value.
-/

namespace ServiceBoot.EnvFile

structure Binding where
  name : String
  value : Option String
  deriving DecidableEq, Repr

/-- Every way of ending a line becomes a line feed. -/
def plainLines : List Char → List Char
  | '\r' :: '\n' :: rest => '\n' :: plainLines rest
  | '\r' :: rest => '\n' :: plainLines rest
  | c :: rest => c :: plainLines rest
  | [] => []

/-! ## Names -/

def endsName (c : Char) : Bool := c == '=' || c == '#' || Text.isBlank c

/-- The name that a line starts with, which is missing if a comment follows, and the rest; or the
point where the line cannot be read further. -/
def name (s : List Char) : Except (List Char) (Option String × List Char) :=
  match s with
  | '#' :: _ => .ok (none, s)
  | '\'' :: rest =>
    match rest.takeWhile (· ≠ '\''), rest.dropWhile (· ≠ '\'') with
    | c :: cs, _ :: after => .ok (some (String.ofList (c :: cs)), after)
    | _, _ => .error s
  | _ =>
    match s.takeWhile (!endsName ·) with
    | [] => .error s
    | c :: cs => .ok (some (String.ofList (c :: cs)), s.dropWhile (!endsName ·))

/-- The word `export` may stand before a name. -/
def skipExport (s : List Char) : List Char :=
  match s with
  | 'e' :: 'x' :: 'p' :: 'o' :: 'r' :: 't' :: c :: rest =>
    if Text.isInnerBlank c then rest.dropWhile Text.isInnerBlank else s
  | _ => s

/-! ## Values -/

/-- The text up to the closing quote, and what follows it. A backslash keeps the character after it
from closing the text. -/
def upToQuote (quote : Char) : List Char → Option (List Char × List Char)
  | [] => none
  | '\\' :: c :: rest =>
    (upToQuote quote rest).map fun found ↦ ('\\' :: c :: found.1, found.2)
  | c :: rest =>
    if c = quote then some ([], rest)
    else (upToQuote quote rest).map fun found ↦ (c :: found.1, found.2)

/-- The character that a letter stands for after a backslash between double quotes. -/
def escaped? (c : Char) : Option Char :=
  match c with
  | '\\' => some '\\'
  | '\'' => some '\''
  | '"' => some '"'
  | 'a' => some '\x07'
  | 'b' => some '\x08'
  | 'f' => some '\x0c'
  | 'n' => some '\n'
  | 'r' => some '\r'
  | 't' => some '\t'
  | 'v' => some '\x0b'
  | _ => none

/-- Between single quotes only the quote and the backslash can be escaped. -/
def escapedSingle? (c : Char) : Option Char :=
  if c = '\\' ∨ c = '\'' then some c else none

def unescape (escaped : Char → Option Char) : List Char → List Char
  | '\\' :: c :: rest =>
    match escaped c with
    | some d => d :: unescape escaped rest
    | none => '\\' :: unescape escaped (c :: rest)
  | c :: rest => c :: unescape escaped rest
  | [] => []

/-- The part of an unquoted value before a comment, which begins after a blank. -/
def beforeComment (afterBlank : Bool) : List Char → List Char
  | [] => []
  | c :: rest =>
    if c = '#' ∧ afterBlank then [] else c :: beforeComment (Text.isBlank c) rest

def quotedValue (quote : Char) (escaped : Char → Option Char) (s rest : List Char) :
    Except (List Char) (List Char × List Char) :=
  match upToQuote quote rest with
  | some (text, after) => .ok (unescape escaped text, after)
  | none => .error s

/-- The value that starts here; `afterBlank` says whether a blank stands before it. -/
def value (afterBlank : Bool) (s : List Char) : Except (List Char) (List Char × List Char) :=
  match s with
  | '\'' :: rest => quotedValue '\'' escapedSingle? s rest
  | '"' :: rest => quotedValue '"' escaped? s rest
  | _ =>
    let line := s.takeWhile (· ≠ '\n')
    .ok (Text.trimEnd (beforeComment afterBlank line), s.dropWhile (· ≠ '\n'))

/-! ## Lines -/

/-- What follows an equals sign, if there is one. -/
def assigned (s : List Char) : Except (List Char) (Option String × List Char) :=
  match s with
  | '=' :: rest =>
    let afterBlank := (rest.head?.map Text.isInnerBlank).getD false
    (value afterBlank (rest.dropWhile Text.isInnerBlank)).map fun read ↦
      (some (String.ofList read.1), read.2)
  | _ => .ok (none, s)

/-- The end of a line, before which a comment may stand. -/
def lineEnd (s : List Char) : Except (List Char) (List Char) :=
  let s := match s.dropWhile Text.isInnerBlank with
    | '#' :: comment => comment.dropWhile (· ≠ '\n')
    | _ => s
  match s.dropWhile Text.isInnerBlank with
  | [] => .ok []
  | '\n' :: rest => .ok rest
  | _ => .error s

/-- Reads a line that starts with no blank. -/
def line (s : List Char) : Except (List Char) (Option Binding × List Char) := do
  let (found, s) ← name (skipExport s)
  let (value, s) ← assigned (s.dropWhile Text.isInnerBlank)
  let rest ← lineEnd s
  pure (found.map fun name ↦ ⟨name, value⟩, rest)

/-- Reads lines within a budget of as many steps as there are characters, one of which every line
takes at least. -/
def lines : Nat → List Char → List Binding
  | 0, _ => []
  | budget + 1, s =>
    match s.dropWhile Text.isBlank with
    | [] => []
    | s =>
      match line s with
      | .ok (none, rest) => lines budget rest
      | .ok (some binding, rest) => binding :: lines budget rest
      | .error rest => lines budget ((rest.dropWhile (· ≠ '\n')).drop 1)

/-- A mark of the byte order may stand before the first line. -/
def skipMark : List Char → List Char
  | '\uFEFF' :: rest => rest
  | s => s

def read (text : String) : List Binding :=
  let s := plainLines (skipMark text.toList)
  lines s.length s

end ServiceBoot.EnvFile
