import ServiceBoot.Text.Percent

/-!
# Hosts

What a client may call the server that it talks to: a name, or a network address between brackets,
and after it a port if need be.
-/

namespace ServiceBoot.Http.Host

/-- What may stand in a name and in an address alike. -/
def isCommonCharacter (c : Char) : Bool :=
  Text.Percent.isUnreserved c || "!$&'()*+,;=".toList.contains c

def isNameCharacter (c : Char) : Bool := c == '%' || isCommonCharacter c

/-- Nothing, or a colon and a number below 65536, with as many zeros in front as one likes. -/
def isPort : List Char → Bool
  | [] => true
  | c :: digits =>
    c = ':' && !digits.isEmpty && digits.all Char.isDigit && Nat.ofDigitChars 10 digits 0 < 65536

/-! ## Network addresses -/

def isHexDigit (c : Char) : Bool :=
  c.isDigit || ('a' ≤ c && c ≤ 'f') || ('A' ≤ c && c ≤ 'F')

/-- One of the eight groups of an address. -/
def isGroup (s : List Char) : Bool := !s.isEmpty && s.length ≤ 4 && s.all isHexDigit

/-- A number below 256 without needless zeros. -/
def isOctet (s : List Char) : Bool :=
  !s.isEmpty && s.length ≤ 3 && s.all Char.isDigit && (s.length = 1 || s.head? ≠ some '0') &&
    Nat.ofDigitChars 10 s 0 < 256

def isDotted (s : List Char) : Bool :=
  let octets := s.splitOn '.'
  octets.length = 4 && octets.all isOctet

/-- The number of groups that the parts stand for; the last part may be dotted and stand for two. -/
def countGroups (mayEndDotted : Bool) : List (List Char) → Option Nat
  | [] => some 0
  | [part] =>
    if isGroup part then some 1
    else if mayEndDotted && isDotted part then some 2
    else none
  | part :: rest => if isGroup part then (countGroups mayEndDotted rest).map (· + 1) else none

def groups? (mayEndDotted : Bool) (s : List Char) : Option Nat :=
  if s.isEmpty then some 0 else countGroups mayEndDotted (s.splitOn ':')

/-- What stands before and after the first two colons in a row. -/
def cutAtGap : List Char → Option (List Char × List Char)
  | [] => none
  | ':' :: ':' :: rest => some ([], rest)
  | c :: rest => (cutAtGap rest).map fun cut ↦ (c :: cut.1, cut.2)

/-- Eight groups, of which two colons in a row leave out one or more. -/
def isAddress (s : List Char) : Bool :=
  match cutAtGap s with
  | none => groups? true s = some 8
  | some (before, after) =>
    match groups? false before, groups? true after with
    | some m, some n => m + n < 8
    | _, _ => false

/-- An address of a later version: the version follows the letter, and the address the dot. -/
def isLaterAddress : List Char → Bool
  | 'v' :: rest =>
    let version := rest.takeWhile (· ≠ '.')
    let address := (rest.dropWhile (· ≠ '.')).drop 1
    !version.isEmpty && version.all isHexDigit &&
      !address.isEmpty && address.all fun c ↦ c == ':' || isCommonCharacter c
  | _ => false

/-! ## Hosts -/

def isWellFormed (host : String) : Bool :=
  match host.toList with
  | '[' :: rest =>
    match rest.dropWhile (· ≠ ']') with
    | _ :: after =>
      let address := rest.takeWhile (· ≠ ']')
      (isAddress address || isLaterAddress address) && isPort after
    | [] => false
  | chars =>
    let name := chars.takeWhile (· ≠ ':')
    !name.isEmpty && name.all isNameCharacter && isPort (chars.dropWhile (· ≠ ':'))

end ServiceBoot.Http.Host
