import ToolPack.Url.Host

/-!
# Addresses

An address is a scheme, a colon, and for most schemes a host.  Only as much of it is read as
decides whether it is one: scheme, user, host and port can be at fault, what follows cannot.

Control characters and blanks at both ends, and tabs and line breaks anywhere, do not count.

## What is here

* `scheme?`: the scheme of an address, in small letters, or why the text is none.
-/

set_option autoImplicit false

namespace ToolPack
namespace Url

/-- Whether a character at the end of an address does not count. -/
def isEdge (c : Char) : Bool := c.toNat ≤ 0x20

/-- Whether a character does not count anywhere. -/
def isBreak (c : Char) : Bool := c == '\t' || c == '\n' || c == '\r'

/-- The characters of a text that count. -/
def counting (cs : List Char) : List Char :=
  (((cs.dropWhile isEdge).reverse.dropWhile isEdge).reverse).filter fun c => !isBreak c

/-! ## Schemes -/

/-- Whether a character may stand in a scheme. -/
def isSchemeChar (c : Char) : Bool := c.isAlphanum || c == '+' || c == '-' || c == '.'

/-- The scheme of a text, in small letters, and what is behind its colon. -/
def splitScheme? (cs : List Char) : Option (List Char × List Char) :=
  match cs with
  | [] => none
  | c :: _ =>
    match cs.dropWhile isSchemeChar with
    | ':' :: rest => if c.isAlpha then some ((cs.takeWhile isSchemeChar).map Char.toLower, rest)
      else none
    | _ => none

/-- How the part behind the scheme is read. -/
inductive Kind where
  /-- A place in the file system; the host may lack. -/
  | file
  /-- An address for browsers, with a host. -/
  | browser
  /-- Anything else. -/
  | other
  deriving DecidableEq, Repr

/-- The kind of a scheme. -/
def Kind.ofScheme (scheme : List Char) : Kind :=
  if scheme = "file".toList then .file
  else if ["http".toList, "https".toList, "ws".toList, "wss".toList, "ftp".toList].contains scheme
  then .browser
  else .other

/-! ## The part between the slashes and the path -/

/-- Whether a character ends the authority.  A backslash does in browser addresses. -/
def endsAuthority (kind : Kind) (c : Char) : Bool :=
  c == '/' || c == '?' || c == '#' || (c == '\\' && kind != .other)

/-- What stands before the last `@`, if there is one, and what behind it. -/
def splitUser (cs : List Char) : Option (List Char) × List Char :=
  if cs.contains '@' then
    let host := (cs.reverse.takeWhile (· != '@')).reverse
    (some (cs.take (cs.length - host.length - 1)), host)
  else (none, cs)

/-- Whether user information names somebody: a user before the first colon or a password. -/
def namesUser (user : List Char) : Bool :=
  !(user.takeWhile (· != ':')).isEmpty || !((user.dropWhile (· != ':')).drop 1).isEmpty

/-- The host at the start of a text, up to a colon that is not in brackets, and the rest. -/
def splitHost (bracketed : Bool) : List Char → List Char × List Char
  | [] => ([], [])
  | c :: cs =>
    if c = ':' && !bracketed then ([], c :: cs)
    else
      let inside := if c = '[' then true else if c = ']' then false else bracketed
      (c :: (splitHost inside cs).1, (splitHost inside cs).2)

/-- Whether a text is a port: digits with a value below 65536, up to a backslash. -/
def isPort (value : Nat) : List Char → Bool
  | [] => true
  | c :: cs =>
    if c.isDigit then
      let value := value * 10 + (c.toNat - '0'.toNat)
      value ≤ 65535 && isPort value cs
    else c == '\\'

/-- Checks the authority of an address.  `more` says whether something follows it. -/
def checkAuthority (kind : Kind) (cs : List Char) (more : Bool) : Except Fault Unit := do
  let (user, rest) := splitUser cs
  if user = some [] ∧ rest.isEmpty ∧ more then throw .emptyHost
  let (host, port) := splitHost false rest
  if kind = .browser ∧ host.isEmpty then throw .emptyHost
  let parsed ← if kind = .other then opaqueHost host else domainHost host
  let nameless := parsed == .name []
  if nameless ∧ !port.isEmpty then throw .emptyHost
  if !(isPort 0 (port.drop 1)) then throw .invalidPort
  if nameless ∧ (user.any namesUser) then throw .emptyHost

/-- Whether a text is the letter of a drive, with its mark. -/
def isDrive : List Char → Bool
  | [letter, mark] => letter.isAlpha && (mark == ':' || mark == '|')
  | _ => false

/-- Checks the host of a place in the file system; it may lack, and a drive is none. -/
def checkFileHost (cs : List Char) : Except Fault Unit :=
  if cs.isEmpty || isDrive cs then .ok () else (domainHost cs).map fun _ => ()

/-- Checks what follows the scheme. -/
def checkRest (kind : Kind) (cs : List Char) : Except Fault Unit :=
  let ends := endsAuthority kind
  match kind with
  | .browser =>
    let cs := cs.dropWhile fun c => c == '/' || c == '\\'
    checkAuthority kind (cs.takeWhile fun c => !ends c) (!(cs.all fun c => !ends c))
  | .other =>
    match cs with
    | '/' :: '/' :: cs =>
      checkAuthority kind (cs.takeWhile fun c => !ends c) (!(cs.all fun c => !ends c))
    | _ => .ok ()
  | .file =>
    match cs with
    | a :: b :: cs =>
      if (a == '/' || a == '\\') && (b == '/' || b == '\\') then
        checkFileHost (cs.takeWhile fun c => !ends c)
      else .ok ()
    | _ => .ok ()

/-- The scheme of an address. -/
def scheme? (text : String) : Except Fault String :=
  match splitScheme? (counting text.toList) with
  | none => .error .noScheme
  | some (scheme, rest) =>
    (checkRest (Kind.ofScheme scheme) rest).map fun _ => String.ofList scheme

end Url
end ToolPack
