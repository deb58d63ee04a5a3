import JavaReview.Text.Decimal
import JavaReview.Text.Search

/-!
Addresses to listen on: a host, which may be empty or stand in brackets, a colon, and a service, which
is written as a number or a name.
-/

namespace JavaReview.Command

/-- Why an address cannot be listened on. -/
inductive AddressFault where
  | missingService
  | tooManyColons
  | missingBracket
  | unexpected (bracket : Char)
  | invalidService (service : String)
  | unknownService (service : String)
  | foreignHost (place : String)
deriving DecidableEq, Repr

namespace AddressFault

/-- The text of a fault of an address. -/
def message (address : String) : AddressFault → String
  | missingService => "listen tcp: address " ++ address ++ ": missing port in address"
  | tooManyColons => "listen tcp: address " ++ address ++ ": too many colons in address"
  | missingBracket => "listen tcp: address " ++ address ++ ": missing ']' in address"
  | unexpected bracket =>
    "listen tcp: address " ++ address ++ ": unexpected '" ++ bracket.toString ++ "' in address"
  | invalidService service => "listen tcp: address " ++ service ++ ": invalid port"
  | unknownService service => "listen tcp: lookup tcp/" ++ service ++ ": unknown port"
  | foreignHost place => "listen tcp " ++ place ++ ": bind: cannot assign requested address"

end AddressFault

namespace Address

/-- The host and the service of an address. A host in brackets may have colons; elsewhere there is no
bracket, and one colon. -/
def split (address : List Char) : Except AddressFault (List Char × List Char) := do
  match Text.afterLast? ':' address with
  | none => throw .missingService
  | some service =>
    let host := address.take (address.length - service.length - 1)
    match host with
    | '[' :: r =>
      match Text.after? ']' address with
      | none => throw .missingBracket
      | some [] => throw .missingService
      | some (x :: later) =>
        if x ≠ ':' then throw .missingService
        else if later.contains ':' then throw .tooManyColons
        else if r.contains '[' || service.contains '[' then throw (.unexpected '[')
        else if service.contains ']' then throw (.unexpected ']')
        else return (r.dropLast, service)
    | _ =>
      if host.contains ':' then throw .tooManyColons
      else if address.contains '[' then throw (.unexpected '[')
      else if address.contains ']' then throw (.unexpected ']')
      else return (host, service)

/-- From where on a number is too large to be read further. -/
def numberLimit : Nat := 0x40000000

/-- The number of a service, up to the limit and in words of 32 bits; none if something else than a
digit is met before that. -/
def digitsNumber? : Nat → List Char → Option Nat
  | n, [] => some n
  | n, d :: ds =>
    if !d.isDigit then none
    else if n ≥ numberLimit then some n
    else
      let tenfold := 10 * n % 0x100000000
      let next := tenfold + (d.toNat - 48)
      if next ≥ 0x100000000 then some numberLimit else digitsNumber? next ds

/-- The number that a service is written as, with an optional sign. -/
def signedNumber? (service : List Char) : Option Int :=
  match service with
  | '+' :: ds => (digitsNumber? 0 ds).map Int.ofNat
  | '-' :: ds => (digitsNumber? 0 ds).map fun n => -(n : Int)
  | ds => (digitsNumber? 0 ds).map Int.ofNat

/-- The services that have a name. -/
def services : List (String × Int) :=
  [("domain", 53), ("ftp", 21), ("ftps", 990), ("gopher", 70), ("http", 80), ("https", 443),
    ("imap2", 143), ("imap3", 220), ("imaps", 993), ("pop3", 110), ("pop3s", 995), ("smtp", 25),
    ("submissions", 465), ("ssh", 22), ("telnet", 23)]

/-- The number of the service that a text names. -/
def serviceNumber (service : List Char) : Except AddressFault Int :=
  match signedNumber? service with
  | some n =>
    if n < 0 || n > 65535 then .error (.invalidService (String.ofList service)) else .ok n
  | none =>
    match services.lookup (String.ofList (service.map Char.toLower)) with
    | some n => .ok n
    | none => .error (.unknownService (String.ofList service))

/-- The four numbers of a host that is written with them. -/
def octets? (host : List Char) : Option (List Nat) := do
  let parts := Text.splitOn '.' host
  let numbers ← parts.mapM digitsValue?
  if parts.length = 4 && parts.all (fun p => p.length = 1 || p.head? ≠ some '0') &&
    numbers.all (· ≤ 255) then some numbers else none

/-- Whether four numbers write a host that is surely another one: no loop back, no network without a
number, no group of hosts and not all of them. -/
def isForeign (octets : List Nat) : Bool :=
  match octets with
  | a :: _ => !(a = 0 || a = 127 || (224 ≤ a && a ≤ 239) || octets = [255, 255, 255, 255])
  | [] => false

/-- What keeps an address from being listened on. -/
def fault? (address : String) : Option AddressFault :=
  match check with
  | .ok _ => none
  | .error fault => some fault
where
  /-- Whether the service is one and the host may be this one. -/
  check : Except AddressFault Unit := do
    let (host, service) ← split address.toList
    let number ← serviceNumber service
    if (octets? host).any isForeign then
      throw (.foreignHost (String.ofList host ++ ":" ++ decimal number))

end Address

end JavaReview.Command
