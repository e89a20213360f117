import RequestTelemetry.Text.Decimal
import RequestTelemetry.Text.Quoted

/-!
# Addresses

IP addresses, socket addresses and their canonical texts. An IPv6 address is written with its
longest run of at least two zero groups as `::`, the first such run if there are several; an
address that maps an IPv4 address is written with the dotted form at its end.
-/

namespace RequestTelemetry.Net

/-- The decimal text of a number. -/
def decimal (n : Nat) : List Char := Text.decimalDigits n

/-- An IPv4 address. -/
structure V4 where
  a : UInt8
  b : UInt8
  c : UInt8
  d : UInt8
  deriving DecidableEq, Repr, Inhabited

/-- The dotted form. -/
def V4.chars (ip : V4) : List Char :=
  decimal ip.a.toNat ++ '.' :: decimal ip.b.toNat ++ '.' :: decimal ip.c.toNat ++
    '.' :: decimal ip.d.toNat

/-- An IPv6 address, as eight groups of 16 bits. -/
structure V6 where
  groups : List UInt16
  length_eq : groups.length = 8 := by decide
  deriving DecidableEq, Repr

namespace V6

/-- The IPv4 address that an address of the form `::ffff:0:0/96` maps. -/
def mapped? (ip : V6) : Option V4 :=
  match ip.groups with
  | [0, 0, 0, 0, 0, 0xFFFF, hi, lo] =>
    some ⟨(hi >>> 8).toUInt8, hi.toUInt8, (lo >>> 8).toUInt8, lo.toUInt8⟩
  | _ => none

/-- How many zero groups follow each other from position `i` on. -/
def zerosAt (groups : List UInt16) (i : Nat) : Nat :=
  ((groups.drop i).takeWhile (· = 0)).length

/-- Start and length of the longest run of zero groups, the first of several. -/
def longestZeros (groups : List UInt16) : Nat × Nat :=
  (List.range groups.length).foldl
    (fun best i ↦ if best.2 < zerosAt groups i then (i, zerosAt groups i) else best) (0, 0)

/-- Groups in hexadecimal with colons between them. -/
def groupChars : List UInt16 → List Char
  | [] => []
  | [g] => Text.hexDigits g.toNat
  | g :: h :: rest => Text.hexDigits g.toNat ++ ':' :: groupChars (h :: rest)

/-- The canonical text. -/
def chars (ip : V6) : List Char :=
  match ip.mapped? with
  | some v4 => [':', ':', 'f', 'f', 'f', 'f', ':'] ++ v4.chars
  | none =>
    let (start, length) := longestZeros ip.groups
    if 1 < length then
      groupChars (ip.groups.take start) ++ ':' :: ':' ::
        groupChars (ip.groups.drop (start + length))
    else groupChars ip.groups

end V6

/-- An IP address. -/
inductive Ip where
  | v4 (ip : V4)
  | v6 (ip : V6)
  deriving DecidableEq, Repr

namespace Ip

/-- The canonical text. -/
def chars : Ip → List Char
  | v4 ip => ip.chars
  | v6 ip => ip.chars

/-- The canonical text. -/
def text (ip : Ip) : String := String.ofList ip.chars

/-- `127.0.0.1`, the machine itself. -/
def loopback : Ip := v4 ⟨127, 0, 0, 1⟩

/-- Whether the address belongs to the machine itself or stands for all of its addresses. -/
def isLocal : Ip → Bool
  | v4 ip => ip.a = 127 || ip = ⟨0, 0, 0, 0⟩
  | v6 ip => ip.groups = [0, 0, 0, 0, 0, 0, 0, 1] || ip.groups = [0, 0, 0, 0, 0, 0, 0, 0]

end Ip

/-- The address of one end of a connection. An IPv6 address has a flow label and a scope. -/
inductive SocketAddr where
  | v4 (ip : V4) (port : UInt16)
  | v6 (ip : V6) (port : UInt16) (flow scope : UInt32)
  deriving DecidableEq, Repr

namespace SocketAddr

/-- The address without its port. -/
def ip : SocketAddr → Ip
  | v4 ip _ => .v4 ip
  | v6 ip _ _ _ => .v6 ip

/-- The port. -/
def port : SocketAddr → UInt16
  | v4 _ port => port
  | v6 _ port _ _ => port

/-- The canonical text: IPv6 addresses stand in brackets, with their scope if it is not zero. -/
def chars : SocketAddr → List Char
  | v4 ip port => ip.chars ++ ':' :: decimal port.toNat
  | v6 ip port _ scope =>
    let zone := if scope = 0 then [] else '%' :: decimal scope.toNat
    '[' :: ip.chars ++ zone ++ ']' :: ':' :: decimal port.toNat

/-- The canonical text. -/
def text (a : SocketAddr) : String := String.ofList a.chars

end SocketAddr
end RequestTelemetry.Net
