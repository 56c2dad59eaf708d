/-
# Addresses

Where on the network a server listens: a host, in the fourth version of the
internet protocol, and the number of a service on that host. Reading is strict:
each of the four numbers of a host has at most three digits and no leading zero.
-/

import EditorClient.Bytes
import EditorClient.Text.Decimal

namespace EditorClient

/-- The address of a host in the fourth version of the internet protocol. -/
structure Ipv4 where
  a : UInt8
  b : UInt8
  c : UInt8
  d : UInt8
  deriving DecidableEq, Repr

namespace Ipv4

/-- One of the four numbers of an address: at most three digits, without a
leading zero, and at most 255. -/
def octet? (text : List Char) : Option UInt8 :=
  if text.length ≤ 3 ∧ (text.head? = some '0' → text = ['0']) then
    (Decimal.natural? text).bind fun n => if n ≤ 255 then some n.toUInt8 else none
  else none

/-- The address that a text is. -/
def read? (text : List Char) : Option Ipv4 :=
  match Pieces.split '.' text with
  | [a, b, c, d] => do return ⟨← octet? a, ← octet? b, ← octet? c, ← octet? d⟩
  | _ => none

/-- An address in its usual form. -/
def toText (ip : Ipv4) : String :=
  ".".intercalate ([ip.a, ip.b, ip.c, ip.d].map fun n => Decimal.ofNat n.toNat)

/-- Whether an address stands for the machine itself. -/
def isLoopback (ip : Ipv4) : Bool := ip.a = 127

end Ipv4

/-- A place on the network where a server may listen: a host and the number of a
service there. -/
structure Address where
  ip : Ipv4
  service : UInt16
  deriving DecidableEq, Repr

/-- A place on the network in its usual form. -/
def Address.toText (a : Address) : String :=
  a.ip.toText ++ ":" ++ Decimal.ofNat a.service.toNat

end EditorClient
