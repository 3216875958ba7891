import EtherNetIP.Cip.AttributeData

/-! The checks of interface settings.

Names are checked as C strings, up to the first zero octet, addresses one by one
and then against the network mask. A forced speed has to be among those the
interface offers.
-/

set_option autoImplicit false

namespace EtherNetIP

section Names

def dotOctet : CipOctet := 0x2E
def hyphenOctet : CipOctet := 0x2D

def isalnumC (byte : CipOctet) : Bool :=
  (0x61 ≤ byte && byte ≤ 0x7A) || (0x41 ≤ byte && byte ≤ 0x5A) || (0x30 ≤ byte && byte ≤ 0x39)

/-- The octets up to the first zero; one follows the octets that are listed. -/
def cString (octets : List CipOctet) : List CipOctet := octets.takeWhile (· ≠ 0)

/-- The loop that passes over the octets of a label, from the one it is given behind another. -/
def endsLabel (previous : CipOctet) : List CipOctet → Bool
  | [] => previous != hyphenOctet
  | octet :: rest => (isalnumC octet || octet == hyphenOctet) && endsLabel octet rest

def isValidNameLabel : List CipOctet → Bool
  | [] => false
  | first :: rest => isalnumC first && endsLabel first rest

/-- The recursion over the dots; each takes an octet at least, so the length is enough fuel. -/
def isValidDomainFrom : Nat → List CipOctet → Bool
  | 0, _ => false
  | fuel + 1, domain =>
      if domain.headD 0 = dotOctet then false
      else
        match domain.dropWhile (· ≠ dotOctet) with
        | [] => isValidNameLabel domain
        | _ :: [] => false
        | _ :: rest => isValidNameLabel (domain.takeWhile (· ≠ dotOctet)) && isValidDomainFrom fuel rest

def isValidDomain (domain : List CipOctet) : Bool := isValidDomainFrom (domain.length + 1) domain

end Names

section Addresses

def INADDR_BROADCAST : UInt32 := 0xFFFFFFFF
def INADDR_LOOPBACK : UInt32 := 0x7F000001
def IN_CLASSA_NET : UInt32 := 0xFF000000

def isValidNetmask (netmask : UInt32) : Bool :=
  let hostMask := ~~~ ntohl netmask + 1
  hostMask != 0 && hostMask &&& (hostMask - 1) == 0 && INADDR_BROADCAST != netmask

def isInClassAbc (ipAddr : UInt32) : Bool :=
  let ip := ntohl ipAddr
  ip &&& 0x80000000 == 0 || ip &&& 0xC0000000 == 0x80000000 || ip &&& 0xE0000000 == 0xC0000000

def isOnLoopbackNetwork (ipAddr : UInt32) : Bool := ntohl ipAddr &&& IN_CLASSA_NET == INADDR_LOOPBACK &&& IN_CLASSA_NET

def isNetworkOrBroadcastIp (ipAddr netMask : UInt32) : Bool :=
  ipAddr &&& netMask == ipAddr || ipAddr ||| ~~~ netMask == ipAddr

def isValidNetworkConfig (ifCfg : CipTcpIpInterfaceConfiguration) : Bool :=
  if INADDR_ANY = ntohl ifCfg.ipAddress then false
  else if INADDR_ANY ≠ ntohl ifCfg.networkMask ∧ !isValidNetmask ifCfg.networkMask then false
  else if !isInClassAbc ifCfg.ipAddress || !isInClassAbc ifCfg.gateway || !isInClassAbc ifCfg.nameServer ||
      !isInClassAbc ifCfg.nameServer2 then false
  else if isOnLoopbackNetwork ifCfg.ipAddress || isOnLoopbackNetwork ifCfg.gateway then false
  else if isNetworkOrBroadcastIp ifCfg.ipAddress ifCfg.networkMask ||
      (INADDR_ANY != ntohl ifCfg.gateway && isNetworkOrBroadcastIp ifCfg.gateway ifCfg.networkMask) then false
  else if INADDR_ANY ≠ ntohl ifCfg.gateway ∧ INADDR_ANY ≠ ntohl ifCfg.networkMask ∧
      ifCfg.networkMask &&& ifCfg.ipAddress ≠ ifCfg.networkMask &&& ifCfg.gateway then false
  else true

end Addresses

section States

/-- An I/O connection that has timed out does not count. -/
def isIOConnectionActive (connectionList : List CipConnectionObject) : Bool :=
  connectionList.any fun connection => connection.isTypeIOConnection && connection.state != .timedOut

/-- The speeds in Mbit/s, each with zero for half duplex or one for full duplex. -/
def speedDuplexTable : List (UInt16 × UInt8) := [(10, 0), (10, 1), (100, 0), (100, 1), (1000, 0), (1000, 1)]

def kEthLinkIfCntrlAutonegotiate : UInt16 := 0x01
def kEthLinkIfCntrlForceDuplexFD : UInt16 := 0x02
def kEthLinkIfCntrlMaxValid : UInt16 := 0x03

def isIfaceControlAllowed (speedDuplexSelector : UInt16) (ifaceCntrl : CipEthernetLinkInterfaceControl) : Bool :=
  let duplexMode : UInt8 := if ifaceCntrl.controlBits &&& kEthLinkIfCntrlForceDuplexFD ≠ 0 then 1 else 0
  speedDuplexTable.zipIdx.any fun ((speed, duplex), i) =>
    speedDuplexSelector &&& (1 <<< UInt16.ofNat i) != 0 && duplexMode == duplex &&
      ifaceCntrl.forcedInterfaceSpeed == speed

end States

end EtherNetIP
