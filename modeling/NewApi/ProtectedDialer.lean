import NewApi.GoStrings

/-!
# What the protected dialer dials

The target is checked, told apart as a literal or a name, resolved and dialed, each step with its
own reading of the host.
-/

namespace NewApi

open GoStrings List

/-- An address, in four bytes where it has such a form. -/
inductive IP where
  | v4 (bits : BitVec 32)
  | v6 (bits : BitVec 128)
deriving DecidableEq

/-- The parsers and the printer of the package `net`. No literal has blanks around it. -/
structure NetLibrary where
  parseIP : String → Option IP
  parseIP_clean : ∀ host, (parseIP host).isSome → trimSpace host = host
  parseCIDR : String → Option (IP → Bool)
  splitHostPort : String → Except String (String × String)
  print : IP → String

structure SSRFProtection where
  allowPrivateIp : Bool
  domainFilterMode : Bool
  domainList : List String
  ipFilterMode : Bool
  ipList : List String
  allowedPorts : List Int
  applyIPFilterForDomain : Bool

def privateIPv4Nets : List (BitVec 32 × Nat) :=
  [(0x00000000, 8), (0x0A000000, 8), (0x64400000, 10), (0x7F000000, 8), (0xA9FE0000, 16),
    (0xAC100000, 12), (0xC0000000, 24), (0xC0000200, 24), (0xC0A80000, 16), (0xC6120000, 15),
    (0xC6336400, 24), (0xCB007100, 24), (0xE0000000, 4), (0xF0000000, 4), (0xFFFFFFFF, 32)]

def privateIPv6Nets : List (BitVec 128 × Nat) :=
  [(0, 128), (1, 128), (0xFFFF00000000, 96), (0x64FF9B <<< 96, 96), (0x100 <<< 112, 64),
    (0x2001 <<< 112, 23), (0x20010DB8 <<< 96, 32), (0xFC <<< 120, 7), (0xFE8 <<< 116, 10),
    (0xFF <<< 120, 8)]

/-- The ranges of the standard library's own checks are in the tables, too. -/
def isPrivateIP : IP → Bool
  | .v4 bits => privateIPv4Nets.any fun (base, size) => bits >>> (32 - size) = base >>> (32 - size)
  | .v6 bits =>
    privateIPv6Nets.any fun (base, size) => bits >>> (128 - size) = base >>> (128 - size)

def isIpInCIDRList (net : NetLibrary) (ip : IP) (list : List String) : Bool :=
  list.any fun cidr =>
    match net.parseCIDR cidr with
    | some network => network ip
    | none => net.parseIP cidr = some ip

def isDomainListed (domain : String) (list : List String) : Bool :=
  list.any fun item =>
    let item := toLower (trimSpace item)
    let suffix := String.ofList (item.toList.drop 2)
    item ≠ "" && (toLower domain = item || hasPrefix item "*." &&
      (hasSuffix (toLower domain) ("." ++ suffix) || toLower domain = suffix))

namespace SSRFProtection

variable (net : NetLibrary) (p : SSRFProtection)

def isAllowedPort (port : Int) : Bool :=
  p.allowedPorts = [] || port ∈ p.allowedPorts

def isDomainAllowed (domain : String) : Bool :=
  isDomainListed domain p.domainList == p.domainFilterMode

def isIPAccessAllowed (ip : IP) : Bool :=
  !(isPrivateIP ip && !p.allowPrivateIp) && isIpInCIDRList net ip p.ipList == p.ipFilterMode

def ipAccessError (host : String) (ip : IP) : String :=
  let shown := if host ≠ "" then host ++ " resolves to " ++ net.print ip else net.print ip
  if isPrivateIP ip && !p.allowPrivateIp then "private IP address not allowed: " ++ shown
  else if p.ipFilterMode then "ip not in whitelist: " ++ shown
  else "ip in blacklist: " ++ shown

def validateNetworkTarget (host : String) (port : Int) : Except String Unit :=
  let host := trimSpace host
  if host = "" then .error "invalid host"
  else if port < 1 ∨ 65535 < port then .error ("invalid port: " ++ toString port)
  else if ¬p.isAllowedPort port then .error ("port " ++ toString port ++ " is not allowed")
  else
    match net.parseIP host with
    | some ip => if p.isIPAccessAllowed net ip then .ok () else .error (p.ipAccessError net "" ip)
    | none =>
      if p.isDomainAllowed host then .ok ()
      else if p.domainFilterMode then .error ("domain not in whitelist: " ++ host)
      else .error ("domain in blacklist: " ++ host)

end SSRFProtection

/-- What is handed to the underlying dialer: an address printed by the guard, or the text that
the guard was given. -/
inductive DialTarget where
  | literal (ip : IP) (port : String)
  | given (addr : String)
deriving DecidableEq

def networkAllowsIP (network : String) : IP → Bool
  | .v4 _ => network ≠ "tcp6"
  | .v6 _ => network ≠ "tcp4"

variable {Conn : Type}

def dialCandidates (dial : DialTarget → Except String Conn) (port lastError : String) :
    List IP → List DialTarget × Except String Conn
  | [] => ([], .error lastError)
  | ip :: rest =>
    match dial (.literal ip port) with
    | .ok conn => ([.literal ip port], .ok conn)
    | .error error =>
      let result := dialCandidates dial port error rest
      (.literal ip port :: result.1, result.2)

/-- The targets that reach the underlying dialer, and the answer. -/
def protectedDialContext (net : NetLibrary) (p : SSRFProtection)
    (resolve : String → Except String (List IP)) (dial : DialTarget → Except String Conn)
    (network addr : String) : List DialTarget × Except String Conn :=
  match net.splitHostPort addr with
  | .error error => ([], .error ("invalid dial address " ++ addr ++ ": " ++ error))
  | .ok (host, portText) =>
    match atoi portText with
    | none => ([], .error ("invalid port: " ++ portText))
    | some port =>
      match p.validateNetworkTarget net host port with
      | .error error => ([], .error error)
      | .ok () =>
        match net.parseIP host with
        | some ip => ([.literal ip portText], dial (.literal ip portText))
        | none =>
          if ¬p.applyIPFilterForDomain then ([.given addr], dial (.given addr))
          else
            match resolve host with
            | .error error =>
              ([], .error ("DNS resolution failed for " ++ host ++ ": " ++ error))
            | .ok resolved =>
              let usable := resolved.filter (networkAllowsIP network)
              match usable.find? (¬p.isIPAccessAllowed net ·) with
              | some ip => ([], .error (p.ipAccessError net host ip))
              | none =>
                dialCandidates dial portText
                  ("DNS resolution for " ++ host ++ " returned no usable IP addresses") usable

def zonedIP (net : NetLibrary) (host : String) : Option IP :=
  if '%' ∈ host.toList then
    (net.parseIP (.ofList (host.toList.takeWhile (· ≠ '%')))).filter fun ip =>
      match ip with
      | .v4 _ => false
      | .v6 _ => true
  else none

section

variable (net : NetLibrary) (p : SSRFProtection)

def PortAllowed (portText : String) : Prop :=
  ∃ port, atoi portText = some port ∧ 1 ≤ port ∧ port ≤ 65535 ∧ p.isAllowedPort port

def DialGuarded : DialTarget → Prop
  | .literal ip port => p.isIPAccessAllowed net ip ∧ PortAllowed p port
  | .given addr =>
    ∃ host port, net.splitHostPort addr = .ok (host, port) ∧ PortAllowed p port ∧
      match (net.parseIP host).or (zonedIP net host) with
      | some ip => p.isIPAccessAllowed net ip
      | none => ¬p.applyIPFilterForDomain ∧ p.isDomainAllowed (trimSpace host)

/-- A host that passes as a name is neither a forbidden literal with a zone nor, but for blanks
around it, a literal whose text the domain filter forbids. -/
def NamesOnly (addr : String) : Prop :=
  ∀ host portText port, net.splitHostPort addr = .ok (host, portText) →
    atoi portText = some port → p.validateNetworkTarget net host port = .ok () →
    net.parseIP host = none → ¬p.applyIPFilterForDomain →
      (∀ ip ∈ zonedIP net host, p.isIPAccessAllowed net ip) ∧
        (zonedIP net host = none → (net.parseIP (trimSpace host)).isSome →
          p.isDomainAllowed (trimSpace host))

variable {net p}

theorem validateNetworkTarget_ok {host : String} {port : Int}
    (valid : p.validateNetworkTarget net host port = .ok ()) :
    (1 ≤ port ∧ port ≤ 65535 ∧ p.isAllowedPort port) ∧
      ((∃ ip, net.parseIP (trimSpace host) = some ip ∧ p.isIPAccessAllowed net ip) ∨
        net.parseIP (trimSpace host) = none ∧ p.isDomainAllowed (trimSpace host)) := by
  revert valid
  fun_cases SSRFProtection.validateNetworkTarget net p host port with
  | case4 _ _ bounds allowed ip found accessible =>
    exact fun _ => ⟨⟨by omega,by omega,by simpa using allowed⟩,.inl ⟨ip,found,accessible⟩⟩
  | case6 _ _ bounds allowed unparsed named =>
    exact fun _ => ⟨⟨by omega,by omega,by simpa using allowed⟩,.inr ⟨unparsed,named⟩⟩
  | _ => nofun

theorem mem_dialCandidates {dial : DialTarget → Except String Conn} {port lastError : String}
    {ips : List IP} {target : DialTarget}
    (member : target ∈ (dialCandidates dial port lastError ips).1) :
    ∃ ip ∈ ips, target = .literal ip port := by
  induction ips generalizing lastError with
  | nil => cases member
  | cons ip rest ih =>
    unfold dialCandidates at member
    split at member
    · exact ⟨ip,mem_cons_self,mem_singleton.mp member⟩
    · rcases mem_cons.mp member with rfl | later
      · exact ⟨ip,mem_cons_self,rfl⟩
      · obtain ⟨other,listed,same⟩ := ih later
        exact ⟨other,mem_cons_of_mem _ listed,same⟩

end

def linkLocal : IP := .v6 (0xFE8 <<< 116)

def sampleNet : NetLibrary where
  parseIP host := if host = "fe80::1" then some linkLocal else none
  parseIP_clean host := by
    split_ifs with same
    · exact fun _ => same ▸ by decide +kernel
    · nofun
  parseCIDR _ := none
  splitHostPort addr := .ok (addr, "80")
  print _ := ""

end NewApi
